import PolicySearch.Proofs.Server.Answers
import PolicySearch.Proofs.Tool.Answer
/-! Calls that cannot be answered because of what they ask for. Such a call leaves no trace if it
names no branch, the selected one or one that is not in the listing. But what it asks for is looked
at only after the switch: if it names another branch of the listing, that branch is selected and
fetched, and the call is refused then. -/
namespace PolicySearch

/- A mode or a kind of document that there is not. -/
def ToolCall.Faulty : ToolCall → Prop
  | search request _ => ∃ e, Mode.ofJson request.mode = .error e
  | lookup request _ => ∃ e, Kind.ofJson request.kind = .error e
  | branches | unusable _ => False

inductive ToolCall.Rejected (s : Session) (call : ToolCall) : Prop where
  | unlisted (branch : Json) (named : call.branch? = some branch) (unknown : s.branch? branch = none)
  | faulty (faulty : call.Faulty)

theorem ToolCall.faultyComplains {call : ToolCall} (faulty : call.Faulty) (s : Session) :
    (call.answer s).toJson.get? "error" ≠ none := by
  cases call with
  | branches | unusable => cases faulty
  | search request branch =>
    obtain ⟨e, unknown⟩ := faulty
    rw [answer, Session.searchUnknownMode unknown]
    exact (SearchRefusal.unknownMode e).complains
  | lookup request branch =>
    obtain ⟨e, unknown⟩ := faulty
    have refused : s.answerLookup request = .error (.unknownKind request.kind) := by
      unfold Session.answerLookup
      rw [unknown]
    rw [answer, refused]
    exact (LookupRefusal.unknownKind request.kind).complains

theorem Server.Given.complains {server : Server} {event : ServerEvent} {ticket : Ticket}
    {answer : ToolAnswer} (given : Given server event ticket answer)
    (orderly : Orderly (server.step event))
    (rejected : ticket.call.Rejected (server.step event).session) :
    answer.toJson.get? "error" ≠ none := by
  cases given with
  | refused branch own unknown answered => exact answered ▸ ToolCall.refuseComplains own _
  | unnamed unnamed answered =>
    cases rejected with
    | unlisted branch named unknown =>
      rw [unnamed] at named
      cases named
    | faulty faulty => exact answered ▸ ToolCall.faultyComplains faulty _
  | proceeds name own selected ready answered =>
    cases rejected with
    | unlisted branch named unknown =>
      cases Option.some.inj (named.symm.trans own)
      have listed := orderly.listed name selected
      rw [unknown] at listed
      cases listed
    | faulty faulty => exact answered ▸ ToolCall.faultyComplains faulty _

namespace Service
open Server

variable {web : Web} {service : Service} {round : Round} {events : List ServerEvent}
  {call : ToolCall} {name : String}

/- A step of the server that changes nothing, and says nothing, adds its answers to a round. -/
theorem noteAnswers (round : Round) (answers : List (Nat × ToolAnswer)) :
    note round { server := round.service.server, answers := answers } =
      { round with answers := round.answers ++ answers } := by
  simp [note, Trail.say]

theorem resumeIdle {server : Server} (idle : server.waiting = []) :
    server.resume = { server := server } := by
  unfold resume
  rw [idle]
  split
  · rename_i waits
    cases waits
  · rfl

theorem drainSettled (calls : Nat) (settled : (settle web round).begun = none)
    (idle : (settle web round).service.server.waiting = []) :
    drain web calls round = settle web round := by
  induction calls generalizing round with
  | zero => rfl
  | succ calls ih =>
    have again : settle web (settle web round) = settle web round := by rw [settle, settled]
    unfold drain
    dsimp only
    rw [resumeIdle idle, noteAnswers, List.append_nil, ih (again.symm ▸ settled) (again.symm ▸ idle),
      again]

/- A call that names no other branch of the listing is answered at once, and nothing is changed. -/
theorem arriveStays (rested : service.Rested web) (ticket : Ticket)
    (stays : ∀ name, ticket.call.branch? = some (.str name) →
      (service.server.session.branch? (.str name)).isSome = true →
        service.server.session.current = some name) :
    ∃ answers, service.server.arrive ticket = { server := service.server, answers := answers } := by
  unfold Server.arrive
  cases wanted : service.server.wanted? ticket.call with
  | none => exact ⟨_, rfl⟩
  | some branch =>
    have unlisted : service.server.session.branch? branch = none := by
      cases found : service.server.session.branch? branch with
      | none => rfl
      | some known =>
        obtain ⟨named, differs⟩ := Option.filter_eq_some_iff.1 wanted
        obtain rfl := (Session.branchNamed found).1
        rw [stays known.id named (Option.isSome_of_eq_some found)] at differs
        simp at differs
    simp only [rested.free.unheld, rested.idle, take, unlisted]
    exact ⟨_, rfl⟩

theorem answerStill (rested : service.Rested web) {answers : List (Nat × ToolAnswer)}
    (same : service.server.arrive ⟨0, call⟩ = { server := service.server, answers := answers }) :
    service.answerAll web [call] = (service, (answers.lookup 0).toList) := by
  have arrived : arrive { service := service } ⟨0, call⟩ =
      { service := service, answers := answers } := by
    rw [arrive, same]
    exact noteAnswers { service := service } answers
  have drained : drain web 1 (arrive { service := service } ⟨0, call⟩) =
      { service := service, answers := answers } := by
    rw [arrived]
    exact drainSettled 1 rfl rested.idle
  have read : service.answerAll web [call] =
      ((drain web 1 (arrive { service := service } ⟨0, call⟩)).service,
        [Ticket.mk 0 call].filterMap fun ticket =>
          (drain web 1 (arrive { service := service } ⟨0, call⟩)).answers.lookup ticket.number) :=
    rfl
  rw [read, drained]
  cases found : answers.lookup 0 <;> simp [found]

theorem answerStays (rested : service.Rested web)
    (stays : ∀ name, call.branch? = some (.str name) →
      (service.server.session.branch? (.str name)).isSome = true →
        service.server.session.current = some name) :
    (service.answerAll web [call]).1 = service := by
  obtain ⟨answers, same⟩ := arriveStays rested ⟨0, call⟩ stays
  rw [answerStill rested same]

theorem arriveSwitches (rested : service.Rested web) (ticket : Ticket)
    (named : ticket.call.branch? = some (.str name))
    (listed : (service.server.session.branch? (.str name)).isSome = true)
    (other : service.server.session.current ≠ some name) :
    (service.server.arrive ticket).begun =
        some { generation := service.server.session.generation + 1, branch := name } ∧
      (service.server.arrive ticket).server.session.current = some name ∧
      (service.server.arrive ticket).server.waiting = [] := by
  obtain ⟨known, found⟩ := Option.isSome_iff_exists.1 listed
  obtain rfl := Json.str.inj (Session.branchNamed found).1
  have wanted : service.server.wanted? ticket.call = some (.str known.id) := by
    simp [wanted?, named, Option.filter, other]
  simp only [Server.arrive, wanted, rested.free.unheld, rested.idle, take, found, Session.select]
  exact ⟨rfl, rfl, rfl⟩

/- What a call does that names another branch of the listing. -/
structure Switched (web : Web) (before after : Service) (name : String) : Prop where
  current : after.server.session.current = some name
  index : after.server.session.index = (before.client.backend web).index name
  asked : after.trail.asked.length = before.trail.asked.length + Kind.all.length

theorem drainSwitched (rested : service.Rested web) (follows : Follows web service events round)
    (fresh : Fresh round) {r : Rebuild} (begun : round.begun = some r)
    (current : round.service.server.session.current = some r.branch)
    (alone : round.service.server.waiting = []) (calls : Nat) :
    Switched web round.service (drain web calls round).service r.branch := by
  have whole := settleWhole rested follows fresh begun
  have reports := settleReports rested follows begun
  obtain ⟨_, idle, settled, asked⟩ :=
    reportedFrame web service r.generation r.branch Kind.all (requested web round r)
  rw [← reports] at idle settled asked
  rw [drainSettled calls settled (idle.trans alone)]
  refine ⟨?_, ?_, ?_⟩
  · rw [whole]
    exact current
  · rw [whole, follows.client]
  · rw [asked]
    exact Client.kindsAsked (follows.client ▸ rested.plain) web r.branch Kind.all _

theorem answerSwitches (rested : service.Rested web) (named : call.branch? = some (.str name))
    (listed : (service.server.session.branch? (.str name)).isSome = true)
    (other : service.server.session.current ≠ some name) :
    Switched web service (service.answerAll web [call]).1 name := by
  obtain ⟨begun, current, alone⟩ := arriveSwitches rested ⟨0, call⟩ named listed other
  have start : Follows web service [] { service := service } := ⟨rfl, rfl, rfl, trivial⟩
  have none : Fresh { service := service } := ⟨rested.free.rested, nofun⟩
  obtain ⟨follows, fresh⟩ := arrivalsFollow rested [⟨0, call⟩] start none
  have flying : (arrive { service := service } ⟨0, call⟩).begun =
      some { generation := service.server.session.generation + 1, branch := name } := by
    rw [arrive, note, begun]
    rfl
  have switched := drainSwitched rested follows fresh flying current alone 1
  exact ⟨switched.current, switched.index, switched.asked⟩

theorem rejectedComplains (rested : service.Rested web)
    (rejected : call.Rejected service.server.session) :
    ∃ answer, (service.answerAll web [call]).2 = [answer] ∧
      answer.toJson.get? "error" ≠ none := by
  refine answerAlone rested fun before event after answer _ _ given => ?_
  have orderly := rested.orderly.run (before ++ [event])
  have listing := runBranches rested.orderly (before ++ [event])
  rw [runLast] at orderly listing
  refine given.complains orderly ?_
  cases rejected with
  | unlisted branch named unknown =>
    refine .unlisted branch named ?_
    rwa [Session.branch?, listing]
  | faulty faulty => exact .faulty faulty

/- A call that is refused for its own arguments, made after any groups of calls. It is answered with
a complaint. Nothing of the service is changed by it, unless it names another branch of the
listing. -/
theorem rejectedCall {settings : Settings} (started : Service.start web settings = .ok service)
    (groups : List (List ToolCall))
    (rejected : call.Rejected (service.after web groups).server.session) :
    let before := service.after web groups
    let served := before.answerAll web [call]
    (∃ answer, served.2 = [answer] ∧ answer.toJson.get? "error" ≠ none) ∧
      ((∀ name, call.branch? = some (.str name) →
          (before.server.session.branch? (.str name)).isSome = true →
            before.server.session.current = some name) →
        served.1 = before) ∧
      ∀ name, call.branch? = some (.str name) →
        (before.server.session.branch? (.str name)).isSome = true →
          before.server.session.current ≠ some name →
            Switched web before served.1 name := by
  obtain ⟨events, played⟩ := groupsPlayed (startRested started) groups
  exact ⟨rejectedComplains played.rested rejected, answerStays played.rested,
    fun name => answerSwitches played.rested⟩

theorem rejectedCallOwner : ∃ service, Service.start twoBranches {} = .ok service ∧
    Switched twoBranches service
      (service.answerAll twoBranches [.search { mode := .str "owner" } (.str "dev")]).1 "dev" := by
  have known : ∃ service, Service.start twoBranches {} = .ok service ∧
      (service.server.session.branch? (.str "dev")).isSome = true ∧
      service.server.session.current ≠ some "dev" :=
    ⟨_, rfl, by decide +kernel, by decide +kernel⟩
  obtain ⟨service, started, listed, other⟩ := known
  have faulty : ToolCall.Faulty (.search { mode := .str "owner" } (.str "dev")) :=
    ⟨⟨.str "owner"⟩, by decide +kernel⟩
  exact ⟨service, started, (rejectedCall started [] (.faulty faulty)).2.2 "dev" rfl listed other⟩

/- There is no mode of that name, and yet the branch is switched and fetched. -/
theorem refusedAfterSwitch : ∃ service, Service.start twoBranches {} = .ok service ∧
    let served := service.answerAll twoBranches [.search { mode := .str "owner" } (.str "dev")]
    Mode.ofJson (.str "owner") = .error ⟨.str "owner"⟩ ∧
      served.2.map (fun answer => answer.toJson.get? "error") =
        [some (.str (UnknownMode.message ⟨.str "owner"⟩))] ∧
      service.server.session.current = some "master" ∧
      served.1.server.session.current = some "dev" ∧
      service.server.session.index.branch = some "master" ∧
      served.1.server.session.index.branch = some "dev" ∧
      service.trail.asked.length = 7 ∧ served.1.trail.asked.length = 13 := by
  have started : Service.start twoBranches {} = .ok _ := rfl
  exact ⟨_, started, by decide +kernel⟩

end Service

end PolicySearch
