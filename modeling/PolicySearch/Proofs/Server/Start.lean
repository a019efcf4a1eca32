import PolicySearch.Proofs.Server.Faithful
import PolicySearch.Proofs.Server.Given
import PolicySearch.Server.Service
/-! A service as it starts: its session has the whole index of the first branch of the listing, or
no branch at all, and no call has come yet. -/
namespace PolicySearch

theorem unbarredLimit {settings : Settings} {limit : Option Amount}
    (chosen : Session.chooseLimit none settings = .ok limit) : Outcome.barred? limit = none := by
  simp only [Session.chooseLimit] at chosen
  cases read : settings.fetchLimit with
  | error bad =>
    rw [read] at chosen
    cases chosen
  | ok seconds =>
    rw [read] at chosen
    cases chosen
    cases seconds with
    | none => rfl
    | some x =>
      have positive := Settings.fetchLimitPositive read
      have unspent : (Amount.real x).spent = false := by
        cases x <;> simp_all [Amount.spent, Number.Binary64.atMost]
      simp only [Outcome.barred?, Option.map_some, Option.bind_some, unspent, Amount.boundless,
        Bool.false_eq_true, if_false]

namespace Session

variable {s : Session}

theorem receiveAllSession (s : Session) (generation : Nat) (outcomes : List (Kind × Outcome)) :
    (s.receiveAll generation outcomes).session =
      outcomes.foldl (fun s report => (s.receive generation report.1 report.2).session) s :=
  (List.foldl_hom Effect.session fun _ _ => rfl).symm

theorem receiveAllReports (outcome : Kind → Outcome) (generation : Nat) (kinds : List Kind) :
    (s.receiveAll generation (kinds.map fun kind => (kind, outcome kind))).session =
      kinds.foldl (report outcome generation) s := by
  rw [receiveAllSession, List.foldl_map]
  rfl

/- The whole rebuild of a branch over a service whose answers do not change. -/
theorem reportWhole (backend : Backend) {generation : Nat} {branch : String}
    (single : s.inFlight = [{ generation := generation, branch := branch }])
    (newest : generation = s.generation) (selected : s.current = some branch)
    (unbarred : Outcome.barred? s.limit = none) :
    Kind.all.foldl (report (backend branch) generation) s =
      { s with index := backend.index branch, inFlight := [] } := by
  have whole := reportAll (backend branch) Kind.all single rfl newest selected
    fun kind absent => absurd (Kind.memberOfAll kind) absent
  simpa only [Backend.index, effective, unbarred, Option.getD_none, Rebuild.outcome?,
    List.lookup_nil] using whole

/- A new session selects the first branch of the listing, if there is one. -/
theorem loadFresh (limit : Option Amount) (listing : Except Fault Json) :
    (load { limit := limit } listing).session = { limit := limit } ∧
        (load { limit := limit } listing).begun = none ∨
      ∃ first rest,
        (load { limit := limit } listing).session =
          (beginRebuild { limit := limit, branches := first :: rest, current := some first.id }
            first.id).session ∧
        (load { limit := limit } listing).begun = some { generation := 1, branch := first.id } := by
  unfold load
  cases listed : (branchesOf listing).1 with
  | nil =>
    dsimp only
    rw [listed, selectFirstNone rfl]
    exact .inl ⟨rfl, rfl⟩
  | cons first rest =>
    dsimp only
    rw [listed, selectFirstListed rfl rfl]
    exact .inr ⟨first, rest, rfl, rfl⟩

end Session

namespace Online

variable {o : Online} {web : Web}

theorem finishIdle {effect : Effect} (idle : effect.begun = none) :
    (o.finish web effect).session = effect.session := by
  simp only [finish, idle]

/- A rebuild that is begun alone brings the whole index of its branch. -/
theorem finishWhole (o : Online) (web : Web) {s : Session} {effect : Effect} {branch : String}
    (plain : o.client.cacheStem = none)
    (begun : effect.begun = some { generation := s.generation + 1, branch := branch })
    (session : effect.session = ({ s with current := some branch }.beginRebuild branch).session)
    (rested : s.inFlight = []) (unbarred : Outcome.barred? s.limit = none) :
    (o.finish web effect).session =
      { effect.session with index := (o.client.backend web).index branch, inFlight := [] } := by
  have single : effect.session.inFlight =
      [{ generation := s.generation + 1, branch := branch }] := by
    simp [session, Session.beginRebuild, rested]
  have limit : Outcome.barred? effect.session.limit = none := by
    rw [session]
    exact unbarred
  have fetches : effect.session.fetches = true := by simp [Session.fetches, limit]
  simp only [finish, begun, fetches]
  rw [Client.plainGather plain, Session.receiveAllReports,
    Session.reportWhole _ single (by rw [session]; rfl) (by rw [session]; rfl) limit]

/- After the first load there is no branch, or the whole index of the first one. -/
theorem loadWhole (plain : o.client.cacheStem = none) {limit : Option Amount}
    (fresh : o.session = { limit := limit }) (unbarred : Outcome.barred? limit = none) :
    (o.load web).session = { limit := limit } ∨
      ∃ first rest,
        (o.load web).session =
          { (Session.beginRebuild
                { limit := limit, branches := first :: rest, current := some first.id }
                first.id).session with
            index := (o.client.backend web).index first.id
            inFlight := [] } := by
  simp only [load, fresh]
  rcases Session.loadFresh limit (o.client.listBranches web o.trail).1 with
    ⟨session, idle⟩ | ⟨first, rest, session, begun⟩
  · rw [finishIdle idle, session]
    exact .inl rfl
  · have whole := finishWhole (s := { limit := limit, branches := first :: rest })
      ⟨o.client, { limit := limit }, (o.client.listBranches web o.trail).2⟩ web plain begun session
      rfl unbarred
    rw [session] at whole
    exact .inr ⟨first, rest, whole⟩

end Online

/- Between calls: nobody has the switch or waits for it, and what there is was brought by a client
that keeps no texts. -/
structure Service.Rested (web : Web) (service : Service) : Prop where
  plain : service.client.cacheStem = none
  orderly : Server.Orderly service.server
  free : Server.Free service.server
  idle : service.server.waiting = []
  sourced : Server.Sourced (service.client.backend web) service.server

namespace Service
open Server

variable {web : Web} {settings : Settings} {service : Service}

theorem startLoaded (started : Service.start web settings = .ok service) :
    ∃ o : Online, ∃ limit, o.session = { limit := limit } ∧ Outcome.barred? limit = none ∧
      o.client.cacheStem = none ∧ service.client = o.client ∧
      service.server = { session := (o.load web).session } := by
  unfold Service.start at started
  cases chosen : Session.chooseLimit none settings with
  | error bad =>
    rw [chosen] at started
    cases started
  | ok limit =>
    rw [chosen] at started
    cases started
    exact ⟨_, limit, rfl, unbarredLimit chosen, rfl, rfl, rfl⟩

theorem restedOf {session : Session} (server : service.server = { session := session })
    (plain : service.client.cacheStem = none) (rested : session.inFlight = [])
    (current : session.index.branch = session.current)
    (listed : ∀ name, session.current = some name → (session.branch? (.str name)).isSome = true)
    (unbarred : Outcome.barred? session.limit = none)
    (index : session.index = {} ∨
      ∃ branch, session.index = (service.client.backend web).index branch) :
    service.Rested web where
  plain := plain
  orderly :=
    { phase := .inl (by rw [server]; exact ⟨rfl, rested, current⟩)
      queue := by rw [server]; exact fun w waits => absurd waits List.not_mem_nil
      listed := by rw [server]; exact listed }
  free := by rw [server]; exact ⟨rfl, rested, current⟩
  idle := by rw [server]
  sourced := by
    rw [server]
    refine ⟨unbarred, fun r member => ?_, index⟩
    rw [rested] at member
    cases member

theorem startRested (started : Service.start web settings = .ok service) : service.Rested web := by
  obtain ⟨o, limit, fresh, unbarred, plain, client, server⟩ := startLoaded started
  rcases o.loadWhole plain fresh unbarred with empty | ⟨first, rest, whole⟩
  · rw [empty] at server
    exact restedOf server (client ▸ plain) rfl rfl nofun unbarred (.inl rfl)
  · rw [whole] at server
    refine restedOf server (client ▸ plain) rfl rfl ?_ unbarred (.inr ⟨first.id, ?_⟩)
    · intro name selected
      obtain rfl := Option.some.inj selected
      simp [Session.branch?, Session.beginRebuild, Json.text?]
    · rw [client]

theorem Rested.unpending (rested : service.Rested web) : service.server.pending = [] := by
  rw [rested.free.pending, rested.idle, List.map_nil]

/- Each answer of a run from rest was given at some event of it, to a call that had come. -/
theorem givenTo (rested : service.Rested web) {events : List ServerEvent} {number : Nat}
    {answer : ToolAnswer} (member : (number, answer) ∈ service.server.answers events) :
    ∃ before event after, events = before ++ event :: after ∧
      ∃ ticket ∈ arrivals events, ticket.number = number ∧
        Given (service.server.run before) event ticket answer := by
  obtain ⟨before, event, after, same, ticket, came, numbered, given⟩ :=
    runGiven rested.orderly member
  rw [rested.unpending, List.append_nil] at came
  refine ⟨before, event, after, same, ticket, ?_, numbered, given⟩
  rw [same, List.append_cons, arrivalsAppend]
  exact List.mem_append_left _ came

end Service

/- Two branches, and a policy on the second one. -/
def twoBranches : Web := fun url =>
  if url = Settings.defaultRoot ++ "/configs/" then
    .response { body := "[\x7b\"id\": \"master\"\x7d, \x7b\"id\": \"dev\"\x7d]" }
  else if url = Settings.defaultRoot ++ "/configs/dev/d/aclpolicies/" then
    .response { body := "[\x7b\"id\": \"deny\"\x7d]" }
  else .response { body := "[]" }

end PolicySearch
