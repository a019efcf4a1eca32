import PolicySearch.Proofs.Server.Answers
import PolicySearch.Proofs.Tool.Answer
/-! Calls that come together do not disturb each other: what is answered to a call that names a
branch, and is no complaint, is what a fresh service answers to that call alone. -/
namespace PolicySearch

/- A session with the whole index of one branch, and nothing else. -/
def Backend.session (backend : Backend) (name : String) : Session :=
  { current := some name, index := backend.index name }

namespace Server

variable {server : Server} {event : ServerEvent} {ticket : Ticket} {answer : ToolAnswer}
  {backend : Backend} {branch : Json}

theorem Given.whole (given : Given server event ticket answer)
    (sourced : Sourced backend (server.step event))
    (named : ticket.call.branch? = some branch) (clean : answer.toJson.get? "error" = none) :
    ∃ name, branch = .str name ∧ (server.step event).session.current = some name ∧
      answer = ticket.call.answer (backend.session name) ∧ answer.Of name := by
  cases given with
  | refused other own unknown answered =>
    rw [answered] at clean
    exact absurd clean (ToolCall.refuseComplains own _)
  | unnamed unnamed =>
    rw [named] at unnamed
    cases unnamed
  | proceeds name own selected ready answered =>
    rw [answered] at clean
    obtain ⟨current, shown⟩ := ToolCall.answerOf named selected clean
    have indexed : (server.step event).session.index.branch = some name :=
      (beq_iff_eq.1 current).trans selected
    have index := sourced.indexNamed indexed
    refine ⟨name, Option.some.inj (named.symm.trans own), selected, ?_, answered ▸ shown⟩
    rw [answered, ToolCall.answerSame (t := backend.session name) named selected index]

end Server

namespace Service
open Server

variable {web : Web} {service : Service} {events : List ServerEvent} {number : Nat}
  {answer : ToolAnswer} {call : ToolCall} {name : String}

/- An answer to a call that names a branch, if it is no complaint, is made from the whole index of
that branch, and shows it. -/
theorem answeredWhole (rested : service.Rested web) {before after : List ServerEvent}
    {event : ServerEvent} {ticket : Ticket}
    (faithful : Faithful (service.client.backend web) service.server (before ++ event :: after))
    (given : Given (service.server.run before) event ticket answer) {branch : Json}
    (named : ticket.call.branch? = some branch) (clean : answer.toJson.get? "error" = none) :
    ∃ name, branch = .str name ∧ (service.server.session.branch? (.str name)).isSome = true ∧
      answer = ticket.call.answer ((service.client.backend web).session name) ∧
      answer.Of name := by
  have sourced := rested.sourced.run rested.orderly faithful.upTo
  have orderly := rested.orderly.run (before ++ [event])
  rw [runLast] at sourced orderly
  obtain ⟨name, spelled, selected, whole, shown⟩ := given.whole sourced named clean
  refine ⟨name, spelled, ?_, whole, shown⟩
  have listed := orderly.listed name selected
  rwa [← runLast, runListed rested.orderly] at listed

/- A call that comes alone finds no other one that has the switch. -/
theorem aloneUnearly (rested : service.Rested web) {event : ServerEvent}
    {before after : List ServerEvent} {ticket : Ticket}
    (came : arrivals (before ++ event :: after) = [ticket]) :
    ¬ Early (service.server.run before) event ticket name := by
  rintro ⟨arrived, _, holder, _, holds, _⟩
  subst arrived
  rw [arrivalsAppend, arrivalsCons] at came
  have first : arrivals before = [] := by
    rcases List.append_eq_singleton_iff.1 came with ⟨first, _⟩ | ⟨_, last⟩
    · exact first
    · cases last
  have pending : holder.ticket ∈ (service.server.run before).pending := by
    rw [Server.pending, holds]
    exact List.mem_cons_self
  have earlier := runPending rested.orderly before holder.ticket pending
  rw [first, rested.unpending] at earlier
  cases earlier

theorem givenAlone (rested : service.Rested web) {event : ServerEvent} {before after : List ServerEvent}
    {ticket : Ticket} (came : arrivals (before ++ event :: after) = [ticket])
    (given : Given (service.server.run before) event ticket answer)
    (named : ticket.call.branch? = some (.str name))
    (listed : (service.server.session.branch? (.str name)).isSome = true)
    (sourced : Sourced (service.client.backend web) ((service.server.run before).step event)) :
    answer = ticket.call.answer ((service.client.backend web).session name) := by
  rw [← runListed rested.orderly before] at listed
  obtain ⟨answered, selected, free | early⟩ := given.goesOn named listed
  · have index := sourced.indexNamed (free.current.trans selected)
    rw [answered]
    exact ToolCall.answerSame (t := (service.client.backend web).session name) named selected index
  · exact absurd early (aloneUnearly rested came)

theorem answeredAlone (rested : service.Rested web) (named : call.branch? = some (.str name))
    (listed : (service.server.session.branch? (.str name)).isSome = true) :
    (service.answerAll web [call]).2 =
      [call.answer ((service.client.backend web).session name)] := by
  obtain ⟨answer, one, rfl⟩ : ∃ answer, (service.answerAll web [call]).2 = [answer] ∧
      answer = call.answer ((service.client.backend web).session name) := by
    refine answerAlone rested fun before event after answer faithful only given => ?_
    have sourced := rested.sourced.run rested.orderly faithful.upTo
    rw [runLast] at sourced
    exact givenAlone rested only given named listed sourced
  exact one

/- What is answered to a call that names a branch, and is no complaint, is the answer to that call
alone, and shows that branch. -/
def AsAlone (service : Service) (web : Web) (call : ToolCall) (answer : ToolAnswer) : Prop :=
  ∀ branch, call.branch? = some branch → answer.toJson.get? "error" = none →
    (service.answerAll web [call]).2 = [answer] ∧ ∃ name, branch = .str name ∧ answer.Of name

/- The service may have answered other calls before. -/
theorem asAlone (rested : service.Rested web) {later : Service} (after : later.Rested web)
    (client : later.client = service.client)
    (listing : ∀ branch,
      later.server.session.branch? branch = service.server.session.branch? branch)
    {before rest : List ServerEvent} {event : ServerEvent} {ticket : Ticket}
    (faithful : Faithful (later.client.backend web) later.server (before ++ event :: rest))
    (given : Given (later.server.run before) event ticket answer) :
    AsAlone service web ticket.call answer := by
  intro branch named clean
  obtain ⟨name, rfl, listed, answered, shown⟩ := answeredWhole after faithful given named clean
  rw [listing] at listed
  rw [client] at answered
  refine ⟨?_, name, rfl, shown⟩
  rw [answered]
  exact answeredAlone rested named listed

/- Of a service as it starts: at any time of any run of its server, and for groups of calls that come
together, one group after another. -/
theorem answeredAsAlone {settings : Settings} (started : Service.start web settings = .ok service) :
    (∀ events, Faithful (service.client.backend web) service.server events →
      ∀ number answer, (number, answer) ∈ service.server.answers events →
        ∃ ticket ∈ arrivals events, ticket.number = number ∧
          AsAlone service web ticket.call answer) ∧
      ∀ groups calls, List.Forall₂ (AsAlone service web) calls
        ((service.after web groups).answerAll web calls).2 := by
  have rested := startRested started
  constructor
  · intro events faithful number answer member
    obtain ⟨before, event, after, rfl, ticket, came, numbered, given⟩ := givenTo rested member
    exact ⟨ticket, came, numbered, asAlone rested rested rfl (fun _ => rfl) faithful given⟩
  · intro groups calls
    obtain ⟨earlier, past⟩ := groupsPlayed rested groups
    have listing : ∀ branch, (service.after web groups).server.session.branch? branch =
        service.server.session.branch? branch := by
      intro branch
      rw [past.server, runListed rested.orderly]
    obtain ⟨events, played⟩ := groupPlayed past.rested calls
    refine played.each past.rested fun before event after same ticket _ answer given => ?_
    have faithful := played.faithful
    rw [same] at faithful
    exact asAlone rested past.rested past.client listing faithful given

/- Two calls for different branches, one of which waits for the other; neither is a complaint. -/
theorem answeredAsAloneTwice : ∃ service, Service.start twoBranches {} = .ok service ∧
    let calls := [.search {} (.str "dev"), .search {} (.str "master")]
    let answers := (service.answerAll twoBranches calls).2
    List.Forall₂ (AsAlone service twoBranches) calls answers ∧
      answers.map (fun answer => answer.toJson.get? "error") = [none, none] := by
  have started : Service.start twoBranches {} = .ok _ := rfl
  exact ⟨_, started, (answeredAsAlone started).2 [] _, by decide +kernel⟩

end Service

end PolicySearch
