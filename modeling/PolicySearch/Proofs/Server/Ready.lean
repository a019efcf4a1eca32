import PolicySearch.Proofs.Server.Groups
import PolicySearch.Proofs.Tool.Answer
/-! Whether a branch is ready when a call for it goes on. It is selected, and it is indexed too, but for
one case: a call that comes while another one is still switching to its branch does not wait for
it. Only then a search hears that the branch is being indexed, and only then a document of the branch
can be missed. -/
namespace PolicySearch

namespace Server

variable {server : Server} {event : ServerEvent} {ticket : Ticket} {answer : ToolAnswer}
  {name : String}

/- A look-up does not find a document that an index has. -/
def Misses (index : Index) (answer : ToolAnswer) : Prop :=
  ∃ kind id, answer = .lookup (.error (.notFound (.str (Kind.word kind)) (.str id))) ∧
    (index.find? kind id).isSome = true

/- What is so when a call is answered that names a branch of the listing. -/
structure Ready (server : Server) (event : ServerEvent) (ticket : Ticket) (answer : ToolAnswer)
    (name : String) : Prop where
  proceeds : answer = ticket.call.answer (server.step event).session
  selected : (server.step event).session.current = some name
  indexed : (server.step event).session.index.branch = some name ∨ Early server event ticket name
  searched : ∀ branch, answer = .search (.error (.indexing branch)) →
    Early server event ticket name
  found : Misses (server.step event).session.index answer → Early server event ticket name

theorem searchHears {s : Session} (current : s.isCurrent = true) (call : ToolCall)
    (branch : String) : call.answer s ≠ .search (.error (.indexing branch)) := by
  cases call with
  | branches | lookup | unusable => nofun
  | search request =>
    intro answered
    exact Session.searchCurrent current request branch (ToolAnswer.search.inj answered)

theorem lookupFinds {s : Session} (current : s.isCurrent = true)
    (indexed : s.index.branch = some name) (call : ToolCall) :
    ¬ Misses s.index (call.answer s) := by
  rintro ⟨kind, id, answered, there⟩
  cases call with
  | branches | search | unusable => cases answered
  | lookup request =>
    rw [Session.lookupMissing current indexed (ToolAnswer.lookup.inj answered)] at there
    cases there

theorem Given.prepared (given : Given server event ticket answer)
    (named : ticket.call.branch? = some (.str name))
    (listed : (server.session.branch? (.str name)).isSome = true) :
    Ready server event ticket answer name := by
  obtain ⟨answered, selected, free | early⟩ := given.goesOn named listed
  · have current : (server.step event).session.isCurrent = true := beq_iff_eq.2 free.current
    have indexed := free.current.trans selected
    refine ⟨answered, selected, .inl indexed, fun branch hears => ?_, fun misses => ?_⟩
    · exact absurd (answered.symm.trans hears) (searchHears current ticket.call branch)
    · rw [answered] at misses
      exact absurd misses (lookupFinds current indexed ticket.call)
  · exact ⟨answered, selected, .inr early, fun _ _ => early, fun _ => early⟩

end Server

namespace Service
open Server

/- How an answer of a run came about, if it is to a call for a branch of the listing. A document that
the service holds of the branch is missed early only, if the service does not change its answers. -/
def Prepared (web : Web) (service : Service) (events : List ServerEvent) (number : Nat)
    (answer : ToolAnswer) : Prop :=
  ∃ before event after, events = before ++ event :: after ∧
    ∃ ticket ∈ arrivals events, ticket.number = number ∧
      ∀ name, ticket.call.branch? = some (.str name) →
        (service.server.session.branch? (.str name)).isSome = true →
          Ready (service.server.run before) event ticket answer name ∧
            (Faithful (service.client.backend web) service.server events →
              Misses ((service.client.backend web).index name) answer →
                Early (service.server.run before) event ticket name)

theorem readyUnlessEarly {web : Web} {settings : Settings} {service : Service}
    (started : Service.start web settings = .ok service) :
    ∀ events number answer, (number, answer) ∈ service.server.answers events →
      Prepared web service events number answer := by
  intro events number answer member
  have rested := startRested started
  obtain ⟨before, event, after, rfl, ticket, came, numbered, given⟩ := givenTo rested member
  refine ⟨before, event, after, rfl, ticket, came, numbered, fun name named listed => ?_⟩
  rw [← runListed rested.orderly before] at listed
  have ready := given.prepared named listed
  refine ⟨ready, fun faithful misses => ?_⟩
  rcases ready.indexed with indexed | early
  · have sourced := rested.sourced.run rested.orderly faithful.upTo
    rw [runLast] at sourced
    rw [← sourced.indexNamed indexed] at misses
    exact ready.found misses
  · exact early

/- One call switches to its branch, and another one waits for it to switch back. Both are answered. -/
theorem readyAfterWait : ∃ service, Service.start twoBranches {} = .ok service ∧
    let reports (generation : Nat) : List ServerEvent :=
      Kind.all.map fun kind => .fetched generation kind (.answered (.arr []))
    let events := [.arrive ⟨0, .search {} (.str "dev")⟩, .arrive ⟨1, .search {} (.str "master")⟩] ++
      reports 2 ++ [.resume] ++ reports 3
    (service.server.answers events).map Prod.fst = [0, 1] ∧
      ∀ number answer, (number, answer) ∈ service.server.answers events →
        Prepared twoBranches service events number answer := by
  have started : Service.start twoBranches {} = .ok _ := rfl
  exact ⟨_, started, by decide +kernel, readyUnlessEarly started _⟩

/- Two calls for a branch come while a first one is switching to it. -/
theorem answeredEarly : ∃ service, Service.start twoBranches {} = .ok service ∧
    (service.server.session.branch? (.str "dev")).isSome = true ∧
    (((service.client.backend twoBranches).index "dev").find? .aclPolicies "deny").isSome = true ∧
    let calls := [.search {} (.str "dev"), .search {} (.str "dev"),
      .lookup ⟨.str "aclpolicies", .str "deny"⟩ (.str "dev")]
    (service.answerAll twoBranches calls).2.map (fun answer => answer.toJson.get? "error") =
      [none, some (.str "Branch 'dev' is still being indexed."),
        some (.str "Document 'aclpolicies/deny' not found.")] := by
  have started : Service.start twoBranches {} = .ok _ := rfl
  exact ⟨_, started, by decide +kernel, by decide +kernel, by decide +kernel⟩

end Service

end PolicySearch
