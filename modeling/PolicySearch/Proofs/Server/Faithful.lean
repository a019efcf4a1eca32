import PolicySearch.Proofs.Client.Backend
import PolicySearch.Proofs.Server.Run
/-! Runs over a service whose answers do not change. Whatever the order of calls and reports, the
index of such a run is the whole index of the branch that it names. -/
namespace PolicySearch.Server

/- A report brings what the service holds of the branch of its rebuild. -/
def Honest (backend : Backend) (server : Server) : ServerEvent → Prop
  | .arrive _ | .resume => True
  | .fetched generation kind outcome =>
    ∀ r ∈ server.session.inFlight, r.generation = generation → outcome = backend r.branch kind

def Faithful (backend : Backend) (server : Server) : List ServerEvent → Prop
  | [] => True
  | event :: rest => Honest backend server event ∧ Faithful backend (server.step event) rest

theorem faithfulAppend {backend : Backend} {server : Server} {first second : List ServerEvent} :
    Faithful backend server (first ++ second) ↔
      Faithful backend server first ∧ Faithful backend (server.run first) second := by
  induction first generalizing server with
  | nil => exact (and_iff_right trivial).symm
  | cons event rest ih =>
    rw [List.cons_append, Faithful, Faithful, ih, and_assoc]
    rfl

/- The state in which an answer of a run was given is a state of that run. -/
theorem Faithful.upTo {backend : Backend} {server : Server} {event : ServerEvent}
    {before after : List ServerEvent}
    (faithful : Faithful backend server (before ++ event :: after)) :
    Faithful backend server (before ++ [event]) := by
  rw [List.append_cons] at faithful
  exact (faithfulAppend.1 faithful).1

/- What a server has was brought by fetches that may begin: nothing yet, or the whole index of a
branch, and for the rebuild in flight what its fetches have brought so far. -/
structure Sourced (backend : Backend) (server : Server) : Prop where
  unbarred : Outcome.barred? server.session.limit = none
  heard : ∀ r ∈ server.session.inFlight, ∀ kind outcome, r.outcome? kind = some outcome →
    outcome = backend r.branch kind
  index : server.session.index = {} ∨ ∃ branch, server.session.index = backend.index branch

theorem wholeIndex {backend : Backend} {r : Rebuild} (complete : r.complete = true)
    (heard : ∀ kind outcome, r.outcome? kind = some outcome → outcome = backend r.branch kind) :
    r.index = backend.index r.branch := by
  rw [Rebuild.completeIndex complete (backend r.branch), Backend.index]
  congr 1
  funext kind
  obtain ⟨outcome, found⟩ := Option.isSome_iff_exists.1 (Rebuild.completeIff.1 complete kind)
  rw [found, Option.getD_some, heard kind outcome found]

namespace Sourced

variable {backend : Backend} {server : Server} {event : ServerEvent}

theorem indexNamed (sourced : Sourced backend server) {name : String}
    (named : server.session.index.branch = some name) :
    server.session.index = backend.index name := by
  rcases sourced.index with empty | ⟨branch, same⟩
  · rw [empty] at named
    cases named
  · rw [same] at named
    rw [same, ← Option.some.inj named]

theorem effective (sourced : Sourced backend server) (outcome : Outcome) :
    server.session.effective outcome = outcome := by
  rw [Session.effective, sourced.unbarred, Option.getD_none]

theorem heardHonest (sourced : Sourced backend server) {r : Rebuild}
    (member : r ∈ server.session.inFlight) {kind : Kind} {outcome : Outcome}
    (honest : outcome = backend r.branch kind) :
    ∀ other found, (r.receive kind outcome).outcome? other = some found →
      found = backend (r.receive kind outcome).branch other := by
  intro other found heard
  rw [(r.receiveKeeps kind outcome).2]
  by_cases same : other = kind
  · subst same
    rw [Rebuild.receiveSelf] at heard
    cases known : r.outcome? other with
    | none =>
      rw [known] at heard
      exact (Option.some.inj heard).symm.trans honest
    | some first =>
      rw [known] at heard
      exact (Option.some.inj heard) ▸ sourced.heard r member other first known
  · rw [Rebuild.receiveOther outcome same] at heard
    exact sourced.heard r member other found heard

theorem step (sourced : Sourced backend server) (orderly : Orderly server)
    (honest : Honest backend server event) : Sourced backend (server.step event) := by
  unfold Server.step
  cases serveTurn orderly event with
  | idle _ _ same _ _ | atOnce _ _ _ _ same _ _ => rwa [same]
  | waits _ _ _ _ _ same _ _ | refuses _ _ _ _ same _ _ =>
    rw [same]
    exact ⟨sourced.unbarred, sourced.heard, sourced.index⟩
  | switches w known free _ _ same _ _ =>
    rw [same]
    refine ⟨sourced.unbarred, ?_, sourced.index⟩
    intro r member kind outcome found
    simp only [Session.beginRebuild, free.rested, List.nil_append, List.mem_singleton] at member
    rw [member] at found
    cases found
  | hears holder r kind outcome held reported _ same _ _ =>
    have member : r ∈ server.session.inFlight := held.single ▸ List.mem_singleton_self r
    rw [reported] at honest
    rw [same, sourced.effective outcome]
    refine ⟨sourced.unbarred, ?_, sourced.index⟩
    intro heard inside
    rw [List.mem_singleton.1 inside]
    exact sourced.heardHonest member (honest r member rfl)
  | ends holder r kind outcome held reported complete same _ _ =>
    have member : r ∈ server.session.inFlight := held.single ▸ List.mem_singleton_self r
    rw [reported] at honest
    have heard := sourced.heardHonest member (honest r member rfl)
    rw [same]
    rw [sourced.effective outcome] at complete ⊢
    exact ⟨sourced.unbarred, fun _ inside => absurd inside List.not_mem_nil,
      .inr ⟨_, wholeIndex complete heard⟩⟩

theorem run (sourced : Sourced backend server) (orderly : Orderly server) {events : List ServerEvent}
    (faithful : Faithful backend server events) : Sourced backend (server.run events) := by
  induction events generalizing server with
  | nil => exact sourced
  | cons event rest ih =>
    exact ih (sourced.step orderly faithful.1) (orderly.step event) faithful.2

end Sourced

end PolicySearch.Server
