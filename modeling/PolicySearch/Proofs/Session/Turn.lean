import PolicySearch.Session.Run
/-! What one event can do to a session, said once. A load, a selection or a refresh may begin a
rebuild; the report of a fetch reaches at most the one rebuild in flight that it is meant for; and
every other event leaves the rebuilds and the index alone. -/
namespace PolicySearch

theorem Rebuild.receiveKeeps (r : Rebuild) (kind : Kind) (outcome : Outcome) :
    (r.receive kind outcome).generation = r.generation ∧
      (r.receive kind outcome).branch = r.branch := by
  unfold Rebuild.receive
  split <;> exact ⟨rfl, rfl⟩

namespace Session

/- What the rebuild takes from the event: the outcome of a fetch of its own, if it is one. -/
def hear (s : Session) (event : Event) (r : Rebuild) : Rebuild :=
  match event with
  | .fetched generation kind outcome =>
    if r.generation = generation then r.receive kind (s.effective outcome) else r
  | _ => r

theorem hearKeeps (s : Session) (event : Event) (r : Rebuild) :
    (s.hear event r).generation = r.generation ∧ (s.hear event r).branch = r.branch := by
  cases event with
  | fetched generation kind outcome =>
    simp only [hear]
    split
    · exact r.receiveKeeps kind _
    · exact ⟨rfl, rfl⟩
  | _ => exact ⟨rfl, rfl⟩

theorem hearComplete (s : Session) (event : Event) {r : Rebuild} (complete : r.complete = true) :
    s.hear event r = r := by
  cases event with
  | fetched generation kind outcome =>
    simp only [hear]
    split
    · have known := Rebuild.completeIff.1 complete kind
      simp only [Rebuild.receive, known, if_true]
    · rfl
  | _ => rfl

/- The four things that an event can do. It changes the listing and the query at most; or it selects
a branch and begins a rebuild of it; or one rebuild in flight hears it, and still waits for another
fetch; or it brings the last outcome of that rebuild, which leaves and may install its index. -/
inductive Turn (s : Session) (event : Event) (e : Effect) : Prop where
  | stays (branches : List Branch) (query : Draft)
      (session : e.session = { s with branches := branches, query := query })
      (begun : e.begun = none) (settled : e.settled = none)
      (unheard : ∀ r ∈ s.inFlight, s.hear event r = r)
  | begins (branches : List Branch) (branch : String)
      (session : e.session =
        (beginRebuild { s with branches := branches, current := some branch } branch).session)
      (begun : e.begun = some { generation := s.generation + 1, branch := branch })
      (settled : e.settled = none)
      (unheard : ∀ r, s.hear event r = r)
  | hears (old : Rebuild) (member : old ∈ s.inFlight)
      (other : ∀ r, r.generation ≠ old.generation → s.hear event r = r)
      (pending : (s.hear event old).complete = false)
      (session : e.session = { s with inFlight := replace (s.hear event old) s.inFlight })
      (begun : e.begun = none) (settled : e.settled = none)
  | resolves (old : Rebuild) (installed : Bool) (member : old ∈ s.inFlight)
      (other : ∀ r, r.generation ≠ old.generation → s.hear event r = r)
      (complete : (s.hear event old).complete = true)
      (newest : installed = true ↔ old.generation = s.generation ∧ s.current = some old.branch)
      (session : e.session =
        { s with
          index := if installed then (s.hear event old).index else s.index
          inFlight := without old.generation s.inFlight })
      (begun : e.begun = none) (settled : e.settled = some (old.generation, installed))

/- What an event says in the log is no part of what it does. -/
theorem Turn.unlogged {s : Session} {event : Event} {e : Effect} (turn : Turn s event e)
    (log : Log) : Turn s event { e with log := log } := by
  cases turn with
  | stays branches query session begun settled unheard =>
    exact .stays branches query session begun settled unheard
  | begins branches branch session begun settled unheard =>
    exact .begins branches branch session begun settled unheard
  | hears old member other pending session begun settled =>
    exact .hears old member other pending session begun settled
  | resolves old installed member other complete newest session begun settled =>
    exact .resolves old installed member other complete newest session begun settled

theorem selectTurn (s : Session) (branches : List Branch) (name : Json) {event : Event}
    (unheard : ∀ r, s.hear event r = r) :
    Turn s event (select { s with branches := branches } name) := by
  unfold select
  split
  · exact .begins branches _ rfl rfl rfl unheard
  · exact .stays branches s.query rfl rfl rfl fun r _ => unheard r

theorem refreshTurn (s : Session) : Turn s .refresh s.refresh := by
  unfold refresh
  split
  · exact .stays s.branches s.query rfl rfl rfl fun _ _ => rfl
  · rename_i branch selected
    have same : s = { s with branches := s.branches, current := some branch } := by rw [← selected]
    refine .begins s.branches branch ?_ rfl rfl fun _ => rfl
    rw [← same]

theorem loadTurn (s : Session) (listing : Except Fault Json) :
    Turn s (.load listing) (s.load listing) := by
  have first : Turn s (.load listing)
      (selectFirst { s with branches := (branchesOf listing).1 }) := by
    unfold selectFirst
    split
    · exact selectTurn s _ _ fun _ => rfl
    · exact .stays _ s.query rfl rfl rfl fun _ _ => rfl
  exact first.unlogged _

theorem settleTurn {s : Session} {event : Event} {old : Rebuild} (member : old ∈ s.inFlight)
    (other : ∀ r, r.generation ≠ old.generation → s.hear event r = r)
    (complete : (s.hear event old).complete = true) :
    Turn s event
      (settle { s with inFlight := without old.generation s.inFlight } (s.hear event old)) := by
  obtain ⟨generation, branch⟩ := s.hearKeeps event old
  unfold settle
  simp only [generation, branch]
  split
  · rename_i newest
    exact .resolves old true member other complete (by simp [newest]) rfl rfl rfl
  · rename_i stale
    exact .resolves old false member other complete (by simpa using stale) rfl rfl rfl

theorem receiveTurn (s : Session) (generation : Nat) (kind : Kind) (outcome : Outcome) :
    Turn s (.fetched generation kind outcome) (s.receive generation kind outcome) := by
  unfold receive
  split
  · rename_i absent
    refine .stays s.branches s.query rfl rfl rfl fun r member => ?_
    have other := List.find?_eq_none.1 absent r member
    simp only [beq_iff_eq] at other
    simp only [hear, if_neg other]
  · rename_i old found
    have member := List.mem_of_find?_eq_some found
    have named : old.generation = generation := by simpa using List.find?_some found
    subst named
    have heard : s.hear (.fetched old.generation kind outcome) old =
        old.receive kind (s.effective outcome) := by
      simp only [hear, if_true]
    have other : ∀ r, r.generation ≠ old.generation →
        s.hear (.fetched old.generation kind outcome) r = r := by
      intro r different
      simp only [hear, if_neg different]
    dsimp only
    split
    · rename_i complete
      rw [← heard] at complete ⊢
      exact settleTurn member other complete
    · rename_i pending
      rw [← heard] at pending ⊢
      exact .hears old member other (Bool.eq_false_iff.2 pending) rfl rfl rfl

theorem effectTurn (s : Session) (event : Event) : Turn s event (s.effect event) := by
  cases event with
  | load listing => exact loadTurn s listing
  | select name => exact selectTurn s s.branches name fun _ => rfl
  | refresh => exact refreshTurn s
  | fetched generation kind outcome => exact receiveTurn s generation kind outcome
  | setMode value =>
    unfold effect
    cases named : Mode.ofJson value with
    | ok mode =>
      simp only [setModeNamed named]
      exact .stays s.branches { s.query with mode := mode } rfl rfl rfl fun _ _ => rfl
    | error unknown =>
      simp only [setModeUnnamed named]
      exact .stays s.branches s.query rfl rfl rfl fun _ _ => rfl
  | setText text => exact .stays s.branches _ rfl rfl rfl fun _ _ => rfl

theorem begunNext (s : Session) {event : Event} {r : Rebuild}
    (begun : (s.effect event).begun = some r) :
    r = { generation := s.generation + 1, branch := r.branch } := by
  cases s.effectTurn event with
  | stays _ _ _ none _ _ | hears _ _ _ _ _ none _ | resolves _ _ _ _ _ _ _ none _ =>
    rw [none] at begun
    cases begun
  | begins _ _ _ same _ _ =>
    rw [same] at begun
    cases begun
    rfl

theorem limitKept (s : Session) (event : Event) : (s.step event).limit = s.limit := by
  unfold step
  cases s.effectTurn event with
  | stays _ _ session _ _ _ | hears _ _ _ _ session _ _ | resolves _ _ _ _ _ _ session _ _ =>
    rw [session]
  | begins _ _ session _ _ _ =>
    rw [session]
    rfl

end Session

end PolicySearch
