import Mathlib.Data.List.Induction
import PolicySearch.Proofs.Session.Rebuilds
/-! Whether the selected branch is one of the known branches. A branch is selected only while it is
known; but a load replaces the known branches and keeps the selection, so the selected branch is
unknown exactly when the last load, made while it was selected, brought a listing without it. -/
namespace PolicySearch.Session

def Knows (s : Session) (id : String) : Prop := ∃ b ∈ s.branches, b.id = id

/- The last load was made while this branch was selected, and did not bring it. -/
def Dropped (limit : Option Amount) (events : List Event) (id : String) : Prop :=
  ∃ before listing after, events = before ++ .load listing :: after ∧
    (state limit before).current = some id ∧
    (∀ b ∈ (branchesOf listing).1, b.id ≠ id) ∧ ∀ later, .load later ∉ after

/- The branches that are known after an event. -/
def listed (s : Session) : Event → List Branch
  | .load listing => (branchesOf listing).1
  | _ => s.branches

/- A selection that an event makes is of a known branch. -/
structure SelectsKnown (s next : Session) (branches : List Branch) : Prop where
  branches : next.branches = branches
  selected : next.current = s.current ∨ ∃ id, next.current = some id ∧ next.Knows id

theorem selectSelects (s : Session) (name : Json) :
    SelectsKnown s (s.select name).session s.branches := by
  unfold select
  split
  · rename_i b known
    exact ⟨rfl, .inr ⟨b.id, rfl, b, (branchNamed known).2, rfl⟩⟩
  · exact ⟨rfl, .inl rfl⟩

theorem loadSelects (s : Session) (listing : Except Fault Json) :
    SelectsKnown s (s.load listing).session (branchesOf listing).1 := by
  have first (branches : List Branch) :
      SelectsKnown s (selectFirst { s with branches := branches }).session branches := by
    unfold selectFirst
    split
    · obtain ⟨same, selected⟩ := selectSelects { s with branches := branches } (.str _)
      exact ⟨same, selected⟩
    · exact ⟨rfl, .inl rfl⟩
  exact first (branchesOf listing).1

theorem selectFirstCurrent (s : Session) :
    s.selectFirst.session.current = s.current.or (s.branches.head?.map Branch.id) := by
  cases selected : s.current with
  | some id => simp only [selectFirst, selected, Option.some_or]
  | none =>
    cases listed : s.branches with
    | nil =>
      rw [selectFirstNone listed, selected]
      rfl
    | cons first rest =>
      rw [selectFirstListed selected listed]
      rfl

/- A load keeps what is selected; if nothing is, it selects the first branch of its listing. -/
theorem loadCurrent (s : Session) (listing : Except Fault Json) :
    (s.load listing).session.current = s.current.or ((branchesOf listing).1.head?.map Branch.id) :=
  selectFirstCurrent { s with branches := (branchesOf listing).1 }

theorem receiveSelects (s : Session) (generation : Nat) (kind : Kind) (outcome : Outcome) :
    SelectsKnown s (s.receive generation kind outcome).session s.branches := by
  unfold receive settle
  split
  · exact ⟨rfl, .inl rfl⟩
  · dsimp only
    split
    · split <;> exact ⟨rfl, .inl rfl⟩
    · exact ⟨rfl, .inl rfl⟩

theorem stepSelects (s : Session) (event : Event) :
    SelectsKnown s (s.step event) (s.listed event) := by
  unfold step
  cases event with
  | load listing => exact loadSelects s listing
  | select name => exact selectSelects s name
  | refresh =>
    simp only [effect, refresh]
    split
    · exact ⟨rfl, .inl rfl⟩
    · rename_i branch selected
      exact ⟨rfl, .inl rfl⟩
  | fetched generation kind outcome => exact receiveSelects s generation kind outcome
  | setMode value =>
    simp only [effect, setMode]
    cases Mode.ofJson value <;> exact ⟨rfl, .inl rfl⟩
  | setText text => exact ⟨rfl, .inl rfl⟩

theorem listedUnloaded (s : Session) {event : Event} (other : ∀ listing, event ≠ .load listing) :
    s.listed event = s.branches := by
  cases event with
  | load listing => exact absurd rfl (other listing)
  | _ => rfl

theorem runUnloaded (s : Session) {events : List Event} (other : ∀ listing, .load listing ∉ events) :
    (s.run events).branches = s.branches := by
  induction events generalizing s with
  | nil => rfl
  | cons event rest ih =>
    have head : ∀ listing, event ≠ .load listing := fun listing same =>
      other listing (same ▸ List.mem_cons_self)
    have tail := ih (s.step event) fun listing member =>
      other listing (List.mem_cons_of_mem _ member)
    exact tail.trans ((stepSelects s event).branches.trans (listedUnloaded s head))

theorem droppedUnknown {limit : Option Amount} {events : List Event} {id : String}
    (dropped : Dropped limit events id) : ¬ (state limit events).Knows id := by
  obtain ⟨before, listing, after, rfl, _, absent, last⟩ := dropped
  rintro ⟨b, member, same⟩
  have branches : (state limit (before ++ .load listing :: after)).branches =
      (branchesOf listing).1 := by
    rw [List.append_cons, state, runAppend, runUnloaded _ last, ← state, stateLast]
    exact (stepSelects _ (.load listing)).branches
  exact absent b (branches ▸ member) same

theorem Dropped.later {limit : Option Amount} {events : List Event} {id : String}
    (dropped : Dropped limit events id) {event : Event} (other : ∀ listing, event ≠ .load listing) :
    Dropped limit (events ++ [event]) id := by
  obtain ⟨before, listing, after, split, selected, absent, last⟩ := dropped
  refine ⟨before, listing, after ++ [event], ?_, selected, absent, fun later member => ?_⟩
  · rw [split, List.append_assoc, List.cons_append]
  · rcases List.mem_append.1 member with earlier | now
    · exact last later earlier
    · exact other later (List.mem_singleton.1 now).symm

/- What was selected before an event and still is was known, or dropped, and is so still; unless the
event is a load, which decides anew. -/
theorem keptKnown {limit : Option Amount} {events : List Event} {id : String}
    (selected : (state limit events).current = some id)
    (before : (state limit events).Knows id ∨ Dropped limit events id) (event : Event) :
    (state limit (events ++ [event])).Knows id ∨ Dropped limit (events ++ [event]) id := by
  have branches : (state limit (events ++ [event])).branches = (state limit events).listed event :=
    stateLast limit events event ▸ (stepSelects _ event).branches
  by_cases load : ∃ listing, event = .load listing
  · obtain ⟨listing, rfl⟩ := load
    by_cases known : (state limit (events ++ [.load listing])).Knows id
    · exact .inl known
    · refine .inr ⟨events, listing, [], rfl, selected, fun b member same => known ?_, by simp⟩
      exact ⟨b, branches ▸ member, same⟩
  · have other : ∀ listing, event ≠ .load listing := fun listing same => load ⟨listing, same⟩
    rw [listedUnloaded _ other] at branches
    refine before.imp (fun known => ?_) fun dropped => dropped.later other
    obtain ⟨b, member, same⟩ := known
    exact ⟨b, branches ▸ member, same⟩

theorem knownOrDropped (limit : Option Amount) (events : List Event) {id : String}
    (selected : (state limit events).current = some id) :
    (state limit events).Knows id ∨ Dropped limit events id := by
  induction events using List.reverseRecOn generalizing id with
  | nil => cases selected
  | append_singleton events event ih =>
    rw [stateLast] at selected
    rcases (stepSelects (state limit events) event).selected with kept | ⟨new, named, known⟩
    · have earlier := kept.symm.trans selected
      exact keptKnown earlier (ih earlier) event
    · obtain rfl := Option.some.inj (named.symm.trans selected)
      exact .inl (stateLast limit events event ▸ known)

/- In every reachable state: nothing is selected, or a known branch, or one that the last load dropped;
what an event newly selects is known, and a load selects only if nothing is selected yet. -/
theorem selectedUnlessDropped (limit : Option Amount) (events : List Event) :
    ((state limit events).current = none ∨
      ∃ id, (state limit events).current = some id ∧
        ((state limit events).Knows id ↔ ¬ Dropped limit events id)) ∧
    (∀ event, (state limit (events ++ [event])).current = (state limit events).current ∨
      ∃ id, (state limit (events ++ [event])).current = some id ∧
        (state limit (events ++ [event])).Knows id) ∧
    ∀ listing, (state limit (events ++ [.load listing])).current =
      (state limit events).current.or ((branchesOf listing).1.head?.map Branch.id) := by
  refine ⟨?_, fun event => ?_, fun listing => ?_⟩
  · cases selected : (state limit events).current with
    | none => exact .inl rfl
    | some id =>
      refine .inr ⟨id, rfl, fun known dropped => droppedUnknown dropped known, fun kept => ?_⟩
      exact (knownOrDropped limit events selected).resolve_right kept
  · rw [stateLast]
    exact (stepSelects (state limit events) event).selected
  · rw [stateLast]
    exact loadCurrent (state limit events) listing

/- The first branch of a listing is selected, and the next listing fails. -/
theorem unknownAfterReload :
    let s := state none [.load (.ok (.arr [.obj [("id", .str "a")]])),
      .load (.error ⟨.runtime, some "refused"⟩)]
    ¬ (s.current = none ∨ ∃ b ∈ s.branches, s.current = some b.id) := by
  decide

end PolicySearch.Session
