import Mathlib.Data.List.Nodup
import PolicySearch.Proofs.Session.Turn
/-! All rebuilds that a run of a session has begun, in order, each with what its own fetches have
brought. A session keeps those that are in flight and forgets the others; here nothing is forgotten,
so the session can be compared with what really happened. -/
namespace PolicySearch.Session

def fresh (limit : Option Amount) : Session := { limit := limit }

def state (limit : Option Amount) (events : List Event) : Session := (fresh limit).run events

def note (s : Session) (event : Event) (known : List Rebuild) : List Rebuild :=
  known.map (s.hear event) ++ (s.effect event).begun.toList

def chronicle (s : Session) (known : List Rebuild) : List Event → List Rebuild
  | [] => known
  | event :: rest => (s.step event).chronicle (s.note event known) rest

def rebuilds (limit : Option Amount) (events : List Event) : List Rebuild :=
  (fresh limit).chronicle [] events

theorem chronicleLast (s : Session) (known : List Rebuild) (events : List Event) (event : Event) :
    s.chronicle known (events ++ [event]) =
      (s.run events).note event (s.chronicle known events) := by
  induction events generalizing s known with
  | nil => rfl
  | cons first rest ih => exact ih (s.step first) (s.note first known)

theorem rebuildsLast (limit : Option Amount) (events : List Event) (event : Event) :
    rebuilds limit (events ++ [event]) = (state limit events).note event (rebuilds limit events) :=
  chronicleLast (fresh limit) [] events event

theorem stateLast (limit : Option Amount) (events : List Event) (event : Event) :
    state limit (events ++ [event]) = (state limit events).step event :=
  runAppend (fresh limit) events [event]

/- What ties a session to its rebuilds: they are numbered as they were begun, those that wait for a
fetch are in flight, the branch of the last one is selected, and the index is that of the last one
as soon as it is complete. -/
structure Tied (s : Session) (known : List Rebuild) : Prop where
  numbered : known.map Rebuild.generation = List.range' 1 s.generation
  waiting : s.inFlight = known.filter fun r => !r.complete
  selected : s.current = known.getLast?.map Rebuild.branch
  newest : ∀ r, known.getLast? = some r → r.complete = true → s.index = r.index
  installed : s.index = {} ∨ ∃ r ∈ known, r.complete = true ∧ s.index = r.index

theorem freshTied (limit : Option Amount) : Tied (fresh limit) [] :=
  ⟨rfl, rfl, rfl, by simp, .inl rfl⟩

namespace Tied

variable {s : Session} {known : List Rebuild} {r old : Rebuild}

theorem sameRebuild (tied : Tied s known) (first : r ∈ known) (second : old ∈ known)
    (generation : r.generation = old.generation) : r = old := by
  have nodup : (known.map Rebuild.generation).Nodup := tied.numbered ▸ List.nodup_range'
  exact List.inj_on_of_nodup_map nodup first second generation

theorem lastNumber (tied : Tied s known) (last : known.getLast? = some r) :
    r.generation = s.generation := by
  have number : (known.map Rebuild.generation).getLast? = some r.generation := by
    rw [List.getLast?_map, last, Option.map_some]
  rw [tied.numbered, List.getLast?_range'] at number
  split at number
  · cases number
  · have same := Option.some.inj number
    omega

theorem lastIff (tied : Tied s known) (member : r ∈ known) :
    known.getLast? = some r ↔ r.generation = s.generation := by
  refine ⟨tied.lastNumber, fun generation => ?_⟩
  have found := List.getLast?_eq_some_getLast (List.ne_nil_of_mem member)
  generalize known.getLast _ = last at found
  have same : last.generation = r.generation := (tied.lastNumber found).trans generation.symm
  rw [found, tied.sameRebuild (List.mem_of_getLast? found) member same]

theorem inFlightIff (tied : Tied s known) :
    r ∈ s.inFlight ↔ r ∈ known ∧ r.complete = false := by
  rw [tied.waiting, List.mem_filter]
  simp

theorem numberAtMost (tied : Tied s known) (member : r ∈ known) :
    r.generation ≤ s.generation := by
  have listed : r.generation ∈ known.map Rebuild.generation := List.mem_map_of_mem member
  rw [tied.numbered, List.mem_range'_1] at listed
  omega

theorem lastGreatest (tied : Tied s known) (member : r ∈ known) :
    known.getLast? = some r ↔ ∀ other ∈ known, other.generation ≤ r.generation := by
  rw [tied.lastIff member]
  constructor
  · intro last other inside
    exact last ▸ tied.numberAtMost inside
  · intro greatest
    have found := List.getLast?_eq_some_getLast (List.ne_nil_of_mem member)
    have number := tied.lastNumber found
    have below := greatest _ (List.mem_of_getLast? found)
    have above := tied.numberAtMost member
    omega

/- The last rebuild is the one whose generation and branch a session asks for as it settles one. -/
theorem newestIff (tied : Tied s known) (member : r ∈ known) :
    known.getLast? = some r ↔ r.generation = s.generation ∧ s.current = some r.branch := by
  constructor
  · intro last
    exact ⟨tied.lastNumber last, by rw [tied.selected, last, Option.map_some]⟩
  · exact fun newest => (tied.lastIff member).2 newest.1

theorem unheardKnown (tied : Tied s known) {event : Event}
    (unheard : ∀ r ∈ s.inFlight, s.hear event r = r) : known.map (s.hear event) = known := by
  refine (List.map_congr_left fun r member => ?_).trans (List.map_id known)
  cases complete : r.complete with
  | true => exact s.hearComplete event complete
  | false => exact unheard r (tied.inFlightIff.2 ⟨member, complete⟩)

/- A report changes one rebuild at most, so the others wait or are complete as before. -/
theorem heardWaiting (tied : Tied s known) {event : Event} (member : old ∈ s.inFlight)
    (other : ∀ r, r.generation ≠ old.generation → s.hear event r = r)
    (pending : (s.hear event old).complete = false) :
    replace (s.hear event old) s.inFlight =
      (known.map (s.hear event)).filter fun r => !r.complete := by
  obtain ⟨inside, before⟩ := tied.inFlightIff.1 member
  have same : ∀ r ∈ known, (!(s.hear event r).complete) = !r.complete := by
    intro r found
    by_cases generation : r.generation = old.generation
    · rw [tied.sameRebuild found inside generation, pending, before]
    · rw [other r generation]
  rw [List.filter_map, tied.waiting, replace]
  refine (List.map_congr_left fun r found => ?_).trans
    (congrArg (List.map (s.hear event)) (List.filter_congr same).symm)
  have found := (List.mem_filter.1 found).1
  rw [(s.hearKeeps event old).1]
  split
  · rename_i generation
    rw [tied.sameRebuild found inside generation]
  · rename_i generation
    exact (other r generation).symm

theorem resolvedWaiting (tied : Tied s known) {event : Event} (member : old ∈ s.inFlight)
    (other : ∀ r, r.generation ≠ old.generation → s.hear event r = r)
    (complete : (s.hear event old).complete = true) :
    without old.generation s.inFlight =
      (known.map (s.hear event)).filter fun r => !r.complete := by
  obtain ⟨inside, _⟩ := tied.inFlightIff.1 member
  have same : ∀ r ∈ known,
      (!(s.hear event r).complete) = (!r.complete && r.generation != old.generation) := by
    intro r found
    by_cases generation : r.generation = old.generation
    · rw [tied.sameRebuild found inside generation, complete]
      simp
    · rw [other r generation]
      simp [generation]
  rw [List.filter_map, tied.waiting, without, List.filter_filter]
  have kept : known.filter ((fun r => !r.complete) ∘ s.hear event) =
      known.filter fun r => r.generation != old.generation && !r.complete := by
    refine List.filter_congr fun r found => ?_
    rw [Function.comp_apply, same r found, Bool.and_comm]
  rw [kept]
  refine ((List.map_congr_left fun r found => ?_).trans (List.map_id _)).symm
  have left := (List.mem_filter.1 found).2
  simp only [Bool.and_eq_true, bne_iff_ne] at left
  exact other r left.1

theorem heardNumbers (event : Event) (known : List Rebuild) :
    (known.map (s.hear event)).map Rebuild.generation = known.map Rebuild.generation := by
  rw [List.map_map]
  exact List.map_congr_left fun r _ => (s.hearKeeps event r).1

theorem heardSelected (event : Event) (known : List Rebuild) :
    (known.map (s.hear event)).getLast?.map Rebuild.branch = known.getLast?.map Rebuild.branch := by
  rw [List.getLast?_map, Option.map_map]
  exact Option.map_congr fun r _ => (s.hearKeeps event r).2

theorem heardInstalled (tied : Tied s known) (event : Event) :
    s.index = {} ∨ ∃ r ∈ known.map (s.hear event), r.complete = true ∧ s.index = r.index := by
  refine tied.installed.imp_right fun before => ?_
  obtain ⟨r, member, complete, same⟩ := before
  exact ⟨r, List.mem_map.2 ⟨r, member, s.hearComplete event complete⟩, complete, same⟩

theorem noteStays (tied : Tied s known) (branches : List Branch) (query : Draft) :
    Tied { s with branches := branches, query := query } known :=
  ⟨tied.numbered, tied.waiting, tied.selected, tied.newest, tied.installed⟩

theorem noteBegins (tied : Tied s known) (branches : List Branch) (branch : String) :
    Tied (beginRebuild { s with branches := branches, current := some branch } branch).session
      (known ++ [{ generation := s.generation + 1, branch := branch }]) where
  numbered := by
    rw [List.map_append, tied.numbered]
    exact (Nat.add_comm 1 s.generation ▸ List.range'_1_concat).symm
  waiting := by
    rw [List.filter_append, ← tied.waiting]
    rfl
  selected := by
    rw [List.getLast?_concat]
    rfl
  newest := by
    intro r last complete
    rw [List.getLast?_concat] at last
    cases last
    cases complete
  installed := by
    refine tied.installed.imp_right fun before => ?_
    obtain ⟨r, member, complete, same⟩ := before
    exact ⟨r, List.mem_append_left _ member, complete, same⟩

theorem noteHears (tied : Tied s known) {event : Event} (member : old ∈ s.inFlight)
    (other : ∀ r, r.generation ≠ old.generation → s.hear event r = r)
    (pending : (s.hear event old).complete = false) :
    Tied { s with inFlight := replace (s.hear event old) s.inFlight }
      (known.map (s.hear event)) where
  numbered := (heardNumbers event known).trans tied.numbered
  waiting := tied.heardWaiting member other pending
  selected := tied.selected.trans (heardSelected event known).symm
  newest := by
    intro r final complete
    rw [List.getLast?_map] at final
    obtain ⟨before, last, rfl⟩ := Option.map_eq_some_iff.1 final
    have inside := (tied.inFlightIff.1 member).1
    by_cases generation : before.generation = old.generation
    · rw [tied.sameRebuild (List.mem_of_getLast? last) inside generation, pending] at complete
      cases complete
    · rw [other before generation] at complete ⊢
      exact tied.newest before last complete
  installed := tied.heardInstalled event

theorem noteResolves (tied : Tied s known) {event : Event} {installed : Bool}
    (member : old ∈ s.inFlight)
    (other : ∀ r, r.generation ≠ old.generation → s.hear event r = r)
    (complete : (s.hear event old).complete = true)
    (newest : installed = true ↔ old.generation = s.generation ∧ s.current = some old.branch) :
    Tied
      { s with
        index := if installed then (s.hear event old).index else s.index
        inFlight := without old.generation s.inFlight }
      (known.map (s.hear event)) where
  numbered := (heardNumbers event known).trans tied.numbered
  waiting := tied.resolvedWaiting member other complete
  selected := tied.selected.trans (heardSelected event known).symm
  newest := by
    intro r final complete
    rw [List.getLast?_map] at final
    obtain ⟨before, last, rfl⟩ := Option.map_eq_some_iff.1 final
    have inside := (tied.inFlightIff.1 member).1
    have newest := newest.trans (tied.newestIff inside).symm
    by_cases generation : before.generation = old.generation
    · obtain rfl := tied.sameRebuild (List.mem_of_getLast? last) inside generation
      rw [if_pos (newest.2 last)]
    · have stale : installed ≠ true := by
        intro yes
        have same := Option.some.inj (last.symm.trans (newest.1 yes))
        exact generation (congrArg Rebuild.generation same)
      rw [other before generation] at complete ⊢
      rw [if_neg stale]
      exact tied.newest before last complete
  installed := by
    split
    · have inside := (tied.inFlightIff.1 member).1
      exact .inr ⟨_, List.mem_map_of_mem inside, complete, rfl⟩
    · exact tied.heardInstalled event

theorem step (tied : Tied s known) (event : Event) :
    Tied (s.step event) (s.note event known) := by
  unfold Session.step note
  cases s.effectTurn event with
  | stays branches query session begun _ unheard =>
    rw [session, begun, tied.unheardKnown unheard, Option.toList_none, List.append_nil]
    exact tied.noteStays branches query
  | begins branches branch session begun _ unheard =>
    rw [session, begun, tied.unheardKnown fun r _ => unheard r]
    exact tied.noteBegins branches branch
  | hears old member other pending session begun _ =>
    rw [session, begun, Option.toList_none, List.append_nil]
    exact tied.noteHears member other pending
  | resolves old installed member other complete newest session begun _ =>
    rw [session, begun, Option.toList_none, List.append_nil]
    exact tied.noteResolves member other complete newest

theorem run (tied : Tied s known) (events : List Event) :
    Tied (s.run events) (s.chronicle known events) := by
  induction events generalizing s known with
  | nil => exact tied
  | cons event rest ih => exact ih (tied.step event)

end Tied

theorem stateTied (limit : Option Amount) (events : List Event) :
    Tied (state limit events) (rebuilds limit events) :=
  (freshTied limit).run events

end PolicySearch.Session
