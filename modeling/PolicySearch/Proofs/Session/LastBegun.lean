import PolicySearch.Proofs.Session.Rebuilds
/-! The rebuild that was begun last decides the index. Whatever the order in which the fetches of
several rebuilds are answered, a rebuild that resolves installs its index exactly when none was
begun after it, so installed generations only grow, and once nothing is in flight the index is that
of the last rebuild. -/
namespace PolicySearch.Session

/- The generations of the rebuilds that are installed, in the order in which this happens. -/
def installs (s : Session) : List Event → List Nat
  | [] => []
  | event :: rest =>
    match (s.effect event).settled with
    | some (generation, true) => generation :: (s.step event).installs rest
    | _ => (s.step event).installs rest

/- A rebuild that resolves at this event, and whether it is the last one begun. -/
structure Resolved (s : Session) (known : List Rebuild) (event : Event) (r : Rebuild)
    (installed : Bool) : Prop where
  inFlight : ∃ old ∈ s.inFlight, s.hear event old = r
  member : r ∈ s.note event known
  complete : r.complete = true
  last : installed = true ↔ (s.note event known).getLast? = some r
  index : (s.step event).index = if installed then r.index else s.index
  current : (s.step event).current = s.current
  generation : (s.step event).generation = s.generation

/- A generation that may still be installed: that of the newest rebuild while it is in flight, and
all that are to come. -/
def Ahead (s : Session) (generation : Nat) : Prop :=
  s.generation < generation ∨
    (generation = s.generation ∧ ∃ r ∈ s.inFlight, r.generation = generation)

namespace Tied

variable {s : Session} {known : List Rebuild} {event : Event}

theorem resolved (tied : Tied s known) {generation : Nat} {installed : Bool}
    (settled : (s.effect event).settled = some (generation, installed)) :
    ∃ r, r.generation = generation ∧ Resolved s known event r installed := by
  cases s.effectTurn event with
  | stays _ _ _ _ none _ | begins _ _ _ _ none _ | hears _ _ _ _ _ _ none =>
    rw [none] at settled
    cases settled
  | resolves old flag member other complete newest session begun same =>
    rw [same] at settled
    cases settled
    have inside := (tied.inFlightIff.1 member).1
    have kept := s.hearKeeps event old
    have noted : s.note event known = known.map (s.hear event) := by
      rw [note, begun, Option.toList_none, List.append_nil]
    have found : s.hear event old ∈ s.note event known :=
      noted ▸ List.mem_map_of_mem inside
    have after := tied.step event
    have generation : (s.step event).generation = s.generation := by rw [Session.step, session]
    have current : (s.step event).current = s.current := by rw [Session.step, session]
    refine ⟨s.hear event old, kept.1, ⟨old, member, rfl⟩, found, complete, ?_,
      by rw [Session.step, session], current, generation⟩
    rw [after.newestIff found, generation, current, kept.1, kept.2]
    exact newest

theorem resolvesIfComplete (tied : Tied s known) {r : Rebuild} (member : r ∈ s.inFlight)
    (complete : (s.hear event r).complete = true) :
    ∃ installed, (s.effect event).settled = some (r.generation, installed) := by
  have before := (tied.inFlightIff.1 member).2
  have heard : s.hear event r ≠ r := by
    intro same
    rw [same, before] at complete
    cases complete
  have own : ∀ old : Rebuild, (∀ q, q.generation ≠ old.generation → s.hear event q = q) →
      r.generation = old.generation := by
    intro old other
    by_contra different
    exact heard (other r different)
  cases s.effectTurn event with
  | stays _ _ _ _ _ unheard => exact absurd (unheard r member) heard
  | begins _ _ _ _ _ unheard => exact absurd (unheard r) heard
  | hears old inFlight other pending _ _ _ =>
    have same := tied.sameRebuild (tied.inFlightIff.1 member).1 (tied.inFlightIff.1 inFlight).1
      (own old other)
    rw [same, pending] at complete
    cases complete
  | resolves old installed _ other _ _ _ _ settled => exact ⟨installed, own old other ▸ settled⟩

theorem generationGrows (tied : Tied s known) (event : Event) :
    s.generation ≤ (s.step event).generation := by
  have before := congrArg List.length tied.numbered
  have after := congrArg List.length (tied.step event).numbered
  simp only [note, List.length_map, List.length_append, List.length_range'] at before after
  omega

/- A rebuild that is in flight after an event was in flight before it, or is new. -/
theorem inFlightBefore (tied : Tied s known) {r : Rebuild} (member : r ∈ (s.step event).inFlight) :
    r.generation = s.generation + 1 ∨ ∃ old ∈ s.inFlight, old.generation = r.generation := by
  obtain ⟨noted, pending⟩ := (tied.step event).inFlightIff.1 member
  rcases List.mem_append.1 noted with heard | begun
  · obtain ⟨old, inside, rfl⟩ := List.mem_map.1 heard
    refine .inr ⟨old, tied.inFlightIff.2 ⟨inside, ?_⟩, (s.hearKeeps event old).1.symm⟩
    cases complete : old.complete with
    | false => rfl
    | true =>
      rw [s.hearComplete event complete, complete] at pending
      cases pending
  · rw [begunNext s (Option.mem_toList.1 begun)]
    exact .inl rfl

theorem aheadBefore (tied : Tied s known) {generation : Nat}
    (ahead : Ahead (s.step event) generation) : Ahead s generation := by
  have grows := tied.generationGrows event
  rcases ahead with above | ⟨same, r, inFlight, number⟩
  · exact .inl (by omega)
  · rcases tied.inFlightBefore inFlight with fresh | ⟨old, before, numbered⟩
    · exact .inl (by omega)
    · have below := tied.numberAtMost (tied.inFlightIff.1 before).1
      exact .inr ⟨by omega, old, before, numbered.trans number⟩

theorem resolvedAhead (tied : Tied s known) {generation : Nat}
    (settled : (s.effect event).settled = some (generation, true)) : Ahead s generation := by
  obtain ⟨r, number, resolved⟩ := tied.resolved settled
  have last := (tied.step event).lastNumber (resolved.last.1 rfl)
  obtain ⟨old, before, heard⟩ := resolved.inFlight
  have kept := (s.hearKeeps event old).1
  rw [heard, number] at kept
  rw [number, resolved.generation] at last
  exact .inr ⟨last, old, before, kept.symm⟩

theorem installsAhead (tied : Tied s known) (events : List Event) {generation : Nat}
    (member : generation ∈ s.installs events) : Ahead s generation := by
  induction events generalizing s known with
  | nil => cases member
  | cons event rest ih =>
    have later : generation ∈ (s.step event).installs rest → Ahead s generation :=
      fun member => tied.aheadBefore (ih (tied.step event) member)
    unfold installs at member
    split at member
    · rename_i installed settled
      rcases List.mem_cons.1 member with same | member
      · exact same ▸ tied.resolvedAhead settled
      · exact later member
    · exact later member

theorem installsIncrease (tied : Tied s known) (events : List Event) :
    (s.installs events).Pairwise (· < ·) := by
  induction events generalizing s known with
  | nil => exact .nil
  | cons event rest ih =>
    unfold installs
    split
    · rename_i generation settled
      refine .cons (fun next member => ?_) (ih (tied.step event))
      obtain ⟨r, number, resolved⟩ := tied.resolved settled
      have last := (tied.step event).lastNumber (resolved.last.1 rfl)
      rcases (tied.step event).installsAhead rest member with above | ⟨same, new, inFlight, its⟩
      · omega
      -- the newest rebuild has just resolved, so it cannot be in flight
      · obtain ⟨noted, pending⟩ := (tied.step event).inFlightIff.1 inFlight
        have equal := (tied.step event).sameRebuild noted resolved.member (by omega)
        rw [equal, resolved.complete] at pending
        cases pending
    · exact ih (tied.step event)

theorem restedIndex (tied : Tied s known) (rested : s.inFlight = []) (begun : known ≠ []) :
    ∃ r, known.getLast? = some r ∧ s.index = r.index ∧ s.index.branch = s.current := by
  have last := List.getLast?_eq_some_getLast begun
  generalize known.getLast begun = r at last
  have complete : r.complete = true := by
    by_contra pending
    have inFlight := tied.inFlightIff.2
      ⟨List.mem_of_getLast? last, Bool.eq_false_iff.2 pending⟩
    rw [rested] at inFlight
    cases inFlight
  have index := tied.newest r last complete
  refine ⟨r, last, index, ?_⟩
  rw [index, tied.selected, last]
  rfl

end Tied

/- The law of the last rebuild, for the state that `events` lead to. The rebuilds begun so far stand
in order, and those in flight are the ones that miss an outcome; the event that brings the last
outcome resolves its rebuild, which installs its index if no later one has begun. -/
structure LastBegunWins (limit : Option Amount) (events : List Event) : Prop where
  numbered : (rebuilds limit events).map Rebuild.generation =
    List.range' 1 (state limit events).generation
  waiting : (state limit events).inFlight = (rebuilds limit events).filter fun r => !r.complete
  resolves : ∀ event, ∀ r ∈ (state limit events).inFlight,
    ((state limit events).hear event r).complete = true →
      ∃ installed, ((state limit events).effect event).settled = some (r.generation, installed)
  ends : ∀ event generation installed,
    ((state limit events).effect event).settled = some (generation, installed) →
      ∃ r ∈ rebuilds limit (events ++ [event]), r.generation = generation ∧ r.complete = true ∧
        (installed = true ↔
          ∀ other ∈ rebuilds limit (events ++ [event]), other.generation ≤ generation) ∧
        (state limit (events ++ [event])).index =
          (if installed then r.index else (state limit events).index) ∧
        (state limit (events ++ [event])).current = (state limit events).current ∧
        (state limit (events ++ [event])).generation = (state limit events).generation
  increasing : ((fresh limit).installs events).Pairwise (· < ·)
  rested : (state limit events).inFlight = [] → rebuilds limit events ≠ [] →
    ∃ r, (rebuilds limit events).getLast? = some r ∧ (state limit events).index = r.index ∧
      (state limit events).index.branch = (state limit events).current

theorem lastBegunWins (limit : Option Amount) (events : List Event) :
    LastBegunWins limit events where
  numbered := (stateTied limit events).numbered
  waiting := (stateTied limit events).waiting
  resolves := fun _ _ member complete =>
    (stateTied limit events).resolvesIfComplete member complete
  ends := by
    intro event generation installed settled
    have tied := stateTied limit events
    obtain ⟨r, number, resolved⟩ := tied.resolved settled
    have greatest := (tied.step event).lastGreatest resolved.member
    rw [stateLast, rebuildsLast, ← number]
    exact ⟨r, resolved.member, rfl, resolved.complete, resolved.last.trans greatest,
      resolved.index, resolved.current, resolved.generation⟩
  increasing := (freshTied limit).installsIncrease events
  rested := (stateTied limit events).restedIndex

-- The first branch is loaded, the second is selected, and the fetches of the first come last.
example :
    (({} : Session).run
      ([.load (.ok (.arr [.obj [("id", .str "a")], .obj [("id", .str "b")]])),
          .select (.str "b")] ++
        [2, 1].flatMap fun generation =>
          Kind.all.map fun kind => .fetched generation kind (.answered (.arr [])))).index =
      { branch := some "b", documents := [] } := by
  decide

end PolicySearch.Session
