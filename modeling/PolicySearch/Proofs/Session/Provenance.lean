import Mathlib.Data.List.Induction
import PolicySearch.Proofs.Session.Rebuilds
/-! Where the documents of an index come from. A rebuild fetches for the branch it was begun on, and
keeps the first outcome that is reported for each kind; so what a search shows under the selected
branch was fetched for that branch, and while the index is of another branch nothing is shown. -/
namespace PolicySearch.Session

/- What a fetch brings is the list it was answered with, and nothing if it failed or was answered
with something else. -/
def Brings (outcome : Outcome) (items : List Json) : Prop :=
  outcome = .answered (.arr items) ∨ (items = [] ∧ ∀ list, outcome ≠ .answered (.arr list))

theorem bringsItems (outcome : Outcome) : Brings outcome outcome.items := by
  cases outcome with
  | failed fault => exact .inr ⟨rfl, fun _ same => by cases same⟩
  | answered payload =>
    cases payload with
    | arr items => exact .inl rfl
    | _ => exact .inr ⟨rfl, fun _ same => by cases same⟩

/- The events begin the rebuild on this branch, and later report this outcome of its fetch of this
kind. A fetch that may not begin has the outcome that bars it, whatever is reported. -/
def Reported (limit : Option Amount) (events : List Event) (generation : Nat) (branch : String)
    (kind : Kind) (outcome : Outcome) : Prop :=
  ∃ before event after reported, events = before ++ event :: after ∧
    ((state limit before).effect event).begun =
      some { generation := generation, branch := branch } ∧
    .fetched generation kind reported ∈ after ∧ outcome = (fresh limit).effective reported

theorem stateLimit (limit : Option Amount) (events : List Event) :
    (state limit events).limit = limit := by
  induction events using List.reverseRecOn with
  | nil => rfl
  | append_singleton before event ih => rw [stateLast, limitKept, ih]

/- An outcome that a rebuild has after an event it had before, or the event reports it. -/
theorem heardOutcome (s : Session) {event : Event} {r : Rebuild} {kind : Kind} {outcome : Outcome}
    (found : (s.hear event r).outcome? kind = some outcome) :
    r.outcome? kind = some outcome ∨
      ∃ reported, event = .fetched r.generation kind reported ∧
        outcome = s.effective reported := by
  cases event with
  | fetched generation other reported =>
    simp only [hear] at found
    split at found
    · rename_i own
      by_cases same : kind = other
      · subst same
        rw [Rebuild.receiveSelf] at found
        cases known : r.outcome? kind with
        | some first =>
          rw [known] at found
          exact .inl found
        | none =>
          rw [known] at found
          exact .inr ⟨reported, by rw [own], (Option.some.inj found).symm⟩
      · rw [Rebuild.receiveOther _ same] at found
        exact .inl found
    · exact .inl found
  | _ => exact .inl found

/- Every outcome of a rebuild was reported of its own fetch, after it was begun. -/
theorem outcomesReported (limit : Option Amount) (events : List Event) :
    ∀ r ∈ rebuilds limit events, ∃ before event after, events = before ++ event :: after ∧
      ((state limit before).effect event).begun =
        some { generation := r.generation, branch := r.branch } ∧
      ∀ kind outcome, r.outcome? kind = some outcome →
        ∃ reported, .fetched r.generation kind reported ∈ after ∧
          outcome = (fresh limit).effective reported := by
  induction events using List.reverseRecOn with
  | nil => intro r member; cases member
  | append_singleton events last ih =>
    intro r member
    rw [rebuildsLast] at member
    rcases List.mem_append.1 member with heard | begun
    · obtain ⟨old, known, rfl⟩ := List.mem_map.1 heard
      obtain ⟨before, event, after, split, begun, reports⟩ := ih old known
      have kept := (state limit events).hearKeeps last old
      refine ⟨before, event, after ++ [last], ?_, by rw [kept.1, kept.2]; exact begun, ?_⟩
      · rw [split, List.append_assoc, List.cons_append]
      · intro kind outcome found
        rw [kept.1]
        rcases heardOutcome _ found with earlier | ⟨reported, now, same⟩
        · obtain ⟨reported, inside, same⟩ := reports kind outcome earlier
          exact ⟨reported, List.mem_append_left _ inside, same⟩
        · refine ⟨reported, List.mem_append_right _ (now ▸ List.mem_singleton_self last), ?_⟩
          rw [same, effective, stateLimit]
          rfl
    · have begun := Option.mem_toList.1 begun
      have new := begunNext _ begun
      refine ⟨events, last, [], rfl, ?_, ?_⟩
      · rw [begun, new]
      · intro kind outcome found
        rw [new] at found
        cases found

theorem payloadsReported {limit : Option Amount} {events : List Event} {r : Rebuild}
    (member : r ∈ rebuilds limit events) (complete : r.complete = true) (kind : Kind) :
    ∃ outcome, Reported limit events r.generation r.branch kind outcome ∧
      Brings outcome (r.payloads kind) := by
  obtain ⟨before, event, after, split, begun, reports⟩ := outcomesReported limit events r member
  obtain ⟨outcome, found⟩ := Option.isSome_iff_exists.1 (Rebuild.completeIff.1 complete kind)
  obtain ⟨reported, inside, same⟩ := reports kind outcome found
  rw [Rebuild.payloadKnown found]
  exact ⟨outcome, ⟨before, event, after, reported, split, begun, inside, same⟩,
    bringsItems outcome⟩

namespace Tied

variable {s : Session} {known : List Rebuild}

theorem behindInFlight (tied : Tied s known) (behind : s.isCurrent = false) :
    ∃ r, known.getLast? = some r ∧ r ∈ s.inFlight ∧ s.current = some r.branch := by
  have differs : s.index.branch ≠ s.current := by simpa [isCurrent] using behind
  cases last : known.getLast? with
  | none =>
    -- before the first rebuild nothing is selected, and the index is of no branch
    have nothing := List.getLast?_eq_none_iff.1 last
    refine absurd ?_ differs
    rw [tied.selected, last]
    rcases tied.installed with initial | ⟨r, member, _⟩
    · rw [initial]
      rfl
    · rw [nothing] at member
      cases member
  | some r =>
    have selected : s.current = some r.branch := by rw [tied.selected, last, Option.map_some]
    refine ⟨r, rfl, tied.inFlightIff.2 ⟨List.mem_of_getLast? last, ?_⟩, selected⟩
    by_contra complete
    have index := tied.newest r last (Bool.not_eq_false _ ▸ complete)
    refine differs ?_
    rw [index, selected]
    rfl

end Tied

/- The index is empty and of no branch, or it was built from what was fetched by one rebuild, for the
branch that it names. -/
theorem indexFetched (limit : Option Amount) (events : List Event) :
    (state limit events).index = {} ∨
      ∃ generation branch payloads,
        (∀ kind, ∃ outcome, Reported limit events generation branch kind outcome ∧
          Brings outcome (payloads kind)) ∧
        (state limit events).index = Index.build (some branch) payloads := by
  refine (stateTied limit events).installed.imp_right fun installed => ?_
  obtain ⟨r, member, complete, index⟩ := installed
  exact ⟨r.generation, r.branch, r.payloads, payloadsReported member complete, index⟩

/- What the session shows when the index is of the selected branch: an empty index of no branch, or
that of a rebuild of this branch. -/
theorem shownFetched (limit : Option Amount) (events : List Event) :
    (state limit events).visible = [] ∨
      ∃ generation branch payloads, (state limit events).current = some branch ∧
        (∀ kind, ∃ outcome, Reported limit events generation branch kind outcome ∧
          Brings outcome (payloads kind)) ∧
        (state limit events).visible = (Index.build (some branch) payloads).documents := by
  unfold visible
  split
  · rename_i current
    rcases indexFetched limit events with initial | ⟨generation, branch, payloads, all, index⟩
    · exact .inl (by rw [initial])
    · refine .inr ⟨generation, branch, payloads, ?_, all, by rw [index]⟩
      rw [← beq_iff_eq.1 current, index]
      rfl
  · exact .inl rfl

theorem noCrossBranch (limit : Option Amount) (events : List Event) :
    ((state limit events).isCurrent = false →
      ∃ r, (rebuilds limit events).getLast? = some r ∧ r ∈ (state limit events).inFlight ∧
        (state limit events).current = some r.branch) ∧
    ((∀ query, (state limit events).search query = []) ∧ (state limit events).filtered = .ok [] ∨
      ∃ generation branch payloads, (state limit events).current = some branch ∧
        (∀ kind, ∃ outcome, Reported limit events generation branch kind outcome ∧
          Brings outcome (payloads kind)) ∧
        (∀ query, (state limit events).search query =
          query.filter (Index.build (some branch) payloads).documents) ∧
        (state limit events).filtered =
          (state limit events).query.filter (Index.build (some branch) payloads).documents) := by
  refine ⟨(stateTied limit events).behindInFlight, ?_⟩
  rcases shownFetched limit events with nothing | ⟨generation, branch, payloads, current, all, same⟩
  · refine .inl ⟨fun query => ?_, ?_⟩
    · rw [search, nothing]
      rfl
    · rw [filtered, answer, nothing]
      exact Draft.filterNothing _
  · refine .inr ⟨generation, branch, payloads, current, all, fun query => ?_, ?_⟩
    · rw [search, same]
    · rw [filtered, answer, same]

end PolicySearch.Session
