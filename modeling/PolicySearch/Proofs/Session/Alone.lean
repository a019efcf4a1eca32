import PolicySearch.Proofs.Session.Turn
/-! A rebuild that is alone in flight, and the newest. What is reported of other rebuilds is not
heard; and once a fetch of each kind is reported of this one, in any order, it is over and its index is
installed. -/
namespace PolicySearch

namespace Rebuild

variable {r : Rebuild}

/- What is heard of one kind fills a gap only, whichever kind is looked at. -/
theorem receivedOr (r : Rebuild) (outcome : Kind → Outcome) (kind other : Kind) :
    ((r.receive kind (outcome kind)).outcome? other).getD (outcome other) =
      (r.outcome? other).getD (outcome other) := by
  by_cases same : other = kind
  · rw [same, receiveSelf, Option.getD_some]
  · rw [receiveOther _ same]

theorem completeIndex (complete : r.complete = true) (usual : Kind → Outcome) :
    r.index = Index.build (some r.branch) fun kind => ((r.outcome? kind).getD (usual kind)).items := by
  refine indexKnown fun kind => ?_
  obtain ⟨outcome, found⟩ := Option.isSome_iff_exists.1 (completeIff.1 complete kind)
  rw [found, Option.getD_some]

theorem receivedIndex (r : Rebuild) (outcome : Kind → Outcome) (kind : Kind) :
    (Index.build (some (r.receive kind (outcome kind)).branch) fun other =>
      (((r.receive kind (outcome kind)).outcome? other).getD (outcome other)).items) =
      Index.build (some r.branch) fun other => ((r.outcome? other).getD (outcome other)).items := by
  simp only [(r.receiveKeeps kind (outcome kind)).2, r.receivedOr outcome kind]

theorem receivedTold {kind : Kind} {rest : List Kind}
    (told : ∀ other, other ∉ kind :: rest → (r.outcome? other).isSome = true) (outcome : Outcome) :
    ∀ other, other ∉ rest → ((r.receive kind outcome).outcome? other).isSome = true := by
  intro other untold
  by_cases same : other = kind
  · rw [same, receiveSelf]
    rfl
  · rw [receiveOther _ same]
    exact told other (List.not_mem_cons_of_ne_of_not_mem same untold)

end Rebuild

namespace Session

variable {s : Session} {r : Rebuild}

theorem receiveUnheard {generation : Nat} (kind : Kind) (outcome : Outcome)
    (unheard : ∀ r ∈ s.inFlight, r.generation ≠ generation) :
    s.receive generation kind outcome = { session := s } := by
  have absent : s.inFlight.find? (·.generation == generation) = none := by simpa using unheard
  rw [receive, absent]

theorem receivePending (single : s.inFlight = [r]) {kind : Kind} {outcome : Outcome}
    (pending : (r.receive kind (s.effective outcome)).complete = false) :
    s.receive r.generation kind outcome =
      { session := { s with inFlight := [r.receive kind (s.effective outcome)] } } := by
  have same := (r.receiveKeeps kind (s.effective outcome)).1
  simp [receive, single, pending, replace, same]

theorem receiveLast (single : s.inFlight = [r]) (newest : r.generation = s.generation)
    (selected : s.current = some r.branch) {kind : Kind} {outcome : Outcome}
    (complete : (r.receive kind (s.effective outcome)).complete = true) :
    s.receive r.generation kind outcome =
      { session :=
          { s with index := (r.receive kind (s.effective outcome)).index, inFlight := [] }
        log := (r.receive kind (s.effective outcome)).report s.limit
        settled := some (r.generation, true) } := by
  obtain ⟨generation, branch⟩ := r.receiveKeeps kind (s.effective outcome)
  simp [receive, single, complete, without, settle, generation, branch, ← newest, selected]

def report (outcome : Kind → Outcome) (generation : Nat) (s : Session) (kind : Kind) : Session :=
  (s.receive generation kind (outcome kind)).session

theorem reportRested (outcome : Kind → Outcome) (generation : Nat) (rested : s.inFlight = [])
    (kinds : List Kind) : kinds.foldl (report outcome generation) s = s := by
  induction kinds with
  | nil => rfl
  | cons kind rest ih =>
    have same : s.report outcome generation kind = s := by
      rw [report, receiveUnheard _ _ (by simp [rested])]
    rw [List.foldl_cons, same, ih]

theorem reportAll (outcome : Kind → Outcome) (todo : List Kind) (single : s.inFlight = [r])
    (pending : r.complete = false) (newest : r.generation = s.generation)
    (selected : s.current = some r.branch)
    (told : ∀ kind, kind ∉ todo → (r.outcome? kind).isSome = true) :
    todo.foldl (report outcome r.generation) s =
      { s with
        index := Index.build (some r.branch) fun kind =>
          ((r.outcome? kind).getD (s.effective (outcome kind))).items
        inFlight := [] } := by
  induction todo generalizing s r with
  | nil =>
    have complete := Rebuild.completeIff.2 fun kind => told kind List.not_mem_nil
    rw [complete] at pending
    cases pending
  | cons kind rest ih =>
    obtain ⟨generation, branch⟩ := r.receiveKeeps kind (s.effective (outcome kind))
    have index := r.receivedIndex (fun kind => s.effective (outcome kind)) kind
    rw [List.foldl_cons, report]
    cases heard : (r.receive kind (s.effective (outcome kind))).complete with
    | true =>
      rw [receiveLast single newest selected heard, reportRested outcome _ rfl,
        Rebuild.completeIndex heard fun kind => s.effective (outcome kind), index]
    | false =>
      rw [receivePending single heard, ← generation, ← index]
      exact ih (s := { s with inFlight := [r.receive kind (s.effective (outcome kind))] })
        rfl heard (generation.trans newest) (selected.trans (congrArg some branch.symm))
        (Rebuild.receivedTold told _)

end Session

end PolicySearch
