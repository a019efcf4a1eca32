/-! The first occurrences in a list, in order. -/
namespace PolicySearch

variable {α : Type} [DecidableEq α]

def appendNew (known : List α) (x : α) : List α := if x ∈ known then known else known ++ [x]

def firstSeen (xs : List α) : List α := xs.foldl appendNew []

theorem memberAppendNew {known : List α} {x y : α} : y ∈ appendNew known x ↔ y ∈ known ∨ y = x := by
  unfold appendNew
  split
  · rename_i inside
    exact ⟨.inl, fun h => h.elim id fun same => same ▸ inside⟩
  · simp

theorem appendNewDistinct {known : List α} (x : α) (nodup : known.Nodup) :
    (appendNew known x).Nodup := by
  unfold appendNew
  split
  · exact nodup
  · rename_i absent
    refine List.nodup_append.2 ⟨nodup, by simp, fun a inside b last => ?_⟩
    rintro rfl
    exact absent ((List.mem_singleton.1 last) ▸ inside)

theorem memberFold {known xs : List α} {y : α} :
    y ∈ xs.foldl appendNew known ↔ y ∈ known ∨ y ∈ xs := by
  induction xs generalizing known with
  | nil => simp
  | cons x rest ih => simp only [List.foldl_cons, ih, memberAppendNew, List.mem_cons, or_assoc]

theorem foldDistinct {known : List α} (xs : List α) (nodup : known.Nodup) :
    (xs.foldl appendNew known).Nodup := by
  induction xs generalizing known with
  | nil => exact nodup
  | cons x rest ih => exact ih (appendNewDistinct x nodup)

theorem memberFirstSeen {xs : List α} {y : α} : y ∈ firstSeen xs ↔ y ∈ xs := by
  simp [firstSeen, memberFold]

theorem firstSeenDistinct (xs : List α) : (firstSeen xs).Nodup :=
  foldDistinct xs List.nodup_nil

theorem firstSeenLast (xs : List α) (x : α) :
    firstSeen (xs ++ [x]) = appendNew (firstSeen xs) x := by
  simp [firstSeen, List.foldl_append]

end PolicySearch
