import Mathlib.Data.Finset.Card
import Mathlib.Data.List.Induction
import PolicySearch.FirstSeen
/-! First occurrences, as the list operation that erases later duplicates. -/
namespace PolicySearch

variable {α : Type} [DecidableEq α]

theorem appendNewTwice (known : List α) (x : α) :
    appendNew (appendNew known x) x = appendNew known x := by
  have inside : x ∈ appendNew known x := memberAppendNew.2 (.inr rfl)
  exact if_pos inside

theorem firstSeenEraseDups (xs : List α) : firstSeen xs = xs.eraseDups := by
  induction xs using List.reverseRecOn with
  | nil => rfl
  | append_singleton xs x ih =>
    rw [firstSeenLast, List.eraseDups_append, ih]
    unfold appendNew
    by_cases seen : x ∈ xs
    · rw [if_pos (List.mem_eraseDups.2 seen)]
      simp [List.removeAll, seen]
    · rw [if_neg fun inside => seen (List.mem_eraseDups.1 inside)]
      simp [List.removeAll, seen, List.eraseDups_cons]

theorem firstSeenCount (xs : List α) :
    (firstSeen xs).length = xs.toFinset.card := by
  have same : (firstSeen xs).toFinset = xs.toFinset := by
    ext x
    rw [List.mem_toFinset, List.mem_toFinset, memberFirstSeen]
  rw [← same, List.toFinset_card_of_nodup (firstSeenDistinct xs)]

/- What was seen before changes nothing. -/
theorem firstSeenAgain {front : List α} {x : α} (seen : x ∈ front) (back : List α) :
    firstSeen (front ++ x :: back) = firstSeen (front ++ back) := by
  have known : appendNew (firstSeen front) x = firstSeen front :=
    if_pos (memberFirstSeen.2 seen)
  unfold firstSeen at known ⊢
  rw [List.foldl_append, List.foldl_append, List.foldl_cons, known]

end PolicySearch
