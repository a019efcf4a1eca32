import Mathlib.Data.List.Infix
import PolicySearch.Proofs.Search.Parts
import PolicySearch.Proofs.Text.Recased
/-! Searching in small and in capital letters. Two texts find the same documents exactly if they have the
same small form. So a text in small letters always finds what the text does, and one in capital letters
does exactly if it can be made small again without a loss. -/
namespace PolicySearch.Query
open Text

variable {text other : String}

theorem occursBoth {x y : List Char} (left : occursIn x y = true) (right : occursIn y x = true) :
    x = y := by
  obtain ⟨front, back, within⟩ := occursIff.1 left
  obtain ⟨before, after, around⟩ := occursIff.1 right
  exact List.infix_antisymm ⟨front, back, within.symm⟩ ⟨before, after, around.symm⟩

theorem foundNamed (found : ∀ documents mode,
    filter ⟨mode, other⟩ documents = filter ⟨mode, text⟩ documents) :
    occursIn (lower other.toList) (lower text.toList) = true := by
  refine occursNamed fun mode d shown => ?_
  have member : d ∈ filter ⟨mode, text⟩ [d] :=
    filterMember.2 ⟨List.mem_singleton_self d, acceptsValue shown⟩
  rw [← found] at member
  exact (filterMember.1 member).2

theorem foundSameIff : (∀ documents mode,
    filter ⟨mode, other⟩ documents = filter ⟨mode, text⟩ documents) ↔
      lower other.toList = lower text.toList := by
  constructor
  · intro found
    exact occursBoth (foundNamed found) (foundNamed fun documents mode => (found documents mode).symm)
  · intro same documents mode
    refine List.filter_congr fun d _ => ?_
    simp only [accepts, same]

theorem foundInAnyCase (text : String) :
    (∀ documents mode,
      filter ⟨mode, lowered text⟩ documents = filter ⟨mode, text⟩ documents) ∧
    ((∀ documents mode,
      filter ⟨mode, uppered text⟩ documents = filter ⟨mode, text⟩ documents) ↔
        Recased text.toList) := by
  rw [foundSameIff, foundSameIff, lowered, uppered, String.toList_ofList, String.toList_ofList]
  exact ⟨lowerTwice text.toList, recasedIff⟩

/- The capital letters of a sharp s are small as two letters. -/
theorem streetUnfound :
    let street : Document := { id := "main", kind := .urlMaps, name := "Hauptstraße" }
    uppered "straße" = "STRASSE" ∧ filter ⟨.only .name, "straße"⟩ [street] = [street] ∧
      filter ⟨.only .name, uppered "straße"⟩ [street] = [] := by
  decide +kernel

end PolicySearch.Query
