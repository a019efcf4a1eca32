import PolicySearch.Proofs.Search.Connections
import PolicySearch.Proofs.Text.Sigma
/-! Searching for a part of a text. What a search for the text finds is found by a search for the part
too, if the small form of the part stands in that of the text. It does so in every text exactly if the
sigmas of the part are decided within it; and a part with a sigma that is not is missed in some text,
although it stands there letter for letter. -/
namespace PolicySearch.Query
open Text

variable {text s : String} {mode : Mode} {d : Document}

theorem acceptsPart (occurs : occursIn (lower s.toList) (lower text.toList) = true)
    (accepted : accepts ⟨mode, text⟩ d = true) : accepts ⟨mode, s⟩ d = true := by
  rcases acceptsIff.1 accepted with empty | ⟨value, shown, hit⟩
  · obtain ⟨front, back, same⟩ := occursIff.1 occurs
    rw [String.toList_eq_nil_iff.2 empty, lowerEmpty.2 rfl, List.nil_eq, List.append_eq_nil_iff,
      List.append_eq_nil_iff, lowerEmpty, String.toList_eq_nil_iff] at same
    exact emptyAccepts d same.1.2
  · exact acceptsIff.2 (.inr ⟨value, shown, occursTrans occurs hit⟩)

/- A document with that name, searched by its name, tells. -/
theorem occursNamed (found : ∀ mode d, text ∈ d.values mode → accepts ⟨mode, s⟩ d = true) :
    occursIn (lower s.toList) (lower text.toList) = true := by
  have named := found (.only .name) { id := "", kind := .urlMaps, name := text }
    (List.mem_singleton_self text)
  rcases acceptsIff.1 named with empty | ⟨value, shown, hit⟩
  · rw [String.toList_eq_nil_iff.2 empty, lowerEmpty.2 rfl]
    exact occursEmpty _
  · obtain rfl := List.mem_singleton.1 shown
    exact hit

theorem decidedParts (s : String) : SigmasDecided s.toList ↔
    ∀ front back : String, occursIn (lower s.toList) (lower (front ++ s ++ back).toList) = true := by
  rw [← partOccursIff]
  constructor
  · intro occurs front back
    rw [String.toList_append, String.toList_append]
    exact occurs front.toList back.toList
  · intro occurs front back
    have found := occurs (String.ofList front) (String.ofList back)
    rwa [String.toList_append, String.toList_append, String.toList_ofList, String.toList_ofList]
      at found

/- A search for a part finds all that a search for the text finds exactly if the small form of the part
stands in that of the text. The parts that no longer text hides, and those that are found wherever they
stand, are the ones whose sigmas are decided. -/
theorem partsFound (s : String) :
    (∀ front back : String,
      (∀ mode d, accepts ⟨mode, front ++ s ++ back⟩ d = true → accepts ⟨mode, s⟩ d = true) ↔
        occursIn (lower s.toList) (lower (front ++ s ++ back).toList) = true) ∧
    ((∀ (front back : String) mode d,
      accepts ⟨mode, front ++ s ++ back⟩ d = true → accepts ⟨mode, s⟩ d = true) ↔
        SigmasDecided s.toList) ∧
    ((∀ (front back : String) mode d,
      front ++ s ++ back ∈ d.values mode → accepts ⟨mode, s⟩ d = true) ↔
        SigmasDecided s.toList) := by
  have within (front back : String) :
      (∀ mode d, accepts ⟨mode, front ++ s ++ back⟩ d = true → accepts ⟨mode, s⟩ d = true) ↔
        occursIn (lower s.toList) (lower (front ++ s ++ back).toList) = true :=
    ⟨fun found => occursNamed fun mode d shown => found mode d (acceptsValue shown),
      fun occurs _ _ => acceptsPart occurs⟩
  refine ⟨within, ?_, ?_⟩
  · rw [decidedParts]
    exact forall_congr' fun front => forall_congr' fun back => within front back
  · rw [decidedParts]
    refine forall_congr' fun front => forall_congr' fun back => ⟨occursNamed, fun occurs mode d => ?_⟩
    exact fun shown => acceptsPart occurs (acceptsValue shown)

/- The word for a street at the start of the one for road signs. -/
theorem streetMissed :
    let signs : Document := { id := "signs", kind := .urlMaps, name := "ΟΔΟΣ" ++ "ΗΜΑΝΣΗ" }
    accepts ⟨.only .name, "ΟΔΟΣ" ++ "ΗΜΑΝΣΗ"⟩ signs = true ∧
      accepts ⟨.only .name, "ΟΔΟΣ"⟩ signs = false := by
  decide +kernel

end PolicySearch.Query
