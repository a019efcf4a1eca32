import PolicySearch.Client.Basic
import PolicySearch.Kind
/-! The names under which replies are kept. A name shows the kind, and it shows the branch only up to
slashes: a slash and two dashes are spelled alike. -/
namespace PolicySearch.Cache
open Client

/- A branch as it stands in a name. -/
def dashed (branch : String) : String := String.ofList (branch.toList.flatMap dashes)

theorem kindUndashed (kind : Kind) : '-' ∉ kind.word.toList := by cases kind <;> decide

theorem kindUnslashed (kind : Kind) : '/' ∉ kind.word.toList := by cases kind <;> decide

theorem kindFilled (kind : Kind) : kind.word.toList ≠ [] := by cases kind <;> decide

theorem dashesPlain {s : List Char} (absent : '/' ∉ s) : s.flatMap dashes = s := by
  induction s with
  | nil => rfl
  | cons c rest ih =>
    rw [List.mem_cons, not_or] at absent
    rw [List.flatMap_cons, ih absent.2, dashes, if_neg (Ne.symm absent.1), List.singleton_append]

/- Of the slashes of a path only the last one stands at an end. -/
theorem documentsTrimmed (branch : String) (kind : Kind) :
    Text.trim (· == '/') (documentsPath branch kind.word).toList =
      "configs/".toList ++ branch.toList ++ "/d/".toList ++ kind.word.toList := by
  obtain ⟨front, last, ends⟩ := (List.eq_nil_or_concat kind.word.toList).resolve_left (kindFilled kind)
  have other : last ≠ '/' := fun slash =>
    kindUnslashed kind (by simp [ends, slash])
  simp [documentsPath, ends, Text.trim, Text.trimStart, Text.trimEnd, other]

theorem documentsName (branch : String) (kind : Kind) :
    nameOf (documentsPath branch kind.word) =
      "configs--" ++ dashed branch ++ "--d--" ++ kind.word := by
  rw [← String.toList_inj, nameOf, documentsTrimmed]
  simp [dashed, dashes, dashesPlain (kindUnslashed kind)]

theorem lastWordSame {front front' word word' : List Char} (plain : '-' ∉ word)
    (plain' : '-' ∉ word') (same : front ++ '-' :: word = front' ++ '-' :: word') :
    front = front' ∧ word = word' := by
  obtain ⟨more, rfl, tail⟩ | ⟨more, rfl, tail⟩ := List.append_eq_append_iff.1 same <;>
  cases more with
  | nil => simp_all
  | cons c more =>
    have inside := (List.cons.inj tail).2
    simp_all

/- Two branches share their names exactly if they are the same up to a slash for two dashes. -/
theorem documentsShare {branch branch' : String} {kind kind' : Kind} :
    nameOf (documentsPath branch kind.word) = nameOf (documentsPath branch' kind'.word) ↔
      kind = kind' ∧ dashed branch = dashed branch' := by
  refine ⟨fun same => ?_, fun ⟨kinds, branches⟩ => ?_⟩
  · rw [documentsName, documentsName, ← String.toList_inj] at same
    have split (b : String) (k : Kind) : ("configs--" ++ dashed b ++ "--d--" ++ k.word).toList =
        "configs--".toList ++ (dashed b).toList ++ "--d-".toList ++ '-' :: k.word.toList := by
      simp
    rw [split, split] at same
    obtain ⟨fronts, words⟩ := lastWordSame (kindUndashed kind) (kindUndashed kind') same
    refine ⟨?_, String.toList_inj.1 ?_⟩
    · exact Option.some.inj (by
        rw [← Kind.ofOwnWord kind, ← Kind.ofOwnWord kind', String.toList_inj.1 words])
    · exact List.append_cancel_left (List.append_cancel_right fronts)
  · rw [documentsName, documentsName, kinds, branches]

end PolicySearch.Cache
