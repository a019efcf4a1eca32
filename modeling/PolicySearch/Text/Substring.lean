/-! A text that stands somewhere in another. -/
namespace PolicySearch.Text

def occursIn (needle : List Char) : List Char → Bool
  | [] => needle.isEmpty
  | c :: rest => needle.isPrefixOf (c :: rest) || occursIn needle rest

theorem occursIff {needle hay : List Char} :
    occursIn needle hay = true ↔ ∃ front back, hay = front ++ needle ++ back := by
  induction hay with
  | nil =>
    simp only [occursIn, List.isEmpty_iff]
    constructor
    · rintro rfl; exact ⟨[], [], rfl⟩
    · rintro ⟨front, back, same⟩
      have := congrArg List.length same
      simp only [List.length_nil, List.length_append] at this
      exact List.eq_nil_of_length_eq_zero (by omega)
  | cons c rest ih =>
    simp only [occursIn, Bool.or_eq_true, List.isPrefixOf_iff_prefix, ih]
    constructor
    · rintro (⟨back, same⟩ | ⟨front, back, same⟩)
      · exact ⟨[], back, by simpa using same.symm⟩
      · exact ⟨c :: front, back, by simp [same]⟩
    · rintro ⟨front, back, same⟩
      cases front with
      | nil => exact .inl ⟨back, by simpa using same.symm⟩
      | cons d front =>
        simp only [List.cons_append, List.cons.injEq] at same
        exact .inr ⟨front, back, by simpa using same.2⟩

theorem occursEmpty (hay : List Char) : occursIn [] hay = true :=
  occursIff.2 ⟨[], hay, rfl⟩

theorem occursSelf (s : List Char) : occursIn s s = true :=
  occursIff.2 ⟨[], [], by simp⟩

theorem occursTrans {small middle large : List Char} (inner : occursIn small middle = true)
    (outer : occursIn middle large = true) : occursIn small large = true := by
  obtain ⟨f, b, rfl⟩ := occursIff.1 inner
  obtain ⟨front, back, rfl⟩ := occursIff.1 outer
  exact occursIff.2 ⟨front ++ f, b ++ back, by simp⟩

end PolicySearch.Text
