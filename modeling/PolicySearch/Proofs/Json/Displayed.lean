import PolicySearch.Json.Display
/-! Displayed values. The text of a value that is no string is one of five words, or it has a sign or a
digit in it that no word has; so it is never empty, and it is hardly ever a word of its own. -/
namespace PolicySearch.Json
open Number Text

def displayWords : List String := ["None", "True", "False", "inf", "nan"]

def isMark (c : Char) : Bool := c.isDigit || ['.', '+', '-', '[', '\x7b'].contains c

def Marked (s : List Char) : Prop := ∃ c ∈ s, isMark c = true

variable {s t : List Char}

theorem markedBefore (marked : Marked s) : Marked (s ++ t) :=
  marked.imp fun _ found => ⟨List.mem_append_left t found.1, found.2⟩

theorem markedAfter (marked : Marked t) : Marked (s ++ t) :=
  marked.imp fun _ found => ⟨List.mem_append_right s found.1, found.2⟩

theorem markedHere {c : Char} (mark : isMark c = true) : Marked (c :: s) :=
  ⟨c, List.mem_cons_self, mark⟩

theorem markedNat (n : Nat) : Marked (digitsOf n) := by
  obtain ⟨c, inside⟩ := List.exists_mem_of_length_pos (digitCountPositive n)
  have digit : c.isDigit = true := Nat.isDigit_of_mem_toDigits (by decide) (by decide) inside
  exact ⟨c, inside, by simp [isMark, digit]⟩

theorem markedInt (n : Int) : Marked (intText n).toList := by
  cases n with
  | ofNat n => simpa [intText, natText] using markedNat n
  | negSucc n =>
    rw [intText, String.toList_append]
    exact markedBefore (markedHere rfl)

/- A number that is not whole is written with a point, or else with the sign of its exponent. -/
theorem markedLayOut (digits : List Char) (point : Int) : Marked (Binary64.layOut digits point) := by
  unfold Binary64.layOut
  split
  · split
    · exact markedBefore (markedHere rfl)
    · split
      · exact markedAfter (markedHere rfl)
      · exact markedAfter (markedHere rfl)
  · have sign : isMark (if point - 1 < 0 then '-' else '+') = true := by split <;> rfl
    exact markedAfter ⟨_, List.mem_cons_of_mem _ List.mem_cons_self, sign⟩

theorem displayedFloat (x : Binary64) : x.text ∈ displayWords ∨ Marked x.text.toList := by
  cases x with
  | nan => exact .inl (by decide)
  | infinite negative =>
    cases negative with
    | false => exact .inl (by decide)
    | true => exact .inr (markedHere rfl)
  | finite negative significand power =>
    refine .inr ?_
    rw [Binary64.text, String.toList_append, String.toList_ofList]
    refine markedAfter ?_
    unfold Binary64.magnitudeText
    split
    · exact markedHere rfl
    · exact markedLayOut _ _

theorem displayedOther {value : Json} (other : ∀ s, value ≠ .str s) :
    value.quoted ∈ displayWords ∨ Marked value.quoted.toList := by
  cases value with
  | null => exact .inl (by rw [quoted]; decide)
  | bool truth => exact .inl (by cases truth <;> rw [quoted] <;> decide)
  | int n => exact .inr (by rw [quoted]; exact markedInt n)
  | float x => rw [quoted]; exact displayedFloat x
  | str s => exact absurd rfl (other s)
  | arr items =>
    rw [quoted, String.toList_append, String.toList_append, List.append_assoc]
    exact .inr (markedHere rfl)
  | obj members =>
    rw [quoted, String.toList_append, String.toList_append, List.append_assoc]
    exact .inr (markedHere rfl)

theorem displayedFilled {value : Json} (other : ∀ s, value ≠ .str s) : value.quoted ≠ "" := by
  rcases displayedOther other with word | ⟨c, inside, _⟩
  · exact fun empty => absurd word (empty ▸ by decide)
  · exact fun empty => by simp [empty] at inside

end PolicySearch.Json
