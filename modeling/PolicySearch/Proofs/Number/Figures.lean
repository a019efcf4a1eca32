import PolicySearch.Number.Shortest
import PolicySearch.Text.Digit
import PolicySearch.Text.Trim
/-! The characters of written numbers: digits, and the point, the signs and the letter among them. -/
namespace PolicySearch.Number
open Text

def isFigure (c : Char) : Bool := isDigit c || ['.', 'e', '+', '-'].contains c

def Figures (s : List Char) : Prop := ∀ c ∈ s, isFigure c = true

instance (s : List Char) : Decidable (Figures s) :=
  decidable_of_iff (s.all isFigure = true) List.all_eq_true

variable {s t : List Char} {c : Char}

theorem figureCode (figure : isFigure c = true) :
    43 ≤ c.toNat ∧ (c.toNat ≤ 57 ∨ c.toNat = 101) := by
  simp only [isFigure, isDigit, Bool.or_eq_true, Bool.and_eq_true, decide_eq_true_eq,
    List.contains_iff_mem, List.mem_cons, List.not_mem_nil, or_false] at figure
  rcases figure with digit | rfl | rfl | rfl | rfl
  · exact ⟨Nat.le_trans (by decide : 43 ≤ 48) digit.1, .inl digit.2⟩
  · decide
  · decide
  · decide
  · decide

theorem figuresAppend : Figures (s ++ t) ↔ Figures s ∧ Figures t := List.forall_mem_append

theorem figuresCons : Figures (c :: s) ↔ isFigure c = true ∧ Figures s := List.forall_mem_cons

theorem figuresNil : Figures [] := List.forall_mem_nil _

theorem figuresCopies (n : Nat) (figure : isFigure c = true) : Figures (List.replicate n c) :=
  fun _ member => (List.eq_of_mem_replicate member) ▸ figure

theorem figuresPart {part : List Char} (figures : Figures s) (inside : part ⊆ s) : Figures part :=
  fun c member => figures c (inside member)

theorem digitsOfDigits {n : Nat} {c : Char} (inside : c ∈ digitsOf n) : isDigit c = true :=
  Nat.isDigit_of_mem_toDigits (by decide) (by decide) inside

theorem figuresDigits (digits : ∀ c ∈ s, isDigit c = true) : Figures s := by
  intro c inside
  rw [isFigure, digits c inside, Bool.true_or]

theorem figuresOf (n : Nat) : Figures (digitsOf n) := figuresDigits fun _ => digitsOfDigits

theorem figuresWhole (n : Int) : Figures (intText n).toList := by
  cases n with
  | ofNat n => simpa [intText, natText] using figuresOf n
  | negSucc n =>
    rw [intText, String.toList_append]
    exact figuresAppend.2 ⟨by decide, by simpa [natText] using figuresOf (n + 1)⟩

namespace Binary64

theorem figuresSign (negative : Bool) : Figures (signText negative).toList := by
  cases negative <;> decide

theorem figuresExponent (exponent : Int) : Figures (exponentText exponent) := by
  unfold exponentText
  refine figuresCons.2 ⟨by split <;> decide, ?_⟩
  split
  · exact figuresCons.2 ⟨by decide, figuresOf _⟩
  · exact figuresOf _

theorem figuresLayOut (figures : Figures s) (point : Int) : Figures (layOut s point) := by
  have taken (n : Nat) : Figures (s.take n) := figuresPart figures (List.take_subset n s)
  have dropped (n : Nat) : Figures (s.drop n) := figuresPart figures (List.drop_subset n s)
  unfold layOut
  split
  · split
    · refine figuresAppend.2 ⟨?_, figures⟩
      exact figuresCons.2 ⟨by decide, figuresCons.2 ⟨by decide, figuresCopies _ (by decide)⟩⟩
    · split
      · exact figuresAppend.2 ⟨figuresAppend.2 ⟨figures, figuresCopies _ (by decide)⟩, by decide⟩
      · exact figuresAppend.2 ⟨taken _, figuresCons.2 ⟨by decide, dropped _⟩⟩
  · dsimp only
    refine figuresAppend.2 ⟨figuresAppend.2 ⟨taken 1, ?_⟩,
      figuresCons.2 ⟨by decide, figuresExponent _⟩⟩
    split
    · exact figuresNil
    · exact figuresCons.2 ⟨by decide, dropped 1⟩

/- The digits of a number without the zeros at their end. -/
def cutDigits (n : Nat) : List Char := trimEnd (· == '0') (digitsOf n)

theorem cutDigitsDigits {n : Nat} {c : Char} (inside : c ∈ cutDigits n) : isDigit c = true :=
  digitsOfDigits (List.mem_reverse.1 ((List.dropWhile_sublist _).subset (List.mem_reverse.1 inside)))

theorem figuresMagnitude (significand : Nat) (power : Int) :
    Figures (magnitudeText significand power) := by
  unfold magnitudeText
  split
  · decide
  · exact figuresLayOut (figuresDigits fun _ => cutDigitsDigits) _

end Binary64

end PolicySearch.Number
