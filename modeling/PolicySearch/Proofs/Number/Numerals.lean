import PolicySearch.Proofs.Number.Layouts
import PolicySearch.Proofs.Number.Shortest
/-! The text of a number is a numeral that is read as that number: a number of the format as itself,
since its shortest digits are rounded to it again, and a whole number as what is nearest to it. -/
namespace PolicySearch.Number
open Text Binary64

variable {s : List Char} {negative : Bool}

theorem figurePlain {c : Char} (figure : isFigure c = true) :
    plainForm c = some c ∧ isMargin c = false ∧ c ≠ '_' := by
  have code := figureCode figure
  have space : c ≠ ' ' := fun same => absurd (same ▸ code.1) (by decide)
  have plain : c.toNat < 127 := by omega
  have line : c ≠ '_' := fun same => absurd (same ▸ code.2) (by decide)
  refine ⟨if_pos plain, ?_, line⟩
  simp only [isMargin, beq_eq_false_iff_ne.2 space, Bool.false_or, Bool.and_eq_false_iff,
    decide_eq_false_iff_not]
  omega

theorem plainForms (figures : Figures s) : s.mapM plainForm = some s := by
  induction s with
  | nil => rfl
  | cons c rest ih =>
    rw [List.mapM_cons, (figurePlain (figures c List.mem_cons_self)).1, ih (figuresCons.1 figures).2]
    rfl

theorem ofNumeralFigures {text : String} (spelled : text.toList = s) (figures : Figures s) :
    ofNumeral text = magnitudeOf (signed s).1 (signed s).2 := by
  have trimmed : trim isMargin s = s := trimNone fun c inside => (figurePlain (figures c inside)).2.1
  have ungrouped : ungroup false s = some s :=
    ungroupPlain false fun inside => (figurePlain (figures _ inside)).2.2 rfl
  rw [ofNumeral, spelled, plainForms figures]
  simp only [Option.bind_eq_bind, Option.bind_some, trimmed, ungrouped]

theorem digitSmall {c : Char} (digit : isDigit c = true) : c.toLower = c := by
  have range : c.toNat ≤ 57 := by
    simp only [isDigit, Bool.and_eq_true, decide_eq_true_eq] at digit
    exact digit.2
  have capital : ¬ (c.val ≥ 65 ∧ c.val ≤ 90) := fun upper =>
    Nat.not_lt.2 upper.1 (Nat.lt_succ_of_le (Nat.le_trans range (by decide)))
  exact dif_neg capital

/- What begins with a digit is none of the words. -/
theorem magnitudeDigits (starts : startsWithDigit s = true) : magnitudeOf negative s =
    (decimalOf s).map fun (digits, exponent) => ofDecimal negative digits exponent := by
  have other {word : String} (letter : startsWithDigit word.toList = false) :
      String.ofList (s.map Char.toLower) ≠ word := by
    rintro rfl
    cases s with
    | nil => cases starts
    | cons c rest =>
      have digit : isDigit c = true := starts
      have same : isDigit c.toLower = false := by rwa [String.toList_ofList] at letter
      rw [digitSmall digit, digit] at same
      cases same
  have inf : String.ofList (s.map Char.toLower) ≠ "inf" := other rfl
  have infinity : String.ofList (s.map Char.toLower) ≠ "infinity" := other rfl
  have nan : String.ofList (s.map Char.toLower) ≠ "nan" := other rfl
  rw [magnitudeOf]
  simp only [inf, infinity, nan, or_self, if_false]

theorem ofNumeralSigned (negative : Bool) (starts : startsWithDigit s = true) (figures : Figures s) :
    ofNumeral (signText negative ++ String.ofList s) =
      (decimalOf s).map fun (digits, exponent) => ofDecimal negative digits exponent := by
  rw [← magnitudeDigits starts]
  cases negative with
  | true =>
    have spelled : (signText true ++ String.ofList s).toList = '-' :: s := by
      rw [String.toList_append, String.toList_ofList]
      rfl
    exact ofNumeralFigures spelled (figuresCons.2 ⟨rfl, figures⟩)
  | false =>
    have spelled : (signText false ++ String.ofList s).toList = s := by
      rw [String.toList_append, String.toList_ofList]
      rfl
    have unsigned : signed s = (false, s) := by
      unfold signed
      split
      · cases starts
      · cases starts
      · rfl
    rw [ofNumeralFigures spelled figures, unsigned]

/- The zeros at the end that a number is written without. -/
theorem cutSplit (n : Nat) : ∃ zeros : Nat, digitCount n = (cutDigits n).length + zeros ∧
    n = valueOf (cutDigits n) * 10 ^ zeros := by
  obtain ⟨cut, split, zeros⟩ := trimEndSplit (· == '0') (digitsOf n)
  have copies : cut = List.replicate cut.length '0' :=
    List.eq_replicate_of_mem fun c inside => beq_iff_eq.1 (zeros c inside)
  refine ⟨cut.length, ?_, ?_⟩
  · rw [digitCount, split, List.length_append]
    rfl
  · rw [← valueOfZeros, ← copies]
    exact (valueOfDigits n).symm.trans (congrArg valueOf split)

theorem cutFilled {n : Nat} (pos : 0 < n) : cutDigits n ≠ [] := by
  obtain ⟨zeros, _, value⟩ := cutSplit n
  intro none
  rw [none] at value
  have zero : n = 0 := value.trans (Nat.zero_mul _)
  omega

theorem magnitudeRead {significand : Nat} {power : Int} (negative : Bool) (filled : 0 < significand)
    (fits : Fits significand power) : startsWithDigit (magnitudeText significand power) = true ∧
      (decimalOf (magnitudeText significand power)).map
        (fun (digits, exponent) => ofDecimal negative digits exponent) =
          some (.finite negative significand power) := by
  have back := shortestReadsBack negative filled fits
  generalize shortestIs : shortest significand power = decimal at back
  obtain ⟨n, unit⟩ := decimal
  have pos : 0 < n := by
    by_contra none
    rw [ofDecimalSmall negative (.inl (Nat.eq_zero_of_not_pos none))] at back
    cases back
    exact absurd filled (Nat.lt_irrefl 0)
  have laid : magnitudeText significand power = layOut (cutDigits n) (unit + digitCount n) := by
    unfold magnitudeText
    rw [if_neg filled.ne', shortestIs]
    rfl
  have all : ∀ c ∈ cutDigits n, isDigit c = true := fun _ => cutDigitsDigits
  obtain ⟨zeros, read⟩ := layOutRead (cutFilled pos) all (unit + digitCount n)
  obtain ⟨cut, count, value⟩ := cutSplit n
  have same : ((valueOf (cutDigits n) * 10 ^ zeros : ℕ) : ℚ) *
      10 ^ (unit + digitCount n - (cutDigits n).length - zeros) = n * 10 ^ unit := by
    have whole : (n : ℚ) = valueOf (cutDigits n) * 10 ^ cut := by exact_mod_cast value
    rw [whole, count]
    push_cast
    rw [mul_assoc, mul_assoc, ← zpow_natCast, ← zpow_natCast, ← zpow_add₀ (by norm_num),
      ← zpow_add₀ (by norm_num)]
    congr 2
    omega
  rw [laid, read]
  exact ⟨layOutStarts (cutFilled pos) all _, congrArg some ((ofDecimalSame negative same).trans back)⟩

namespace Binary64

/- A number of the format: its significand and its power are those that rounding gives. -/
def Proper : Binary64 → Prop
  | nan | infinite _ => True
  | finite _ significand power => Fits significand power

theorem ofNumeralText {x : Binary64} (proper : x.Proper) : ofNumeral x.text = some x := by
  cases x with
  | nan => decide +kernel
  | infinite negative => cases negative <;> decide +kernel
  | finite negative significand power =>
    have fits : Fits significand power := proper
    rcases Nat.eq_zero_or_pos significand with rfl | filled
    · have lowest := fits.full (by decide)
      have zero : magnitudeText 0 power = ['0', '.', '0'] := rfl
      rw [text, zero, ofNumeralSigned negative rfl (by decide), lowest]
      exact congrArg some (ofDecimalSmall negative (.inl rfl))
    · obtain ⟨starts, read⟩ := magnitudeRead negative filled fits
      rw [text, ofNumeralSigned negative starts (figuresMagnitude significand power), read]

theorem ofDecimalWhole (negative : Bool) (n : Nat) : ofDecimal negative n 0 = ofRatio negative n 1 := by
  rcases Nat.eq_zero_or_pos n with rfl | pos
  · rfl
  · rcases Int.lt_or_le 310 (0 + digitCount n) with large | within
    · have far : 2 ^ 1024 ≤ 10 ^ 310 := by decide +kernel
      have huge : (2 : ℚ) ^ 1024 ≤ n / (1 : ℕ) := by
        rw [Nat.cast_one, div_one]
        calc (2 : ℚ) ^ 1024 ≤ 10 ^ (310 : Int) := by exact_mod_cast far
          _ ≤ 10 ^ ((digitCount n : Int) - 1) := zpow_le_zpow_right₀ (by norm_num) (by omega)
          _ ≤ n := (digitCountSize pos).1
      rw [ofDecimalLarge negative pos large, ofRatioHuge negative Nat.one_pos huge]
    · have inside : ¬ (n = 0 ∨ 0 + (digitCount n : Int) < -330) := by omega
      unfold ofDecimal
      rw [if_neg inside, if_neg (Int.not_lt.2 within)]
      exact congrArg (ofRatio negative · 1) (Nat.mul_one n)

theorem ofNumeralNat (negative : Bool) (n : Nat) :
    ofNumeral (signText negative ++ natText n) = some (ofRatio negative n 1) := by
  have all : ∀ c ∈ digitsOf n, isDigit c = true := fun _ => digitsOfDigits
  have filled : digitsOf n ≠ [] := Nat.toDigits_ne_nil
  have starts : startsWithDigit (digitsOf n) = true := by
    cases same : digitsOf n with
    | nil => exact absurd same filled
    | cons c rest => exact all c (same ▸ List.mem_cons_self)
  have read : decimalOf (digitsOf n) = some (valueOf (digitsOf n), 0) := by
    have plain := wholeRead [] filled all rfl (by decide) rfl
    rwa [List.append_nil] at plain
  rw [natText, ofNumeralSigned negative starts (figuresOf n), read, valueOfDigits]
  exact congrArg some (ofDecimalWhole negative n)

theorem ofNumeralWhole (n : Int) : ofNumeral (intText n) = some (ofRatio (n < 0) n.natAbs 1) := by
  cases n with
  | ofNat k =>
    have spelled : intText (.ofNat k) = signText false ++ natText k := String.empty_append.symm
    have sign : decide (Int.ofNat k < 0) = false := decide_eq_false (Int.not_lt.2 (Int.natCast_nonneg k))
    rw [spelled, ofNumeralNat, sign]
    rfl
  | negSucc k =>
    have spelled : intText (.negSucc k) = signText true ++ natText (k + 1) := rfl
    have sign : decide (Int.negSucc k < 0) = true := decide_eq_true (Int.negSucc_lt_zero k)
    rw [spelled, ofNumeralNat, sign]
    rfl

end Binary64

end PolicySearch.Number
