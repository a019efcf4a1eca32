import PolicySearch.Number.Decimal
import PolicySearch.Proofs.Number.Rounding
/-! Decimals and what they are rounded to, which depends on their value alone, however it is written. The
digits of a whole number tell its size, and with that a decimal far outside the format is known
without computing it out. -/
namespace PolicySearch.Number

variable {digits : List Char}

theorem valueOfDigits (n : Nat) : valueOf (digitsOf n) = n := Nat.ofDigitChars_ten_toDigits

theorem valueOfZeros (digits : List Char) (k : Nat) :
    valueOf (digits ++ List.replicate k '0') = valueOf digits * 10 ^ k := by
  have split : valueOf (digits ++ List.replicate k '0') =
      Nat.ofDigitChars 10 (List.replicate k '0') (valueOf digits) := Nat.ofDigitChars_append 0
  rw [split, Nat.ofDigitChars_replicate_zero, Nat.mul_comm]

theorem valueOfLeading (k : Nat) (digits : List Char) :
    valueOf (List.replicate k '0' ++ digits) = valueOf digits := by
  have split : valueOf (List.replicate k '0' ++ digits) =
      Nat.ofDigitChars 10 digits (Nat.ofDigitChars 10 (List.replicate k '0') 0) :=
    Nat.ofDigitChars_append 0
  rw [split, Nat.ofDigitChars_replicate_zero, Nat.mul_zero]
  rfl

theorem digitCountSize {n : Nat} (pos : 0 < n) :
    (10 : ℚ) ^ ((digitCount n : Int) - 1) ≤ n ∧ (n : ℚ) < 10 ^ (digitCount n : Int) := by
  have least : n < 10 ^ digitCount n :=
    (Nat.length_toDigits_le_iff (by decide) (digitCountPositive n)).1 le_rfl
  have most : 10 ^ (digitCount n - 1) ≤ n := by
    rcases Nat.eq_zero_or_pos (digitCount n - 1) with one | more
    · rw [one]
      exact pos
    · rw [← Nat.not_lt, ← Nat.length_toDigits_le_iff (by decide) more]
      change ¬ digitCount n ≤ _
      omega
  have last : (digitCount n : Int) - 1 = (digitCount n - 1 : ℕ) := by
    have := digitCountPositive n
    omega
  rw [last, zpow_natCast, zpow_natCast]
  exact ⟨by exact_mod_cast most, by exact_mod_cast least⟩

namespace Binary64

variable {n n' significand : Nat} {unit unit' power : Int}

/- The size of a decimal, as the power of ten that it is below. -/
theorem decimalSize (pos : 0 < n) (unit : Int) :
    (10 : ℚ) ^ (unit + digitCount n - 1) ≤ n * 10 ^ unit ∧
      (n * 10 ^ unit : ℚ) < 10 ^ (unit + digitCount n) := by
  have ten : (10 : ℚ) ≠ 0 := by norm_num
  obtain ⟨least, most⟩ := digitCountSize pos
  constructor
  · rw [show unit + digitCount n - 1 = (digitCount n - 1) + unit by omega, zpow_add₀ ten]
    gcongr
  · rw [Int.add_comm, zpow_add₀ ten]
    gcongr

theorem decimalSizeSame (pos : 0 < n) (pos' : 0 < n') (same : (n * 10 ^ unit : ℚ) = n' * 10 ^ unit') :
    unit + digitCount n = unit' + digitCount n' := by
  have one : (1 : ℚ) < 10 := by norm_num
  obtain ⟨least, most⟩ := decimalSize pos unit
  obtain ⟨least', most'⟩ := decimalSize pos' unit'
  have below := (zpow_lt_zpow_iff_right₀ one).1 (least.trans_lt (same ▸ most'))
  have above := (zpow_lt_zpow_iff_right₀ one).1 (least'.trans_lt (same ▸ most))
  omega

theorem ofDecimalSmall (negative : Bool) (small : n = 0 ∨ unit + digitCount n < -330) :
    ofDecimal negative n unit = .finite negative 0 lowestPower := by
  unfold ofDecimal
  rw [if_pos small]

theorem ofDecimalLarge (negative : Bool) (pos : 0 < n) (large : 310 < unit + digitCount n) :
    ofDecimal negative n unit = .infinite negative := by
  unfold ofDecimal
  rw [if_neg (by omega), if_pos large]

/- Inside the format a decimal is rounded as the ratio it is. -/
theorem ofDecimalRatio (pos : 0 < n) (lower : -330 ≤ unit + digitCount n)
    (upper : unit + digitCount n ≤ 310) : ∃ num den : Nat, 0 < num ∧ 0 < den ∧
      (num / den : ℚ) = n * 10 ^ unit ∧
      ∀ negative, ofDecimal negative n unit = ofRatio negative num den := by
  have inside : ¬ (n = 0 ∨ unit + digitCount n < -330) := by omega
  have positive (k : Nat) : 0 < tenTo k := Nat.pow_pos (by decide)
  have ten (k : Nat) : (tenTo k : ℚ) = 10 ^ k := by exact_mod_cast rfl
  have within := Int.not_lt.2 upper
  cases unit with
  | ofNat up =>
    refine ⟨n * tenTo up, 1, Nat.mul_pos pos (positive up), Nat.one_pos, ?_, fun negative => ?_⟩
    · simp [ten]
    · unfold ofDecimal
      rw [if_neg inside, if_neg within]
  | negSucc down =>
    refine ⟨n, tenTo (down + 1), pos, positive _, ?_, fun negative => ?_⟩
    · rw [ten, zpow_negSucc, div_eq_mul_inv]
    · unfold ofDecimal
      rw [if_neg inside, if_neg within]

theorem ofDecimalSame (negative : Bool) (same : (n * 10 ^ unit : ℚ) = n' * 10 ^ unit') :
    ofDecimal negative n unit = ofDecimal negative n' unit' := by
  have ten (k : Int) : (0 : ℚ) < 10 ^ k := by positivity
  have zero : n = 0 ↔ n' = 0 := by
    constructor
    · rintro rfl
      rw [Nat.cast_zero, zero_mul, eq_comm, mul_eq_zero_iff_right (ten unit').ne'] at same
      exact_mod_cast same
    · rintro rfl
      rw [Nat.cast_zero, zero_mul, mul_eq_zero_iff_right (ten unit).ne'] at same
      exact_mod_cast same
  rcases Nat.eq_zero_or_pos n with none | pos
  · rw [ofDecimalSmall negative (.inl none), ofDecimalSmall negative (.inl (zero.1 none))]
  · have pos' : 0 < n' := Nat.pos_of_ne_zero (mt zero.2 pos.ne')
    have size := decimalSizeSame pos pos' same
    by_cases lower : unit + digitCount n < -330
    · rw [ofDecimalSmall negative (.inr lower), ofDecimalSmall negative (.inr (size ▸ lower))]
    by_cases upper : 310 < unit + digitCount n
    · rw [ofDecimalLarge negative pos upper, ofDecimalLarge negative pos' (size ▸ upper)]
    obtain ⟨num, den, _, denPos, value, rounded⟩ :=
      ofDecimalRatio pos (Int.not_lt.1 lower) (Int.not_lt.1 upper)
    obtain ⟨num', den', _, denPos', value', rounded'⟩ :=
      ofDecimalRatio pos' (size ▸ Int.not_lt.1 lower) (size ▸ Int.not_lt.1 upper)
    rw [rounded, rounded', ofRatioSame negative denPos denPos' (by rw [value, value', same])]

theorem Fits.range (filled : 0 < significand) (fits : Fits significand power) :
    (2 : ℚ) ^ (-1074 : Int) ≤ significand * 2 ^ power ∧
      (significand * 2 ^ power : ℚ) < 2 ^ (1024 : Int) := by
  have first : (1 : ℚ) ≤ significand := by exact_mod_cast filled
  have below : (significand : ℚ) < 2 ^ (53 : Int) := by exact_mod_cast fits.below
  constructor
  · calc (2 : ℚ) ^ (-1074 : Int) ≤ 2 ^ power := zpow_le_zpow_right₀ (by norm_num) fits.lowest
      _ ≤ significand * 2 ^ power := le_mul_of_one_le_left (by positivity) first
  · calc (significand * 2 ^ power : ℚ) < 2 ^ (53 : Int) * 2 ^ power := by gcongr
      _ ≤ 2 ^ (53 : Int) * 2 ^ (971 : Int) := by
        gcongr
        · norm_num
        · exact fits.highest
      _ = 2 ^ (1024 : Int) := by rw [← zpow_add₀ (by norm_num)]; rfl

/- A decimal near to a number of the format is not so small or so large that it is not computed out. -/
theorem nearInside (lower : (2 : ℚ) ^ (-1074 : Int) < n * 10 ^ unit * 2)
    (upper : (n * 10 ^ unit : ℚ) < 2 ^ (1024 : Int) * 2) :
    0 < n ∧ -330 ≤ unit + digitCount n ∧ unit + digitCount n ≤ 310 := by
  have one : (1 : ℚ) < 10 := by norm_num
  have pos : 0 < n := by
    have above : (0 : ℚ) < n * 10 ^ unit := by
      have positive : (0 : ℚ) < 2 ^ (-1074 : Int) := by positivity
      linarith
    exact_mod_cast (mul_pos_iff_of_pos_right (by positivity)).1 above
  obtain ⟨least, most⟩ := decimalSize pos unit
  refine ⟨pos, ?_, ?_⟩
  · have small : (10 : ℚ) ^ (-330 : Int) * 2 ≤ 2 ^ (-1074 : Int) := by
      have far : 2 ^ 1074 * 2 ≤ 10 ^ 330 := by decide +kernel
      have far : (2 ^ 1074 * 2 : ℚ) ≤ 10 ^ 330 := by exact_mod_cast far
      rw [zpow_neg, zpow_neg, inv_mul_le_iff₀ (by positivity), ← div_eq_mul_inv,
        le_div_iff₀ (by positivity), mul_comm]
      exact_mod_cast far
    have below : (10 : ℚ) ^ (-330 : Int) < 10 ^ (unit + digitCount n) :=
      lt_trans (lt_of_mul_lt_mul_right (small.trans_lt lower) zero_le_two) most
    have below := (zpow_lt_zpow_iff_right₀ one).1 below
    omega
  · have large : (2 : ℚ) ^ (1024 : Int) * 2 ≤ 10 ^ (310 : Int) := by
      have far : 2 ^ 1024 * 2 ≤ 10 ^ 310 := by decide +kernel
      exact_mod_cast far
    have above := (zpow_lt_zpow_iff_right₀ one).1 (least.trans_lt (upper.trans_le large))
    omega

/- A decimal that differs from a number of the format by less than one part in 2 ^ 54 is rounded to
it. -/
theorem ofDecimalNear (negative : Bool) (filled : 0 < significand) (fits : Fits significand power)
    (near : |(n * 10 ^ unit : ℚ) - significand * 2 ^ power| * 2 ^ 54 < significand * 2 ^ power) :
    ofDecimal negative n unit = .finite negative significand power := by
  obtain ⟨least, most⟩ := fits.range filled
  obtain ⟨left, right⟩ := abs_lt.1 ((lt_div_iff₀ (by positivity)).2 near)
  have positive : (0 : ℚ) < significand * 2 ^ power := lt_of_lt_of_le (by positivity) least
  have lower : (significand * 2 ^ power : ℚ) < n * 10 ^ unit * 2 := by linarith
  have upper : (n * 10 ^ unit : ℚ) < significand * 2 ^ power * 2 := by linarith
  obtain ⟨pos, inside, within⟩ := nearInside (least.trans_lt lower) (upper.trans (by gcongr))
  obtain ⟨num, den, numPos, denPos, ratio, rounded⟩ := ofDecimalRatio pos inside within
  rw [rounded, ofRatioNear negative numPos denPos fits (by rwa [ratio])]

end Binary64

end PolicySearch.Number
