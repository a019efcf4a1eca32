import Mathlib.Algebra.Order.Field.Power
import Mathlib.Algebra.Order.Field.Rat
import Mathlib.Algebra.Order.Ring.Abs
import Mathlib.Tactic.FieldSimp
import Mathlib.Tactic.Linarith
import Mathlib.Tactic.Positivity
import PolicySearch.Number.Binary64
/-! Rounding to binary64. The power that a ratio is rounded at is the one that its size asks for, so
what comes of it depends on the ratio alone; and it is any number of the format that the ratio is close
to. -/
namespace PolicySearch.Number.Binary64

variable {num den num' den' significand : Nat} {power : Int}

theorem scaledPositive (num : Nat) (power : Int) (pos : 0 < den) : 0 < (scaled num den power).2 := by
  cases power with
  | ofNat up => simpa [scaled, Nat.shiftLeft_eq] using pos
  | negSucc down => exact pos

theorem scaledValue (num den : Nat) (power : Int) :
    ((scaled num den power).1 : ℚ) / (scaled num den power).2 = (num / den : ℚ) / 2 ^ power := by
  cases power with
  | ofNat up => simp [scaled, Nat.shiftLeft_eq, div_div]
  | negSucc down =>
    simp only [scaled, Nat.shiftLeft_eq, zpow_negSucc]
    push_cast
    rw [div_inv_eq_mul, div_mul_eq_mul_div]

/- The size of a ratio, as the power of a significand of 53 bits. -/
def Sized (x : ℚ) (power : Int) : Prop := (2 : ℚ) ^ (52 + power) ≤ x ∧ x < 2 ^ (53 + power)

theorem sizedUnique {x : ℚ} {p q : Int} (first : Sized x p) (second : Sized x q) : p = q := by
  have one : (1 : ℚ) < 2 := by norm_num
  have below := (zpow_lt_zpow_iff_right₀ one).1 (first.1.trans_lt second.2)
  have above := (zpow_lt_zpow_iff_right₀ one).1 (second.1.trans_lt first.2)
  omega

theorem numPositive (pos : 0 < den) (positive : (0 : ℚ) < num / den) : 0 < num := by
  exact_mod_cast (div_pos_iff_of_pos_right (by exact_mod_cast pos)).1 positive

theorem log2Within {n : Nat} (some : 0 < n) :
    (2 : ℚ) ^ (Nat.log2 n : Int) ≤ n ∧ (n : ℚ) < 2 ^ ((Nat.log2 n : Int) + 1) := by
  constructor
  · rw [zpow_natCast]
    exact_mod_cast Nat.log2_self_le some.ne'
  · rw [← Nat.cast_succ, zpow_natCast]
    exact_mod_cast Nat.lt_log2_self

/- The sizes of the two parts tell that of the ratio up to one. -/
theorem ratioWithin (some : 0 < num) (pos : 0 < den) {size : Int}
    (sizes : size = (Nat.log2 num : Int) - Nat.log2 den) :
    (2 : ℚ) ^ (size - 1) ≤ num / den ∧ (num / den : ℚ) < 2 ^ (size + 1) := by
  have two : (2 : ℚ) ≠ 0 := by norm_num
  have denPos : (0 : ℚ) < den := by exact_mod_cast pos
  obtain ⟨below, above⟩ := log2Within some
  obtain ⟨denBelow, denAbove⟩ := log2Within pos
  constructor
  · rw [le_div_iff₀ denPos]
    calc (2 : ℚ) ^ (size - 1) * den ≤ 2 ^ (size - 1) * 2 ^ ((Nat.log2 den : Int) + 1) := by gcongr
      _ = 2 ^ (Nat.log2 num : Int) := by rw [← zpow_add₀ two]; congr 1; omega
      _ ≤ num := below
  · rw [div_lt_iff₀ denPos]
    calc (num : ℚ) < 2 ^ ((Nat.log2 num : Int) + 1) := above
      _ = 2 ^ (size + 1) * 2 ^ (Nat.log2 den : Int) := by rw [← zpow_add₀ two]; congr 1; omega
      _ ≤ 2 ^ (size + 1) * den := by gcongr

theorem scaledFits (num : Nat) (power : Int) (pos : 0 < den) :
    (scaled num den power).1 / (scaled num den power).2 < 1 <<< precision ↔
      (num / den : ℚ) < 2 ^ (53 + power) := by
  have scaledPos := scaledPositive num power pos
  have powerPos : (0 : ℚ) < 2 ^ power := by positivity
  rw [Nat.div_lt_iff_lt_mul scaledPos, zpow_add₀ (by norm_num), ← div_lt_iff₀ powerPos,
    ← scaledValue, div_lt_iff₀ (by exact_mod_cast scaledPos)]
  norm_num [precision, Nat.shiftLeft_eq]
  norm_cast

theorem powerSized (some : 0 < num) (pos : 0 < den) :
    ∃ power, powerFor num den = max lowestPower power ∧ Sized (num / den) power := by
  obtain ⟨least, most⟩ := ratioWithin some pos rfl
  unfold powerFor
  generalize (Nat.log2 num : Int) - Nat.log2 den = size at least most
  dsimp only
  by_cases small : (num / den : ℚ) < 2 ^ (53 + (size - 53))
  · refine ⟨size - 53, by rw [if_pos ((scaledFits num _ pos).2 small)], ?_, small⟩
    rwa [show 52 + (size - 53) = size - 1 by omega]
  · refine ⟨size - 53 + 1, by rw [if_neg (mt (scaledFits num _ pos).1 small)], ?_, ?_⟩
    · rw [show 52 + (size - 53 + 1) = 53 + (size - 53) by omega]
      exact not_lt.1 small
    · rwa [show 53 + (size - 53 + 1) = size + 1 by omega]

theorem nearestClose (num : Nat) (pos : 0 < den) :
    |(num / den : ℚ) - nearest num den| ≤ 1 / 2 := by
  have split := Nat.div_add_mod num den
  have rest := Nat.mod_lt num pos
  have close : 2 * num ≤ 2 * (den * nearest num den) + den ∧
      2 * (den * nearest num den) ≤ 2 * num + den := by
    unfold nearest
    dsimp only
    split
    · omega
    · rw [Nat.mul_succ]
      omega
  obtain ⟨below, above⟩ := close
  have denPos : (0 : ℚ) < den := by exact_mod_cast pos
  have below : (2 * num : ℚ) ≤ 2 * (den * nearest num den) + den := by exact_mod_cast below
  have above : (2 * (den * nearest num den) : ℚ) ≤ 2 * num + den := by exact_mod_cast above
  rw [abs_le]
  constructor
  · rw [neg_le_sub_iff_le_add, ← sub_le_iff_le_add, le_div_iff₀ denPos]
    linarith
  · rw [sub_le_iff_le_add, div_le_iff₀ denPos]
    linarith

theorem nearestOf (pos : 0 < den) (near : |(num / den : ℚ) - significand| < 1 / 2) :
    nearest num den = significand := by
  have close := abs_le.1 (nearestClose num pos)
  obtain ⟨left, right⟩ := abs_lt.1 near
  have above : (nearest num den : ℚ) < significand + 1 := by linarith
  have below : (significand : ℚ) < nearest num den + 1 := by linarith
  have above : nearest num den < significand + 1 := by exact_mod_cast above
  have below : significand < nearest num den + 1 := by exact_mod_cast below
  omega

theorem nearestTimes (num den : Nat) {k : Nat} (pos : 0 < k) :
    nearest (num * k) (den * k) = nearest num den := by
  have less : 2 * (num % den * k) < den * k ↔ 2 * (num % den) < den := by
    rw [← Nat.mul_assoc]
    exact Nat.mul_lt_mul_right pos
  have same : 2 * (num % den * k) = den * k ↔ 2 * (num % den) = den := by
    rw [← Nat.mul_assoc]
    exact Nat.mul_left_inj pos.ne'
  simp only [nearest, Nat.mul_div_mul_right _ _ pos, Nat.mul_mod_mul_right, less, same]

theorem nearestSame (pos : 0 < den) (pos' : 0 < den') (same : (num / den : ℚ) = num' / den') :
    nearest num den = nearest num' den' := by
  have cross : num * den' = num' * den := by
    rw [div_eq_div_iff (by exact_mod_cast pos.ne') (by exact_mod_cast pos'.ne')] at same
    exact_mod_cast same
  rw [← nearestTimes num den pos', ← nearestTimes num' den' pos, cross, Nat.mul_comm den]

theorem powerAt (some : 0 < num) (pos : 0 < den) (sized : Sized (num / den) power) :
    powerFor num den = max lowestPower power := by
  obtain ⟨own, powerIs, ownSized⟩ := powerSized some pos
  rw [powerIs, sizedUnique ownSized sized]

theorem ofRatioAt (negative : Bool) (some : 0 < num) (pos : 0 < den) (at_ : powerFor num den = power)
    (near : |(num / den : ℚ) / 2 ^ power - significand| < 1 / 2) :
    ofRatio negative num den = settle negative significand power := by
  have rounded := nearestOf (scaledPositive num power pos) (by rwa [scaledValue])
  rw [ofRatio, if_neg some.ne']
  simp only [at_, rounded]

/- What a ratio is rounded to depends on its value alone. -/
theorem ofRatioSame (negative : Bool) (pos : 0 < den) (pos' : 0 < den')
    (same : (num / den : ℚ) = num' / den') :
    ofRatio negative num den = ofRatio negative num' den' := by
  have denPos : (0 : ℚ) < den := by exact_mod_cast pos
  have denPos' : (0 : ℚ) < den' := by exact_mod_cast pos'
  rcases Nat.eq_zero_or_pos num with rfl | some
  · have none : num' = 0 := by
      have value : (num' / den' : ℚ) = 0 := by simpa using same.symm
      exact_mod_cast (div_eq_zero_iff.1 value).resolve_right denPos'.ne'
    rw [none, ofRatio, ofRatio, if_pos rfl, if_pos rfl]
  · have some' : 0 < num' := numPositive pos' (same ▸ div_pos (by exact_mod_cast some) denPos)
    obtain ⟨power, powerIs, sized⟩ := powerSized some pos
    have powerIs' := powerAt some' pos' (same ▸ sized)
    have rounded := nearestSame (scaledPositive num (max lowestPower power) pos)
      (scaledPositive num' (max lowestPower power) pos') (by rw [scaledValue, scaledValue, same])
    rw [ofRatio, ofRatio, if_neg some.ne', if_neg some'.ne']
    simp only [powerIs, powerIs', rounded]

/- The significand and the power of a number of the format. -/
structure Fits (significand : Nat) (power : Int) : Prop where
  below : significand < 2 ^ 53
  lowest : lowestPower ≤ power
  highest : power ≤ highestPower
  full : significand < 2 ^ 52 → power = lowestPower

theorem settleWithin {negative : Bool} (below : significand < 2 ^ 53) (highest : power ≤ highestPower) :
    settle negative significand power = .finite negative significand power := by
  have other : significand ≠ 1 <<< precision := below.ne
  simp only [settle, if_neg other, if_neg (Int.not_lt.2 highest)]

theorem settleFull {negative : Bool} (highest : power + 1 ≤ highestPower) :
    settle negative (2 ^ 53) power = .finite negative (2 ^ 52) (power + 1) := by
  have full : 2 ^ 53 = 1 <<< precision := rfl
  simp only [settle, if_pos full, if_neg (Int.not_lt.2 highest)]
  rfl

/- The size of a ratio that is counted in units of any power. -/
theorem sizedScaled {x : ℚ} {own : Int} (power : Int) : Sized x own ↔
    (2 : ℚ) ^ (52 + own - power) ≤ x / 2 ^ power ∧ x / 2 ^ power < 2 ^ (53 + own - power) := by
  have two : (2 : ℚ) ≠ 0 := by norm_num
  have unit : (0 : ℚ) < 2 ^ power := by positivity
  rw [Sized, zpow_sub₀ two, zpow_sub₀ two, div_le_div_iff_of_pos_right unit,
    div_lt_div_iff_of_pos_right unit]

theorem powerLowest (some : 0 < num) (pos : 0 < den)
    (small : (num / den : ℚ) / 2 ^ lowestPower < 2 ^ 52) : powerFor num den = lowestPower := by
  obtain ⟨own, powerIs, sized⟩ := powerSized some pos
  have below : (2 : ℚ) ^ (52 + own - lowestPower) < 2 ^ (52 : Int) :=
    ((sizedScaled lowestPower).1 sized).1.trans_lt (by exact_mod_cast small)
  have below := (zpow_lt_zpow_iff_right₀ (by norm_num)).1 below
  rw [powerIs]
  omega

theorem powerFull (some : 0 < num) (pos : 0 < den) (lowest : lowestPower ≤ power)
    (large : 2 ^ 52 ≤ (num / den : ℚ) / 2 ^ power) (small : (num / den : ℚ) / 2 ^ power < 2 ^ 53) :
    powerFor num den = power := by
  have sized : Sized (num / den) power := by
    rw [sizedScaled power, show 52 + power - power = (52 : ℕ) by omega,
      show 53 + power - power = (53 : ℕ) by omega, zpow_natCast, zpow_natCast]
    exact ⟨large, small⟩
  rw [powerAt some pos sized, max_eq_right lowest]

/- Just below 2 ^ 52 units of a power, a ratio is rounded at the power below, and the significand is
carried to 2 ^ 53. -/
theorem ofRatioCarried (negative : Bool) (some : 0 < num) (pos : 0 < den) (lowest : lowestPower < power)
    (highest : power ≤ highestPower) (small : (num / den : ℚ) / 2 ^ power < 2 ^ 52)
    (near : |(num / den : ℚ) / 2 ^ power - 2 ^ 52| < 1 / 4) :
    ofRatio negative num den = .finite negative (2 ^ 52) power := by
  have double : (num / den : ℚ) / 2 ^ (power - 1) = 2 * ((num / den : ℚ) / 2 ^ power) := by
    rw [zpow_sub_one₀ (by norm_num)]
    field_simp
  obtain ⟨left, right⟩ := abs_lt.1 near
  have at_ : powerFor num den = power - 1 := by
    apply powerFull some pos (by omega) <;> rw [double] <;> linarith
  have carry : |(num / den : ℚ) / 2 ^ (power - 1) - (2 ^ 53 : ℕ)| < 1 / 2 := by
    rw [double, abs_lt, Nat.cast_pow, Nat.cast_ofNat]
    constructor <;> linarith
  rw [ofRatioAt negative some pos at_ carry, settleFull (by omega), Int.sub_add_cancel]

/- A ratio that differs from a number of the format by less than one part in 2 ^ 54 is rounded to it. -/
theorem ofRatioNear (negative : Bool) (some : 0 < num) (pos : 0 < den) (fits : Fits significand power)
    (near : |(num / den : ℚ) - significand * 2 ^ power| * 2 ^ 54 < significand * 2 ^ power) :
    ofRatio negative num den = .finite negative significand power := by
  have unit : (0 : ℚ) < 2 ^ power := by positivity
  have most : (significand : ℚ) ≤ 2 ^ 53 - 1 := by
    have below : ((significand + 1 : ℕ) : ℚ) ≤ (2 ^ 53 : ℕ) := by exact_mod_cast fits.below
    push_cast at below
    linarith
  have close : |(num / den : ℚ) / 2 ^ power - significand| * 2 ^ 54 < significand := by
    rw [← mul_lt_mul_iff_left₀ unit, mul_right_comm, ← abs_of_pos unit, ← abs_mul, sub_mul,
      abs_of_pos unit, div_mul_cancel₀ _ unit.ne']
    exact near
  have half : |(num / den : ℚ) / 2 ^ power - significand| < 1 / 2 := by linarith
  obtain ⟨left, right⟩ := abs_lt.1 half
  rcases lt_or_ge ((num / den : ℚ) / 2 ^ power) (2 ^ 52) with small | large
  · rcases eq_or_ne power lowestPower with rfl | other
    · rw [ofRatioAt negative some pos (powerLowest some pos small) half,
        settleWithin fits.below fits.highest]
    · have atLeast : 2 ^ 52 ≤ significand := not_lt.1 (mt fits.full other)
      have carried : significand = 2 ^ 52 := by
        have above : (significand : ℚ) < 2 ^ 52 + 1 := by linarith
        have above : significand < 2 ^ 52 + 1 := by exact_mod_cast above
        omega
      rw [carried, Nat.cast_pow, Nat.cast_ofNat] at close
      rw [carried]
      exact ofRatioCarried negative some pos (lt_of_le_of_ne fits.lowest other.symm) fits.highest small
        (by linarith)
  · have at_ := powerFull some pos fits.lowest large (by linarith)
    rw [ofRatioAt negative some pos at_ half, settleWithin fits.below fits.highest]

theorem settleHuge {negative : Bool} (highest : highestPower < power) :
    settle negative significand power = .infinite negative := by
  have next : highestPower < power + 1 := by omega
  unfold settle
  split
  rename_i moved
  split at moved <;> cases moved
  · rw [if_pos next]
  · rw [if_pos highest]

/- Past the highest power stands infinity. -/
theorem ofRatioHuge (negative : Bool) (pos : 0 < den) (huge : (2 : ℚ) ^ 1024 ≤ num / den) :
    ofRatio negative num den = .infinite negative := by
  have some : 0 < num := numPositive pos (lt_of_lt_of_le (by positivity) huge)
  obtain ⟨power, powerIs, sized⟩ := powerSized some pos
  have above : (2 : ℚ) ^ (1024 : Int) < 2 ^ (53 + power) :=
    lt_of_le_of_lt (by exact_mod_cast huge) sized.2
  have above := (zpow_lt_zpow_iff_right₀ (by norm_num)).1 above
  have highest : highestPower < powerFor num den := by
    rw [powerIs]
    simp only [highestPower, lowestPower]
    omega
  rw [ofRatio, if_neg some.ne']
  exact settleHuge highest

theorem settleExceeds (filled : 0 < significand) :
    (settle false significand power).exceeds 0 = true := by
  have above {m : Nat} (filled : 0 < m) (e : Int) : (Binary64.finite false m e).exceeds 0 = true := by
    cases e with
    | ofNat up => simpa [exceeds, Nat.shiftLeft_eq] using filled
    | negSucc down => simpa [exceeds] using filled
  unfold settle
  split
  rename_i moved
  split at moved <;> cases moved <;> split
  · rfl
  · exact above (by decide) _
  · rfl
  · exact above filled _

theorem settleNegative (n : Nat) : (settle true significand power).exceeds n = false := by
  have below (m : Nat) (e : Int) : (Binary64.finite true m e).exceeds n = false := by cases e <;> rfl
  unfold settle
  split
  split
  · rfl
  · exact below _ _

/- What is at least one is not rounded to zero. -/
theorem ofRatioPositive (pos : 0 < den) (least : 1 ≤ (num / den : ℚ)) :
    (ofRatio false num den).exceeds 0 = true := by
  have some : 0 < num := numPositive pos (lt_of_lt_of_le one_pos least)
  obtain ⟨own, powerIs, sized⟩ := powerSized some pos
  have above : (2 : ℚ) ^ (0 : Int) < 2 ^ (53 + own) := by
    rw [zpow_zero]
    exact least.trans_lt sized.2
  have above := (zpow_lt_zpow_iff_right₀ (by norm_num)).1 above
  have at_ : powerFor num den = own := by
    rw [powerIs, lowestPower]
    omega
  have large : (2 : ℚ) ^ 52 ≤ (num / den : ℚ) / 2 ^ own := by
    have scaled := (sizedScaled own).1 sized
    rw [show 52 + own - own = (52 : ℕ) by omega, zpow_natCast] at scaled
    exact scaled.1
  have close := (abs_le.1 (nearestClose (scaled num den own).1 (scaledPositive num own pos))).2
  rw [scaledValue] at close
  have filled : (0 : ℚ) < nearest (scaled num den own).1 (scaled num den own).2 := by linarith
  rw [ofRatio, if_neg some.ne']
  simp only [at_]
  exact settleExceeds (by exact_mod_cast filled)

theorem ofRatioNegative (num den n : Nat) : (ofRatio true num den).exceeds n = false := by
  unfold ofRatio
  split
  · rfl
  · exact settleNegative n

end PolicySearch.Number.Binary64
