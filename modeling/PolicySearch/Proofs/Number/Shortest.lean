import Mathlib.Data.Nat.Cast.Order.Field
import PolicySearch.Number.Shortest
import PolicySearch.Proofs.Number.Decimals
/-! The shortest decimal of a number of the format reads back as it. The search looks at grids of one to
seventeen digits and takes only what reads back; and of seventeen digits the nearest grid point is so
close that it does. -/
namespace PolicySearch.Number.Binary64

variable {num den significand n : Nat} {negative : Bool} {power unit : Int}

theorem ratioValue (significand : Nat) (power : Int) : 0 < (ratio significand power).2 ∧
    ((ratio significand power).1 / (ratio significand power).2 : ℚ) = significand * 2 ^ power := by
  cases power with
  | ofNat up => simp [ratio, Nat.shiftLeft_eq]
  | negSucc down => simp [ratio, Nat.shiftLeft_eq, div_eq_mul_inv]

theorem decimalPointBelow (some : 0 < num) (pos : 0 < den) :
    (10 : ℚ) ^ (decimalPoint num den - 1) ≤ num / den := by
  have denPos : (0 : ℚ) < den := by exact_mod_cast pos
  unfold decimalPoint
  split
  · rename_i large
    have least := (digitCountSize (Nat.div_pos large pos)).1
    exact least.trans Nat.cast_div_le
  · have most : (den - 1) / num < 10 ^ digitCount ((den - 1) / num) :=
      (Nat.length_toDigits_le_iff (by decide) (digitCountPositive _)).1 le_rfl
    have most : den ≤ 10 ^ digitCount ((den - 1) / num) * num := by
      have below := (Nat.div_lt_iff_lt_mul some).1 most
      omega
    rw [sub_sub_cancel_left, zpow_neg, zpow_natCast, inv_le_iff_one_le_mul₀ (by positivity),
      div_mul_eq_mul_div, one_le_div denPos, mul_comm]
    exact_mod_cast most

theorem nearestEither (num den : Nat) : nearest num den ∈
    if nearest num den = num / den then [num / den, num / den + 1] else [num / den + 1, num / den] := by
  have below := nearestAtLeast num den
  have above := nearestAtMost num den
  split <;> rename_i low
  · rw [low]
    exact List.mem_cons_self
  · rw [show nearest num den = num / den + 1 by omega]
    exact List.mem_cons_self

/- The nearest whole number of units is looked at. -/
theorem neighbourClose (num : Nat) (pos : 0 < den) (unit : Int) :
    ∃ n ∈ neighbours num den unit, |(num / den : ℚ) / 10 ^ unit - n| ≤ 1 / 2 := by
  have ten (k : Nat) : (tenTo k : ℚ) = 10 ^ k := by exact_mod_cast rfl
  have positive (k : Nat) : 0 < tenTo k := Nat.pow_pos (by decide)
  unfold neighbours
  cases unit with
  | ofNat up =>
    have close := nearestClose num (Nat.mul_pos pos (positive up))
    refine ⟨_, nearestEither num (den * tenTo up), ?_⟩
    rwa [Nat.cast_mul, ten, ← div_div] at close
  | negSucc down =>
    have close := nearestClose (num * tenTo (down + 1)) pos
    refine ⟨_, nearestEither (num * tenTo (down + 1)) den, ?_⟩
    rwa [Nat.cast_mul, ten, mul_div_right_comm, ← div_inv_eq_mul, ← zpow_negSucc] at close

/- On a grid of at least 2 ^ 53 points below the number there is one that reads back. -/
theorem gridPointFound (filled : 0 < significand) (fits : Fits significand power)
    (fine : (10 : ℚ) ^ unit * 10 ^ 16 ≤ significand * 2 ^ power) :
    (gridPoint significand power unit).isSome = true := by
  have step : (0 : ℚ) < 10 ^ unit := by positivity
  obtain ⟨pos, value⟩ := ratioValue significand power
  obtain ⟨n, looked, close⟩ := neighbourClose (ratio significand power).1 pos unit
  have near : |(n * 10 ^ unit : ℚ) - significand * 2 ^ power| ≤ 10 ^ unit / 2 := by
    have scaled := mul_le_mul_of_nonneg_right close step.le
    rw [value, ← abs_of_pos step, ← abs_mul, sub_mul, abs_of_pos step, div_mul_cancel₀ _ step.ne',
      abs_sub_comm] at scaled
    linarith
  have back : ofDecimal false n unit = .finite false significand power :=
    ofDecimalNear false filled fits (by linarith)
  have reads : readsBack significand power n unit = true := by
    rw [readsBack, back, beq_self_eq_true]
  rw [gridPoint, Option.isSome_map, List.find?_isSome]
  exact ⟨n, looked, reads⟩

theorem settleSigned {significand' : Nat} {power' : Int}
    (plain : settle false significand' power' = .finite false significand power) :
    settle negative significand' power' = .finite negative significand power := by
  simp only [settle] at plain ⊢
  generalize (if significand' = 1 <<< precision then (1 <<< (precision - 1), power' + 1)
    else (significand', power')) = moved at plain ⊢
  split at plain <;> rename_i high
  · cases plain
  · cases plain
    rw [if_neg high]

theorem ofRatioSigned (plain : ofRatio false num den = .finite false significand power) :
    ofRatio negative num den = .finite negative significand power := by
  unfold ofRatio at plain ⊢
  split at plain <;> rename_i none
  · cases plain
    rw [if_pos none]
  · rw [if_neg none]
    exact settleSigned plain

theorem ofDecimalSigned (plain : ofDecimal false n unit = .finite false significand power) :
    ofDecimal negative n unit = .finite negative significand power := by
  by_cases small : n = 0 ∨ unit + digitCount n < -330
  · rw [ofDecimalSmall false small] at plain
    cases plain
    exact ofDecimalSmall negative small
  · have pos : 0 < n := by omega
    by_cases large : 310 < unit + digitCount n
    · rw [ofDecimalLarge false pos large] at plain
      cases plain
    · obtain ⟨num, den, _, _, _, rounded⟩ := ofDecimalRatio pos (by omega) (Int.not_lt.1 large)
      rw [rounded] at plain ⊢
      exact ofRatioSigned plain

/- The grid of seventeen digits has a point that reads back, if none before it has. -/
theorem searchFinds (filled : 0 < significand) (fits : Fits significand power) :
    ∃ unit, gridPoint significand power unit = some (shortest significand power) := by
  obtain ⟨pos, value⟩ := ratioValue significand power
  have shortestIs : shortest significand power = (((List.range 17).map fun n =>
      decimalPoint (ratio significand power).1 (ratio significand power).2 - (n + 1 : ℕ)).findSome?
        (gridPoint significand power)).getD (0, 0) := rfl
  generalize pointIs : decimalPoint (ratio significand power).1 (ratio significand power).2 = point
    at shortestIs
  have below : (10 : ℚ) ^ (point - 1) ≤ significand * 2 ^ power := by
    have some : 0 < (ratio significand power).1 := numPositive pos (by rw [value]; positivity)
    rw [← pointIs, ← value]
    exact decimalPointBelow some pos
  have fine : (10 : ℚ) ^ (point - (16 + 1 : ℕ)) * 10 ^ 16 ≤ significand * 2 ^ power := by
    refine le_trans (le_of_eq ?_) below
    rw [← zpow_natCast, ← zpow_add₀ (by norm_num)]
    congr 1
    omega
  cases searched : ((List.range 17).map fun n => point - (n + 1 : ℕ)).findSome?
      (gridPoint significand power) with
  | none =>
    have missed := List.findSome?_eq_none_iff.1 searched _
      (List.mem_map_of_mem (List.mem_range.2 (by decide : 16 < 17)))
    have found := gridPointFound filled fits fine
    rw [missed] at found
    cases found
  | some found =>
    obtain ⟨unit, _, at_⟩ := List.exists_of_findSome?_eq_some searched
    refine ⟨unit, ?_⟩
    rw [at_, shortestIs, searched, Option.getD_some]

theorem shortestReadsBack (negative : Bool) (filled : 0 < significand) (fits : Fits significand power) :
    ofDecimal negative (shortest significand power).1 (shortest significand power).2 =
      .finite negative significand power := by
  obtain ⟨unit, found⟩ := searchFinds filled fits
  exact ofDecimalSigned (gridPointReadsBack found)

end PolicySearch.Number.Binary64
