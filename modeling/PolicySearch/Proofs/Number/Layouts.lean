import PolicySearch.Number.Numeral
import PolicySearch.Proofs.Number.Figures
import PolicySearch.Proofs.Number.Decimals
/-! Laid out digits as a numeral. With a point among them, zeros around them or an exponent after them,
they are read as a decimal of one value. -/
namespace PolicySearch.Number
open Text Binary64

variable {digits whole fraction tail : List Char}

theorem spanDigits (all : ∀ c ∈ digits, isDigit c = true) (ends : startsWithDigit tail = false) :
    (digits ++ tail).takeWhile isDigit = digits ∧ (digits ++ tail).dropWhile isDigit = tail := by
  rw [List.takeWhile_append_of_pos all, List.dropWhile_append_of_pos all]
  cases tail with
  | nil => exact ⟨List.append_nil _, rfl⟩
  | cons c rest =>
    have other : isDigit c = false := ends
    simp [other]

theorem wholeNumberDigits (filled : digits ≠ []) (all : ∀ c ∈ digits, isDigit c = true) :
    wholeNumber digits = some (valueOf digits) := by
  have none : digits.any (!isDigit ·) = false := by
    rw [List.any_eq_false]
    intro c inside
    rw [all c inside]
    exact Bool.false_ne_true
  rw [wholeNumber, none, List.isEmpty_eq_false_iff.2 filled]
  rfl

theorem exponentRead (exponent : Int) : exponentOf ('e' :: exponentText exponent) = some exponent := by
  have padded : ∃ digits, (if (digitsOf exponent.natAbs).length < 2 then '0' :: digitsOf exponent.natAbs
      else digitsOf exponent.natAbs) = digits ∧ wholeNumber digits = some exponent.natAbs := by
    refine ⟨_, rfl, ?_⟩
    split
    · rw [wholeNumberDigits (List.cons_ne_nil _ _) fun c inside => ?_, ← List.singleton_append,
        ← List.replicate_one, valueOfLeading, valueOfDigits]
      rcases List.mem_cons.1 inside with rfl | inside
      · rfl
      · exact digitsOfDigits inside
    · have filled : digitsOf exponent.natAbs ≠ [] := Nat.toDigits_ne_nil
      rw [wholeNumberDigits filled fun _ => digitsOfDigits, valueOfDigits]
  obtain ⟨digits, same, read⟩ := padded
  rw [exponentText]
  simp only [same]
  by_cases below : exponent < 0
  · rw [if_pos below, exponentOf, if_pos (.inl rfl)]
    simp only [signed, read, Option.map_some, withSign, if_true]
    congr 1
    omega
  · rw [if_neg below, exponentOf, if_pos (.inl rfl)]
    simp only [signed, read, Option.map_some, withSign, Bool.false_eq_true, if_false]
    congr 1
    omega

/- Digits with a point among them. -/
theorem pointedRead {exponent : Int} (whole fraction tail : List Char) (filled : whole ≠ [])
    (all : ∀ c ∈ whole ++ fraction, isDigit c = true) (ends : startsWithDigit tail = false) (read : exponentOf tail = some exponent) :
    decimalOf (whole ++ '.' :: (fraction ++ tail)) =
      some (valueOf (whole ++ fraction), exponent - fraction.length) := by
  have ahead : startsWithDigit ('.' :: (fraction ++ tail)) = false := rfl
  have front := spanDigits (fun c inside => all c (List.mem_append_left _ inside)) ahead
  have back := spanDigits (fun c inside => all c (List.mem_append_right _ inside)) ends
  unfold decimalOf
  simp only [front, pointAndDigits, back, List.isEmpty_eq_false_iff.2 filled, Bool.false_and, read,
    Option.map_some, Bool.false_eq_true, if_false]

/- Digits without a point. -/
theorem wholeRead {exponent : Int} (tail : List Char) (filled : digits ≠ [])
    (all : ∀ c ∈ digits, isDigit c = true) (ends : startsWithDigit tail = false) (pointless : tail.head? ≠ some '.')
    (read : exponentOf tail = some exponent) :
    decimalOf (digits ++ tail) = some (valueOf digits, exponent) := by
  have front := spanDigits all ends
  have rest : pointAndDigits tail = ([], tail) := by
    unfold pointAndDigits
    split
    · exact absurd rfl pointless
    · rfl
  unfold decimalOf
  simp only [front, rest, List.isEmpty_eq_false_iff.2 filled, Bool.false_and, read, List.append_nil,
    Option.map_some, Bool.false_eq_true, if_false, List.length_nil, Nat.cast_zero, Int.sub_zero]

theorem zerosDigits (all : ∀ c ∈ digits, isDigit c = true) (k : Nat) :
    ∀ c ∈ List.replicate k '0' ++ digits, isDigit c = true := by
  intro c inside
  rcases List.mem_append.1 inside with zero | inside
  · rw [List.eq_of_mem_replicate zero]
    rfl
  · exact all c inside

/- The decimal that is read: the digits as they stand, perhaps with zeros after them. -/
def Reads (digits : List Char) (point : Int) (s : List Char) : Prop :=
  ∃ zeros : Nat, decimalOf s = some (valueOf digits * 10 ^ zeros, point - digits.length - zeros)

variable {point : Int}

theorem smallRead (all : ∀ c ∈ digits, isDigit c = true) (small : point ≤ 0) :
    Reads digits point ('0' :: '.' :: List.replicate (-point).toNat '0' ++ digits) := by
  have spelled : ∀ c ∈ ['0'] ++ (List.replicate (-point).toNat '0' ++ digits), isDigit c = true :=
    zerosDigits all ((-point).toNat + 1)
  have laid : '0' :: '.' :: List.replicate (-point).toNat '0' ++ digits =
      ['0'] ++ '.' :: (List.replicate (-point).toNat '0' ++ digits ++ []) := by simp
  have value : valueOf (['0'] ++ (List.replicate (-point).toNat '0' ++ digits)) = valueOf digits :=
    valueOfLeading ((-point).toNat + 1) digits
  refine ⟨0, ?_⟩
  rw [laid, pointedRead _ _ _ (List.cons_ne_nil _ _) spelled rfl rfl, value, List.length_append,
    List.length_replicate]
  simp only [Nat.pow_zero, Nat.mul_one, Option.some.injEq, Prod.mk.injEq, true_and]
  omega

theorem evenRead (filled : digits ≠ []) (all : ∀ c ∈ digits, isDigit c = true)
    (even : digits.length ≤ point.toNat) :
    Reads digits point (digits ++ List.replicate (point.toNat - digits.length) '0' ++ ['.', '0']) := by
  generalize zerosAre : point.toNat - digits.length = zeros
  have laid : digits ++ List.replicate zeros '0' ++ ['0'] =
      digits ++ List.replicate (zeros + 1) '0' := by
    rw [List.replicate_succ', List.append_assoc]
  have spelled : ∀ c ∈ digits ++ List.replicate zeros '0' ++ ['0'], isDigit c = true := by
    intro c inside
    rw [laid] at inside
    rcases List.mem_append.1 inside with inside | zero
    · exact all c inside
    · rw [List.eq_of_mem_replicate zero]
      rfl
  have read := pointedRead _ ['0'] [] (List.append_ne_nil_of_left_ne_nil filled _) spelled rfl rfl
  have count : 0 < digits.length := List.length_pos_iff.2 filled
  refine ⟨zeros + 1, read.trans ?_⟩
  rw [laid, valueOfZeros]
  simp only [Option.some.injEq, Prod.mk.injEq, true_and, List.length_singleton]
  omega

theorem splitRead (filled : digits ≠ []) (all : ∀ c ∈ digits, isDigit c = true) (positive : 0 < point)
    (split : point.toNat < digits.length) :
    Reads digits point (digits.take point.toNat ++ '.' :: digits.drop point.toNat) := by
  have some : digits.take point.toNat ≠ [] := by
    rw [ne_eq, List.take_eq_nil_iff, not_or]
    exact ⟨by omega, filled⟩
  have spelled : ∀ c ∈ digits.take point.toNat ++ digits.drop point.toNat, isDigit c = true := by
    rwa [List.take_append_drop]
  have read := pointedRead _ _ [] some spelled rfl rfl
  rw [List.append_nil, List.take_append_drop, List.length_drop] at read
  refine ⟨0, read.trans ?_⟩
  simp only [Nat.pow_zero, Nat.mul_one, Option.some.injEq, Prod.mk.injEq, true_and]
  omega

theorem exponentialRead (filled : digits ≠ []) (all : ∀ c ∈ digits, isDigit c = true) :
    Reads digits point (digits.take 1 ++
      (if (digits.drop 1).isEmpty then [] else '.' :: digits.drop 1) ++
        'e' :: exponentText (point - 1)) := by
  have tail := exponentRead (point - 1)
  refine ⟨0, ?_⟩
  rw [Nat.pow_zero, Nat.mul_one, Nat.cast_zero, Int.sub_zero]
  match digits with
  | [] => exact absurd rfl filled
  | [d] =>
    have pointless : ('e' :: exponentText (point - 1)).head? ≠ some '.' := by simp
    exact wholeRead _ filled all rfl pointless tail
  | d :: e :: rest =>
    have read := pointedRead [d] (e :: rest) _ (List.cons_ne_nil _ _) all rfl tail
    refine read.trans ?_
    simp only [List.singleton_append, Option.some.injEq, Prod.mk.injEq, true_and, List.length_cons]
    omega

theorem layOutRead (filled : digits ≠ []) (all : ∀ c ∈ digits, isDigit c = true) (point : Int) :
    Reads digits point (layOut digits point) := by
  unfold layOut
  split
  · split
    · rename_i small
      exact smallRead all small
    · rename_i positive
      split
      · rename_i even
        exact evenRead filled all even
      · rename_i split
        exact splitRead filled all (Int.not_le.1 positive) (Nat.not_le.1 split)
  · exact exponentialRead filled all

theorem layOutStarts (filled : digits ≠ []) (all : ∀ c ∈ digits, isDigit c = true) (point : Int) :
    startsWithDigit (layOut digits point) = true := by
  cases digits with
  | nil => exact absurd rfl filled
  | cons c rest =>
    have first : isDigit c = true := all c List.mem_cons_self
    unfold layOut
    split
    · split
      · rfl
      · rename_i positive
        split
        · exact first
        · rw [show point.toNat = (point.toNat - 1) + 1 by omega, List.take_succ_cons]
          exact first
    · exact first

end PolicySearch.Number
