import PolicySearch.Number.Decimal
/-! Numbers of the binary64 format, as sign, significand and power of two. A significand is below
2 ^ 53, and below 2 ^ 52 only at the lowest power. Ratios and decimals are rounded to the nearest
number of the format, and a tie goes to the even significand. -/
namespace PolicySearch.Number

inductive Binary64 where
  | nan
  | infinite (negative : Bool)
  | finite (negative : Bool) (significand : Nat) (power : Int)
  deriving DecidableEq, Repr

namespace Binary64

def precision : Nat := 53
def lowestPower : Int := -1074
def highestPower : Int := 971

def scaled (num den : Nat) (power : Int) : Nat × Nat :=
  match power with
  | .ofNat up => (num, den <<< up)
  | .negSucc down => (num <<< (down + 1), den)

/-- The power at which a positive ratio has a significand of 53 bits, if the format has it. -/
def powerFor (num den : Nat) : Int :=
  let low : Int := (Nat.log2 num : Int) - (Nat.log2 den : Int) - 53
  let (n, d) := scaled num den low
  max lowestPower (if n / d < 1 <<< precision then low else low + 1)

def nearest (num den : Nat) : Nat :=
  let q := num / den
  let twice := 2 * (num % den)
  if twice < den ∨ (twice = den ∧ q % 2 = 0) then q else q + 1

/-- A significand that rounding carried to 2 ^ 53 moves to the next power; past the highest power
stands infinity. -/
def settle (negative : Bool) (significand : Nat) (power : Int) : Binary64 :=
  let (m, e) := if significand = 1 <<< precision then (1 <<< (precision - 1), power + 1) else (significand, power)
  if highestPower < e then .infinite negative else .finite negative m e

def ofRatio (negative : Bool) (num den : Nat) : Binary64 :=
  if num = 0 then .finite negative 0 lowestPower
  else
    let power := powerFor num den
    let (n, d) := scaled num den power
    settle negative (nearest n d) power

/-- `digits * 10 ^ exponent`. What lies far outside the format is not computed out. -/
def ofDecimal (negative : Bool) (digits : Nat) (exponent : Int) : Binary64 :=
  let size : Int := exponent + digitCount digits
  if digits = 0 ∨ size < -330 then .finite negative 0 lowestPower
  else if 310 < size then .infinite negative
  else match exponent with
    | .ofNat up => ofRatio negative (digits * tenTo up) 1
    | .negSucc down => ofRatio negative digits (tenTo (down + 1))

def exceeds (n : Nat) : Binary64 → Bool
  | .nan => false
  | .infinite negative => !negative
  | .finite negative significand (.ofNat up) => !negative && n < significand <<< up
  | .finite negative significand (.negSucc down) => !negative && n <<< (down + 1) < significand

/-- Neither this nor the contrary holds of a NaN. -/
def atMost (n : Nat) : Binary64 → Bool
  | .nan => false
  | x => !x.exceeds n

def equals (n : Nat) : Binary64 → Bool
  | .finite negative significand (.ofNat up) =>
    (!negative || significand == 0) && significand <<< up == n
  | .finite negative significand (.negSucc down) =>
    (!negative || significand == 0) && significand == n <<< (down + 1)
  | .nan | .infinite _ => false

def isZero : Binary64 → Bool
  | .finite _ significand _ => significand == 0
  | _ => false

theorem nearestAtMost (num den : Nat) : nearest num den ≤ num / den + 1 := by
  simp only [nearest]; split <;> omega

theorem nearestAtLeast (num den : Nat) : num / den ≤ nearest num den := by
  simp only [nearest]; split <;> omega

example : ofDecimal false 1 0 = .finite false (1 <<< 52) (-52) := by decide
example : ofDecimal true 5 (-324) = .finite true 1 lowestPower := by decide +kernel
example : ofDecimal false 1 400 = .infinite false := by decide +kernel

end Binary64

end PolicySearch.Number
