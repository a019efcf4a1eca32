import PolicySearch.Number.Binary64
/-! The shortest decimal text of a binary64 number: the fewest digits that read back as the
number, of those the nearest, and of two as near the one whose last digit is even. The text is positional for a leading digit from the fourth
place after the point to the sixteenth before it, and has an exponent of two digits or more
outside. A whole number keeps one zero after the point. -/
namespace PolicySearch.Number

namespace Binary64

def ratio (significand : Nat) (power : Int) : Nat × Nat :=
  match power with
  | .ofNat up => (significand <<< up, 1)
  | .negSucc down => (significand, 1 <<< (down + 1))

/-- The least `k` with `num / den < 10 ^ k`. -/
def decimalPoint (num den : Nat) : Int :=
  if den ≤ num then digitCount (num / den) else 1 - (digitCount ((den - 1) / num) : Int)

/-- The whole numbers of units of `10 ^ unit` on both sides of the ratio, the nearer one first. -/
def neighbours (num den : Nat) (unit : Int) : List Nat :=
  let (n, d) := match unit with
    | .ofNat up => (num, den * tenTo up)
    | .negSucc down => (num * tenTo (down + 1), den)
  let low := n / d
  if nearest n d = low then [low, low + 1] else [low + 1, low]

def readsBack (significand : Nat) (power : Int) (digits : Nat) (unit : Int) : Bool :=
  ofDecimal false digits unit == .finite false significand power

def gridPoint (significand : Nat) (power unit : Int) : Option (Nat × Int) :=
  let (num, den) := ratio significand power
  ((neighbours num den unit).find? (readsBack significand power · unit)).map (·, unit)

def shortest (significand : Nat) (power : Int) : Nat × Int :=
  let (num, den) := ratio significand power
  let point := decimalPoint num den
  let grids := (List.range 17).map fun n => point - (n + 1 : Nat)
  (grids.findSome? (gridPoint significand power)).getD (0, 0)

def exponentText (exponent : Int) : List Char :=
  let digits := digitsOf exponent.natAbs
  (if exponent < 0 then '-' else '+') :: (if digits.length < 2 then '0' :: digits else digits)

def layOut (digits : List Char) (point : Int) : List Char :=
  if -4 < point ∧ point ≤ 16 then
    if point ≤ 0 then '0' :: '.' :: List.replicate (-point).toNat '0' ++ digits
    else if digits.length ≤ point.toNat then
      digits ++ List.replicate (point.toNat - digits.length) '0' ++ ['.', '0']
    else digits.take point.toNat ++ '.' :: digits.drop point.toNat
  else
    let fraction := digits.drop 1
    digits.take 1 ++ (if fraction.isEmpty then [] else '.' :: fraction) ++
      'e' :: exponentText (point - 1)

def magnitudeText (significand : Nat) (power : Int) : List Char :=
  if significand = 0 then ['0', '.', '0']
  else
    let (digits, unit) := shortest significand power
    let point := unit + digitCount digits
    layOut (((digitsOf digits).reverse.dropWhile (· == '0')).reverse) point

def signText (negative : Bool) : String := if negative then "-" else ""

def text : Binary64 → String
  | .nan => "nan"
  | .infinite negative => signText negative ++ "inf"
  | .finite negative significand power =>
    signText negative ++ String.ofList (magnitudeText significand power)

theorem gridPointReadsBack {significand : Nat} {power unit : Int} {found : Nat × Int}
    (h : gridPoint significand power unit = some found) :
    ofDecimal false found.1 found.2 = .finite false significand power := by
  obtain ⟨digits, at_, rfl⟩ := Option.map_eq_some_iff.1 h
  simpa [readsBack] using List.find?_some at_

end Binary64

end PolicySearch.Number
