import PolicySearch.Json.Basic
import PolicySearch.Number.Shortest
/-! A number as it was given: whole or not, or a truth value, which counts as one or zero. -/
namespace PolicySearch
open Number

inductive Amount where
  | truth (b : Bool)
  | whole (n : Int)
  | real (x : Binary64)
  deriving DecidableEq, Repr

def Json.amount? : Json → Option Amount
  | .bool b => some (.truth b)
  | .int n => some (.whole n)
  | .float x => some (.real x)
  | _ => none

namespace Amount

/-- Zero or less. -/
def spent : Amount → Bool
  | truth b => !b
  | whole n => n ≤ 0
  | real x => x.atMost 0

/-- A whole number that no finite binary64 is near to. -/
def boundless : Amount → Bool
  | whole n => Binary64.ofRatio false n.toNat 1 = .infinite false
  | truth _ | real _ => false

def text : Amount → String
  | truth b => if b then "True" else "False"
  | whole n => intText n
  | real x => x.text

/-- The nearest whole number from `low` to `high`; none for what lies between them and was not
given as a whole number. -/
def within (low high : Nat) : Amount → Option Nat
  | truth b => some (max low (min b.toNat high))
  | whole n => some (max low (min n.toNat high))
  | real x => if x.exceeds high then some high else if x.exceeds low then none else some low

/-- The same from zero on, with no upper end. -/
def fromZero : Amount → Option Nat
  | truth b => some b.toNat
  | whole n => some n.toNat
  | real x => if x.exceeds 0 then none else some 0

example : boundless (.whole (2 ^ 1024 - 2 ^ 970)) = true := by decide +kernel
example : boundless (.whole (2 ^ 1024 - 2 ^ 970 - 1)) = false := by decide +kernel

end Amount

end PolicySearch
