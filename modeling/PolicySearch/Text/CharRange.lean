/-! Sets of characters as ranges of code points, both ends included. -/
namespace PolicySearch.Text

abbrev CharRange := Nat × Nat

namespace CharRange

def holds (r : CharRange) (c : Char) : Bool := r.1 ≤ c.toNat && c.toNat ≤ r.2

def covers (ranges : List CharRange) (c : Char) : Bool := ranges.any (holds · c)

theorem coversIff {ranges : List CharRange} {c : Char} :
    covers ranges c = true ↔ ∃ r ∈ ranges, r.1 ≤ c.toNat ∧ c.toNat ≤ r.2 := by
  simp [covers, holds]

end CharRange

end PolicySearch.Text
