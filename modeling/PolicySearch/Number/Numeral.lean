import PolicySearch.Number.Binary64
import PolicySearch.Text.Blank
import PolicySearch.Text.Digit
/-! Numbers as people write them in a setting: spaces around, a sign, digits of any script with
single low lines between them, a point with digits on at least one side, an exponent, and the
words for infinity and for no number in any case. -/
namespace PolicySearch.Number
open Text

def plainForm (c : Char) : Option Char :=
  if c.toNat < 127 then some c
  else if isBlank c then some ' '
  else (digitValue c).map fun value => Char.ofNat ('0'.toNat + value)

/-- Spaces that may stand around a numeral; the information separators may not. -/
def isMargin (c : Char) : Bool := c == ' ' || (9 ≤ c.toNat && c.toNat ≤ 13)

def startsWithDigit (s : List Char) : Bool := s.head?.any isDigit

/-- The text without low lines, each of which has a digit on both sides. -/
def ungroup (afterDigit : Bool) : List Char → Option (List Char)
  | [] => some []
  | c :: rest =>
    if c = '_' then
      if afterDigit && startsWithDigit rest then ungroup false rest else none
    else (ungroup (isDigit c) rest).map (c :: ·)

def wholeNumber (s : List Char) : Option Nat :=
  if s.isEmpty || s.any (!isDigit ·) then none else some (valueOf s)

def exponentOf : List Char → Option Int
  | [] => some 0
  | c :: rest =>
    if c = 'e' ∨ c = 'E' then
      let (negative, digits) := signed rest
      (wholeNumber digits).map (withSign negative)
    else none

def pointAndDigits : List Char → List Char × List Char
  | '.' :: rest => (rest.takeWhile isDigit, rest.dropWhile isDigit)
  | rest => ([], rest)

def decimalOf (s : List Char) : Option (Nat × Int) :=
  let whole := s.takeWhile isDigit
  let (fraction, rest) := pointAndDigits (s.dropWhile isDigit)
  if whole.isEmpty && fraction.isEmpty then none
  else (exponentOf rest).map fun e => (valueOf (whole ++ fraction), e - fraction.length)

def magnitudeOf (negative : Bool) (s : List Char) : Option Binary64 :=
  let word := String.ofList (s.map Char.toLower)
  if word = "inf" ∨ word = "infinity" then some (.infinite negative)
  else if word = "nan" then some .nan
  else (decimalOf s).map fun (digits, exponent) => .ofDecimal negative digits exponent

def Binary64.ofNumeral (s : String) : Option Binary64 := do
  let plain ← s.toList.mapM plainForm
  let digits ← ungroup false (trim isMargin plain)
  let (negative, magnitude) := signed digits
  magnitudeOf negative magnitude

theorem ungroupPlain {s : List Char} (afterDigit : Bool) (absent : '_' ∉ s) :
    ungroup afterDigit s = some s := by
  induction s generalizing afterDigit with
  | nil => rfl
  | cons c rest ih =>
    have other : c ≠ '_' := fun same => absent (same ▸ List.mem_cons_self)
    simp [ungroup, other, ih _ fun inside => absent (List.mem_cons_of_mem _ inside)]

end PolicySearch.Number
