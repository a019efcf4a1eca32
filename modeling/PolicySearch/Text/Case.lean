import PolicySearch.Text.CaseTable
/-! Small and capital forms of a text, for all scripts. A capital sigma becomes the final form
where a word ends: after a cased letter, and before none, marks passed over on both sides. The
dotted capital I keeps its dot as a mark, and some capitals are several letters long. -/
namespace PolicySearch.Text

def isCased (c : Char) : Bool := CharRange.covers casedRanges c

def isPassedOver (c : Char) : Bool := CharRange.covers passedOverRanges c

def meetsCased (side : List Char) : Bool := (side.dropWhile isPassedOver).head?.any isCased

/-- A word ends between `before`, nearest character first, and `after`. -/
def wordEnds (before after : List Char) : Bool := meetsCased before && !meetsCased after

def smallLetter (c : Char) : List Char :=
  if c = 'İ' then ['i', '\u0307'] else [Char.ofNat (shiftCase smallRuns c.toNat)]

def smallSigma (before after : List Char) : Char := if wordEnds before after then 'ς' else 'σ'

/-- The small form of a text that stands after `before`, nearest character first. -/
def lowerAfter (before : List Char) : List Char → List Char
  | [] => []
  | c :: rest =>
    (if c = 'Σ' then [smallSigma before rest] else smallLetter c) ++ lowerAfter (c :: before) rest

def lower (s : List Char) : List Char := lowerAfter [] s

def lowered (s : String) : String := String.ofList (lower s.toList)

def capitalLetters (c : Char) : List Char :=
  match longCapitals.lookup c.toNat with
  | some codes => codes.map Char.ofNat
  | none => [Char.ofNat (shiftCase capitalRuns c.toNat)]

def upper (s : List Char) : List Char := s.flatMap capitalLetters

def uppered (s : String) : String := String.ofList (upper s.toList)

theorem smallLetterFilled (c : Char) : smallLetter c ≠ [] := by
  unfold smallLetter; split <;> simp

theorem lowerAfterEmpty {before s : List Char} : lowerAfter before s = [] ↔ s = [] := by
  cases s with
  | nil => simp [lowerAfter]
  | cons c rest =>
    simp only [lowerAfter, List.append_eq_nil_iff, reduceCtorEq, iff_false, not_and]
    intro empty
    split at empty
    · simp at empty
    · exact absurd empty (smallLetterFilled c)

theorem lowerEmpty {s : List Char} : lower s = [] ↔ s = [] := lowerAfterEmpty

end PolicySearch.Text
