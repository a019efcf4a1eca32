import PolicySearch.Number.Decimal
import PolicySearch.Text.Hex
/-! Texts as they come in. Besides characters they may hold halves of a pair that stand alone. A half
is read as the replacement character, but it cannot be written: only a text of characters alone is
written, as it is. -/
namespace PolicySearch.Text
open Number

inductive Point where
  | char (c : Char)
  /-- A half by its place among all the halves. -/
  | half (n : Fin 0x800)
  deriving DecidableEq, Repr

namespace Point

def isHalf : Point → Bool
  | char _ => false
  | half _ => true

def shown : Point → Char
  | char c => c
  | half _ => '\ufffd'

end Point

abbrev Points := List Point

/-- The first halves of a text: what is before them, the first one, and how many more stand right
behind it. -/
structure Halves where
  position : Nat
  first : Fin 0x800
  more : Nat
  deriving DecidableEq, Repr

def Halves.message (h : Halves) : String :=
  let place := natText h.position
  (if h.more = 0 then
    "'utf-8' codec can't encode character '\\u" ++ String.ofList (hex 4 (0xd800 + h.first)) ++
      "' in position " ++ place
  else
    "'utf-8' codec can't encode characters in position " ++ place ++ "-" ++
      natText (h.position + h.more)) ++ ": surrogates not allowed"

namespace Points

def ofString (s : String) : Points := s.toList.map .char

instance : Coe String Points := ⟨ofString⟩

def Whole (text : Points) : Prop := ∃ s : String, text = s

def shown (text : Points) : String := String.ofList (text.map Point.shown)

def halvesFrom (position : Nat) : Points → Option Halves
  | [] => none
  | .char _ :: rest => halvesFrom (position + 1) rest
  | .half n :: rest => some ⟨position, n, (rest.takeWhile Point.isHalf).length⟩

def written (text : Points) : Except Halves String :=
  match halvesFrom 0 text with
  | none => .ok text.shown
  | some halves => .error halves

theorem shownOfString (s : String) : (ofString s).shown = s := by
  simp [ofString, shown, Point.shown, Function.comp_def]

theorem stringWhole (s : String) : Whole s := ⟨s, rfl⟩

theorem halvesNone {text : Points} (position : Nat) :
    halvesFrom position text = none ↔ text = ofString text.shown := by
  induction text generalizing position with
  | nil => exact ⟨fun _ => rfl, fun _ => rfl⟩
  | cons point rest ih =>
    have both : ofString (shown (point :: rest)) = .char point.shown :: ofString (shown rest) := by
      simp [ofString, shown]
    rw [both, List.cons.injEq]
    cases point with
    | half n => exact ⟨nofun, fun same => nomatch same.1⟩
    | char c =>
      rw [halvesFrom, ih]
      exact ⟨fun tail => ⟨rfl, tail⟩, And.right⟩

theorem writtenString (s : String) : written s = .ok s := by
  have none : halvesFrom 0 (ofString s) = none := (halvesNone 0).2 (by rw [shownOfString])
  rw [written, none, shownOfString]

/- What has halves cannot be written. -/
theorem unwritten {text : Points} (halved : ¬ text.Whole) : ∃ halves, text.written = .error halves := by
  unfold written
  cases found : halvesFrom 0 text with
  | none => exact absurd ⟨_, (halvesNone 0).1 found⟩ halved
  | some halves => exact ⟨halves, rfl⟩

end Points

end PolicySearch.Text
