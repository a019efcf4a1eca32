import PolicySearch.Json.Basic
import PolicySearch.Number.Shortest
import PolicySearch.Text.Hex
/-! JSON text of a value, in ASCII only. A character from beyond the first 65,536 is written as a
pair of escapes. The short layout puts one space after a comma and a colon; the long one gives
each item a line of its own, two blanks further in for each level. -/
namespace PolicySearch.Json
open Number Text

def unitEscape (n : Nat) : List Char := '\\' :: 'u' :: hex 4 n

def numberedEscape (c : Char) : List Char :=
  if c.toNat < 0x10000 then unitEscape c.toNat
  else
    let beyond := c.toNat - 0x10000
    unitEscape (0xd800 + beyond / 0x400) ++ unitEscape (0xdc00 + beyond % 0x400)

def escapedChar (c : Char) : List Char :=
  if c = '"' ∨ c = '\\' then ['\\', c]
  else if c = '\n' then ['\\', 'n']
  else if c = '\r' then ['\\', 'r']
  else if c = '\t' then ['\\', 't']
  else if c = '\x0c' then ['\\', 'f']
  else if c = '\x08' then ['\\', 'b']
  else if ' ' ≤ c ∧ c ≤ '~' then [c]
  else numberedEscape c

def writeString (s : String) : String :=
  String.ofList ('"' :: s.toList.flatMap escapedChar ++ ['"'])

def writeFloat : Binary64 → String
  | .nan => "NaN"
  | .infinite negative => Binary64.signText negative ++ "Infinity"
  | x => x.text

/-- How items are set apart: the break before an item and before the closing mark, by depth, and
what stands between two items. -/
structure Layout where
  lineBreak : Nat → String
  separator : String

def Layout.short : Layout := ⟨fun _ => "", ", "⟩

def Layout.long : Layout := ⟨fun depth => String.ofList ('\n' :: List.replicate (2 * depth) ' '), ","⟩

def enclose (layout : Layout) (depth : Nat) (opening closing : String) (items : List String) :
    String :=
  if items.isEmpty then opening ++ closing
  else
    opening ++ layout.lineBreak (depth + 1) ++
      (layout.separator ++ layout.lineBreak (depth + 1)).intercalate items ++
      layout.lineBreak depth ++ closing

mutual
def writeWith (layout : Layout) (depth : Nat) : Json → String
  | .null => "null"
  | .bool truth => if truth then "true" else "false"
  | .int n => intText n
  | .float x => writeFloat x
  | .str s => writeString s
  | .arr items => enclose layout depth "[" "]" (writeItems layout (depth + 1) items)
  | .obj members => enclose layout depth "\x7b" "\x7d" (writeMembers layout (depth + 1) members)

def writeItems (layout : Layout) (depth : Nat) : List Json → List String
  | [] => []
  | item :: rest => writeWith layout depth item :: writeItems layout depth rest

def writeMembers (layout : Layout) (depth : Nat) : List (String × Json) → List String
  | [] => []
  | (key, value) :: rest =>
    (writeString key ++ ": " ++ writeWith layout depth value) :: writeMembers layout depth rest
end

def write (value : Json) : String := writeWith .short 0 value

def writeLong (value : Json) : String := writeWith .long 0 value

end PolicySearch.Json
