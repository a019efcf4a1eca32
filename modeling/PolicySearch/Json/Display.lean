import PolicySearch.Json.Basic
import PolicySearch.Number.Shortest
import PolicySearch.Text.Quoted
/-! A value as running text. A string stands for itself alone, and in quotes inside a list or an
object. -/
namespace PolicySearch.Json
open Number Text

mutual
def quoted : Json → String
  | .null => "None"
  | .bool truth => if truth then "True" else "False"
  | .int n => intText n
  | .float x => x.text
  | .str s => Text.quoted s
  | .arr items => "[" ++ ", ".intercalate (quotedItems items) ++ "]"
  | .obj members => "\x7b" ++ ", ".intercalate (quotedMembers members) ++ "\x7d"

def quotedItems : List Json → List String
  | [] => []
  | item :: rest => quoted item :: quotedItems rest

def quotedMembers : List (String × Json) → List String
  | [] => []
  | (key, value) :: rest => (Text.quoted key ++ ": " ++ quoted value) :: quotedMembers rest
end

def plain : Json → String
  | .str s => s
  | value => quoted value

theorem plainOther {value : Json} (other : ∀ s, value ≠ .str s) : plain value = quoted value := by
  cases value <;> first | rfl | exact absurd rfl (other _)

end PolicySearch.Json
