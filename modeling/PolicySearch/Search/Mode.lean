import PolicySearch.Json.Display
import PolicySearch.Text.Blank
import PolicySearch.Text.Case
/-! What a search looks at: one facet of the documents, or all of them. A mode is named in any
case, with blanks around it. -/
namespace PolicySearch

inductive Facet where
  | kind
  | id
  | name
  | description
  | tags
  | connections
  deriving DecidableEq, Repr

def Facet.all : List Facet := [kind, id, name, description, tags, connections]

inductive Mode where
  | all
  | only (facet : Facet)
  deriving DecidableEq, Repr

def Facet.word : Facet → String
  | kind => "type"
  | id => "id"
  | name => "name"
  | description => "description"
  | tags => "tags"
  | connections => "connections"

theorem Facet.memberOfAll (facet : Facet) : facet ∈ all := by cases facet <;> decide

namespace Mode

def every : List Mode := .all :: Facet.all.map .only

def word : Mode → String
  | .all => "all"
  | .only facet => facet.word

def ofWord? (word : String) : Option Mode := every.find? (·.word == word)

end Mode

structure UnknownMode where
  value : Json
  deriving DecidableEq, Repr

def UnknownMode.message (e : UnknownMode) : String :=
  "Unknown search mode " ++ e.value.quoted ++ ", expected one of: " ++
    ", ".intercalate (Mode.every.map Mode.word)

namespace Mode

def ofJson (value : Json) : Except UnknownMode Mode :=
  match ofWord? (Text.lowered (Text.stripped value.plain)) with
  | some mode => .ok mode
  | none => .error ⟨value⟩

def ofText (text : String) : Except UnknownMode Mode := ofJson (.str text)

theorem memberOfEvery (mode : Mode) : mode ∈ every := by
  cases mode with
  | all => decide
  | only facet => cases facet <;> decide

theorem ofOwnWord (mode : Mode) : ofWord? mode.word = some mode := by
  cases mode with
  | all => decide
  | only facet => cases facet <;> decide

theorem wordOfFound {word : String} {mode : Mode} (found : ofWord? word = some mode) :
    mode.word = word := by
  simpa using List.find?_some found

end Mode

end PolicySearch
