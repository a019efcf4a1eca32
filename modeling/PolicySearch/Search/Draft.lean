import PolicySearch.Fault
import PolicySearch.Search.Query
/-! A query as it was given. Its text can be any value; one that is no text is refused, but only
when there is a document to look at. -/
namespace PolicySearch

structure Draft where
  mode : Mode := .all
  text : Json := .str ""
  deriving DecidableEq, Repr

structure NotText where
  value : Json
  deriving DecidableEq, Repr

def NotText.fault (e : NotText) : Fault := .lacking e.value "lower"

namespace Draft

def queryFor (d : Draft) (documents : List Document) : Except NotText Query :=
  match d.text.text? with
  | some text => .ok ⟨d.mode, text⟩
  | none => if documents.isEmpty then .ok ⟨d.mode, ""⟩ else .error ⟨d.text⟩

def filter (d : Draft) (documents : List Document) : Except NotText (List Document) :=
  (d.queryFor documents).map (·.filter documents)

theorem queryForText (mode : Mode) (text : String) (documents : List Document) :
    queryFor ⟨mode, .str text⟩ documents = .ok ⟨mode, text⟩ := rfl

theorem filterText (mode : Mode) (text : String) (documents : List Document) :
    filter ⟨mode, .str text⟩ documents = .ok (Query.filter ⟨mode, text⟩ documents) := rfl

theorem filterNothing (d : Draft) : d.filter [] = .ok [] := by
  unfold filter queryFor
  split <;> rfl

end Draft

end PolicySearch
