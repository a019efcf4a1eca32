import PolicySearch.Index.Basic
import PolicySearch.Search.Mode
import PolicySearch.Text.Substring
/-! Searching: a document matches if a value of the facet contains the text, whatever the case of
either. The empty text matches every document. -/
namespace PolicySearch

structure Query where
  mode : Mode := .all
  text : String := ""
  deriving DecidableEq, Repr

def Document.facet (d : Document) : Facet → List String
  | .kind => [d.kind.word, d.kind.label]
  | .id => [d.id]
  | .name => [d.name]
  | .description => [d.description]
  | .tags => d.tags
  | .connections => d.connections

def Document.values (d : Document) : Mode → List String
  | .all => Facet.all.flatMap d.facet
  | .only facet => d.facet facet

namespace Query

def hits (needle : List Char) (value : String) : Bool :=
  Text.occursIn needle (Text.lower value.toList)

def accepts (q : Query) (d : Document) : Bool :=
  let needle := Text.lower q.text.toList
  needle.isEmpty || (d.values q.mode).any (hits needle)

def filter (q : Query) (documents : List Document) : List Document := documents.filter q.accepts

theorem emptyAccepts {q : Query} (d : Document) (empty : q.text = "") : q.accepts d = true := by
  simp [accepts, empty, Text.lowerEmpty.2 rfl]

theorem acceptsIff {q : Query} {d : Document} :
    q.accepts d = true ↔
      q.text = "" ∨ ∃ value ∈ d.values q.mode, hits (Text.lower q.text.toList) value = true := by
  simp only [accepts, Bool.or_eq_true, List.isEmpty_iff, Text.lowerEmpty, List.any_eq_true,
    String.toList_eq_nil_iff]

theorem filterMember {q : Query} {documents : List Document} {d : Document} :
    d ∈ q.filter documents ↔ d ∈ documents ∧ q.accepts d = true := List.mem_filter

end Query

end PolicySearch
