import Mathlib.Data.List.Basic
import PolicySearch.Search.Query
/-! Searching in all facets, and in one. What is found in all of them is what is found in any of them, in
the order of the documents and as often as they come. The empty text finds every document; any other
text needs a value to be found in. -/
namespace PolicySearch.Query

variable {text : String} {mode : Mode} {d : Document}

theorem acceptsAll :
    accepts ⟨.all, text⟩ d = true ↔ ∃ facet ∈ Facet.all, accepts ⟨.only facet, text⟩ d = true := by
  simp only [acceptsIff, Document.values, List.mem_flatMap]
  constructor
  · intro accepted
    rcases accepted with empty | ⟨value, ⟨facet, known, shown⟩, hit⟩
    · exact ⟨.kind, Facet.kind.memberOfAll, .inl empty⟩
    · exact ⟨facet, known, .inr ⟨value, shown, hit⟩⟩
  · intro accepted
    obtain ⟨facet, known, empty | ⟨value, shown, hit⟩⟩ := accepted
    · exact .inl empty
    · exact .inr ⟨value, ⟨facet, known, shown⟩, hit⟩

/- The small form of a text is empty only if the text is, so nothing is found in an empty value. -/
theorem hitsEmpty (hit : hits (Text.lower text.toList) "" = true) : text = "" := by
  have none : Text.lower text.toList = [] := by
    rw [hits, show Text.lower "".toList = [] from rfl, Text.occursIn] at hit
    exact List.isEmpty_iff.1 hit
  exact String.toList_eq_nil_iff.1 (Text.lowerEmpty.1 none)

theorem bareMissed (given : text ≠ "") (bare : ∀ value ∈ d.values mode, value = "") :
    accepts ⟨mode, text⟩ d = false := by
  refine Bool.eq_false_iff.2 fun accepted => ?_
  rcases acceptsIff.1 accepted with empty | ⟨value, shown, hit⟩
  · exact given empty
  · rw [bare value shown] at hit
    exact given (hitsEmpty hit)

variable (text) (documents : List Document)

theorem allUnion : filter ⟨.all, text⟩ documents =
    documents.filter fun d => ∃ facet ∈ Facet.all, d ∈ filter ⟨.only facet, text⟩ documents := by
  refine List.filter_congr fun d member => Bool.eq_iff_iff.2 ?_
  simp only [acceptsAll, decide_eq_true_eq, filterMember, member, true_and]

theorem onlySublist (facet : Facet) :
    List.Sublist (filter ⟨.only facet, text⟩ documents) (filter ⟨.all, text⟩ documents) :=
  List.monotone_filter_right documents fun _ accepted =>
    acceptsAll.2 ⟨facet, facet.memberOfAll, accepted⟩

theorem emptyFindsAll (mode : Mode) : filter ⟨mode, ""⟩ documents = documents :=
  List.filter_eq_self.2 fun d _ => emptyAccepts d rfl

/- What the searches for one text find, in all facets and in each. -/
structure FacetUnion (text : String) (documents : List Document) : Prop where
  all : filter ⟨.all, text⟩ documents =
    documents.filter fun d => ∃ facet ∈ Facet.all, d ∈ filter ⟨.only facet, text⟩ documents
  each : ∀ facet,
    List.Sublist (filter ⟨.only facet, text⟩ documents) (filter ⟨.all, text⟩ documents)
  whole : text = "" → ∀ mode, filter ⟨mode, text⟩ documents = documents
  bare : text ≠ "" → ∀ mode d, (∀ value ∈ d.values mode, value = "") →
    d ∉ filter ⟨mode, text⟩ documents

theorem allIsUnion : FacetUnion text documents where
  all := allUnion text documents
  each := onlySublist text documents
  whole := by
    rintro rfl mode
    exact emptyFindsAll documents mode
  bare := by
    intro given mode d bare found
    have accepted := (filterMember.1 found).2
    rw [bareMissed given bare] at accepted
    cases accepted

end PolicySearch.Query
