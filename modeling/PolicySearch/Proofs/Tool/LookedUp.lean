import PolicySearch.Proofs.Index.Documents
import PolicySearch.Proofs.Session.Links
import PolicySearch.Proofs.Tool.Pages
/-! A search and the look-ups of what it shows. The document that a result names is there to be looked
up, under the same link, with the value that was delivered for it; and where no two documents share
their kind and their id, the look-up shows what the search showed. -/
namespace PolicySearch

/- An object but for what it has under this key. -/
def Json.without (key : String) : Json → Json
  | .obj members => .obj (members.filter (·.1 != key))
  | value => value

namespace Summary

theorem typeShown (s : Summary) : s.toJson.get? "type" = some (.str s.kind.word) := rfl

theorem idShown (s : Summary) : s.toJson.get? "id" = some (.str s.id) := rfl

theorem noDocument (s : Summary) : ∀ field ∈ s.fields, (field.1 != "document") = true := by
  obtain ⟨_, _, _, _, _, tags, connections⟩ := s
  cases tags <;> cases connections <;> simp [fields, connectionFields]

end Summary

namespace Found

theorem typeShown (f : Found) : f.toJson.get? "type" = some (.str f.summary.kind.word) := rfl

theorem idShown (f : Found) : f.toJson.get? "id" = some (.str f.summary.id) := rfl

theorem documentShown (f : Found) : f.toJson.get? "document" = some f.stored := by
  obtain ⟨⟨_, _, _, _, _, tags, connections⟩, _⟩ := f
  cases tags <;> cases connections <;> rfl

theorem besideDocument (f : Found) : f.toJson.without "document" = f.summary.toJson := by
  rw [toJson, Json.without, List.filter_append, List.filter_eq_self.2 f.summary.noDocument]
  exact congrArg Json.obj (List.append_nil _)

end Found

namespace Index

variable {index : Index} {d first : Document}

theorem firstFound (member : d ∈ index.documents) :
    ∃ first, index.find? d.kind d.id = some first := by
  cases found : index.find? d.kind d.id with
  | some first => exact ⟨first, rfl⟩
  | none =>
    have missed := List.find?_eq_none.1 found d member
    simp at missed

/- A document that shares its kind and its id with no other is the first that has them. -/
theorem firstIfAlone (member : d ∈ index.documents) (found : index.find? d.kind d.id = some first)
    (alone : (index.documents.filter fun other => other.kind == d.kind && other.id == d.id).length = 1) :
    first = d := by
  obtain ⟨sameKind, sameId, inside⟩ := foundMatches found
  obtain ⟨only, single⟩ := List.length_eq_one_iff.1 alone
  have own : d ∈ index.documents.filter fun other => other.kind == d.kind && other.id == d.id :=
    List.mem_filter.2 ⟨member, by simp⟩
  have hit : first ∈ index.documents.filter fun other =>
      other.kind == d.kind && other.id == d.id :=
    List.mem_filter.2 ⟨inside, by simp [sameKind, sameId]⟩
  rw [single, List.mem_singleton] at own hit
  rw [own, hit]

end Index

theorem SearchRefusal.listsNothing (why : SearchRefusal) : why.toJson.listed = [] := by
  cases why <;> rfl

namespace Session

variable {s : Session}

/- A result is of a document of the index, under the branch that is selected and indexed. -/
theorem resultShown {request : SearchRequest} {item : Json}
    (listed : item ∈ (SearchAnswer.toJson (s.answerSearch request)).listed) :
    s.isCurrent = true ∧ ∃ branch, s.current = some branch ∧ s.index.branch = some branch ∧
      ∃ d ∈ s.index.documents,
        item = (Summary.ofDocument branch request.detailed d).toJson := by
  cases answered : s.answerSearch request with
  | error why =>
    rw [answered, SearchAnswer.toJson, why.listsNothing] at listed
    cases listed
  | ok page =>
    obtain ⟨current, selected, indexed, documents⟩ := pageDocuments answered
    rw [answered, SearchAnswer.toJson, page.resultsShown] at listed
    obtain ⟨summary, member, rfl⟩ := List.mem_map.1 listed
    obtain ⟨d, inside, rfl⟩ := documents summary member
    exact ⟨current, page.branch, selected, indexed, d, inside, rfl⟩

theorem lookupFirst (current : s.isCurrent = true) {branch : String}
    (indexed : s.index.branch = some branch) {kind : Kind} {id : String} {d : Document}
    (first : s.index.find? kind id = some d) :
    s.answerLookup ⟨.str kind.word, .str id⟩ =
      .ok ⟨Summary.ofDocument branch true d, d.raw⟩ := by
  have read := Kind.ofJsonIff.2 (Eq.refl (Json.str kind.word))
  have asked : (Json.str id).text?.bind (s.index.find? kind) = some d := first
  simp only [answerLookup, read, indexed, current, if_true, asked]

/- The first document of the index with this kind and this id was made from the first such value that
was delivered. -/
theorem firstDelivered {limit : Option Amount} {events : List Event} {kind : Kind} {id : String}
    {d : Document} (found : (state limit events).index.find? kind id = some d) :
    ∃ generation branch items, (state limit events).index.branch = some branch ∧
      Reported limit events generation branch kind (.answered (.arr items)) ∧
      items.find? (fun raw => (Document.normalize raw kind).id == id) = some d.raw := by
  rcases indexFetched limit events with empty | ⟨generation, branch, payloads, all, index⟩
  · rw [empty] at found
    cases found
  · rw [index, Index.findBuilt] at found
    obtain ⟨raw, first, rfl⟩ := Option.map_eq_some_iff.1 found
    obtain ⟨_, _, _, _, _, sameRaw⟩ :=
      Index.connectFrame (Uses.ofUrlMaps (payloads .urlMaps)) (Document.normalize raw kind)
    obtain ⟨outcome, reported, brings⟩ := all kind
    refine ⟨generation, branch, payloads kind, by rw [index]; rfl, ?_, by rw [sameRaw]; exact first⟩
    rcases brings with answered | ⟨nothing, _⟩
    · rw [← answered]
      exact reported
    · rw [nothing] at first
      cases first

/- What opening a result comes to: the look-up, and where the session leads. -/
structure Opened (limit : Option Amount) (events : List Event) (detailed : Bool) (item : Json)
    (kind : Kind) (id : String) (found : Found) : Prop where
  named : item.get? "type" = some (.str kind.word) ∧ item.get? "id" = some (.str id)
  answered : (state limit events).answerLookup ⟨.str kind.word, .str id⟩ = .ok found
  agrees : ∀ key ∈ ["type", "id", "link"], found.toJson.get? key = item.get? key
  stored : ∃ generation branch items raw, (state limit events).current = some branch ∧
    Reported limit events generation branch kind (.answered (.arr items)) ∧
    items.find? (fun raw => (Document.normalize raw kind).id == id) = some raw ∧
    ((state limit events).index.find? kind id).map Document.raw = some raw ∧
    found.toJson.get? "document" = some raw
  leads : ∃ link, (state limit events).goTo (.str kind.word) id = (some link, []) ∧
    item.get? "link" = some (.str link.path)
  whole : detailed = true →
    ((state limit events).index.documents.filter fun d => d.kind == kind && d.id == id).length = 1 →
      found.toJson.without "document" = item

theorem resultsOpen (limit : Option Amount) (events : List Event) (request : SearchRequest)
    (item : Json)
    (listed : item ∈ (SearchAnswer.toJson ((state limit events).answerSearch request)).listed) :
    ∃ kind id found, Opened limit events (request.format == .str "detailed") item kind id found := by
  obtain ⟨current, branch, selected, indexed, d, member, rfl⟩ := resultShown listed
  obtain ⟨first, found⟩ := Index.firstFound member
  obtain ⟨sameKind, sameId, _⟩ := Index.foundMatches found
  refine ⟨d.kind, d.id, ⟨Summary.ofDocument branch true first, first.raw⟩, ?_⟩
  constructor
  · exact ⟨Summary.typeShown _, Summary.idShown _⟩
  · exact lookupFirst current indexed found
  · intro key shown
    simp only [List.mem_cons, List.not_mem_nil, or_false] at shown
    rcases shown with rfl | rfl | rfl
    · rw [Found.typeShown, Summary.typeShown]
      simp only [Summary.ofDocument, sameKind]
    · rw [Found.idShown, Summary.idShown]
      simp only [Summary.ofDocument, sameId]
    · rw [Found.linkShown, Summary.linkShown]
      simp only [Summary.linkOfDocument, sameKind, sameId]
  · obtain ⟨generation, name, items, here, reported, delivered⟩ := firstDelivered found
    obtain rfl := Option.some.inj (here.symm.trans indexed)
    exact ⟨generation, name, items, first.raw, selected, reported, delivered,
      by rw [found, Option.map_some], Found.documentShown _⟩
  · have read := Kind.ofJsonIff.2 (Eq.refl (Json.str d.kind.word))
    exact ⟨_, goToIndexed indexed read d.id, Summary.linkShown _⟩
  · intro detailed alone
    obtain rfl := Index.firstIfAlone member found alone
    rw [Found.besideDocument, show request.detailed = true from detailed]

/- A tag rule and a flow control of one id. -/
def twoOfOneId : List Event :=
  .load (.ok (.arr [.obj [("id", .str "a")]])) ::
    Kind.all.map fun kind => .fetched 1 kind (.answered
      (.arr (if kind = .tagRules ∨ kind = .flowControl then [.obj [("id", .str "one")]] else [])))

def flowShown : Json :=
  .obj [("id", .str "one"), ("type", .str "flowcontrol"), ("name", .str ""),
    ("description", .str ""), ("link", .str "/config/a/flowcontrol/one")]

theorem resultsOpenOfOneId :
    flowShown ∈ (SearchAnswer.toJson
        ((state none twoOfOneId).answerSearch { format := .str "detailed" })).listed ∧
      ∃ kind id found, Opened none twoOfOneId true flowShown kind id found := by
  have listed : flowShown ∈ (SearchAnswer.toJson
      ((state none twoOfOneId).answerSearch { format := .str "detailed" })).listed := by
    decide +kernel
  exact ⟨listed, resultsOpen none twoOfOneId _ flowShown listed⟩

end Session

end PolicySearch
