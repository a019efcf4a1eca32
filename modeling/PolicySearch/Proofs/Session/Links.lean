import PolicySearch.Proofs.Index.CrossReferences
import PolicySearch.Proofs.Session.Provenance
import PolicySearch.Proofs.Tool.Answer
/-! Where links lead. The session makes a link to the branch of the installed index, and the tools
make theirs to the selected branch; both are the branch that the documents of the index were fetched
from, also while another branch is being switched to, since the tools show no document then. -/
namespace PolicySearch

/- The links that an answer shows: its own, and those of its results. -/
def Json.links (answer : Json) : List Json :=
  (answer.get? "link").toList ++
    (((answer.get? "results").bind Json.items?).getD []).filterMap (·.get? "link")

theorem SearchRefusal.linksNothing (why : SearchRefusal) : why.toJson.links = [] := by
  cases why <;> rfl

theorem LookupRefusal.linksNothing (why : LookupRefusal) : why.toJson.links = [] := rfl

theorem Page.linksShown (p : Page) :
    p.toJson.links = p.results.map fun summary => .str summary.link.path := by
  have items : p.toJson.links = (p.results.map Summary.toJson).filterMap (·.get? "link") := by
    obtain ⟨_, _, _, next⟩ := p
    cases next <;> rfl
  simp only [items, List.filterMap_map, Function.comp_def, Summary.linkShown, List.filterMap_eq_map']

theorem Found.linksShown (f : Found) : f.toJson.links = [.str f.summary.link.path] := by
  have results : f.toJson.get? "results" = none := by
    obtain ⟨⟨_, _, _, _, _, tags, connections⟩, _⟩ := f
    cases tags <;> cases connections <;> rfl
  rw [Json.links, results, f.linkShown]
  rfl

namespace Session

variable {s : Session} {link : Json}

/- Each link of an answer is that of a document of the index, to the branch of the index. -/
def LinksIndexed (s : Session) (answer : Json) : Prop :=
  ∀ link ∈ answer.links, ∃ branch, s.index.branch = some branch ∧
    ∃ d ∈ s.index.documents, link = .str (Link.path ⟨branch, d.kind, d.id⟩)

theorem searchLinks (s : Session) (r : SearchRequest) :
    s.LinksIndexed (SearchAnswer.toJson (s.answerSearch r)) := by
  intro link member
  cases answered : s.answerSearch r with
  | error why =>
    rw [answered, SearchAnswer.toJson, why.linksNothing] at member
    cases member
  | ok page =>
    obtain ⟨_, _, indexed, documents⟩ := pageDocuments answered
    rw [answered, SearchAnswer.toJson, page.linksShown] at member
    obtain ⟨summary, listed, rfl⟩ := List.mem_map.1 member
    obtain ⟨d, inside, rfl⟩ := documents summary listed
    exact ⟨page.branch, indexed, d, inside, rfl⟩

theorem lookupLinks (s : Session) (r : LookupRequest) :
    s.LinksIndexed (LookupAnswer.toJson (s.answerLookup r)) := by
  intro link member
  cases answered : s.answerLookup r with
  | error why =>
    rw [answered, LookupAnswer.toJson, why.linksNothing] at member
    cases member
  | ok found =>
    obtain ⟨current, branch, selected, d, inside, rfl⟩ := documentAnswered answered
    rw [answered, LookupAnswer.toJson, Found.linksShown] at member
    exact ⟨branch, (beq_iff_eq.1 current).trans selected, d, inside, List.mem_singleton.1 member⟩

theorem answerLinks (s : Session) (call : ToolCall) : s.LinksIndexed (call.answer s).toJson := by
  cases call with
  | search r => exact s.searchLinks r
  | lookup r => exact s.lookupLinks r
  | branches | unusable => intro link member; cases member

theorem goToIndexed {branch : String} (indexed : s.index.branch = some branch) {value : Json}
    {kind : Kind} (read : Kind.ofJson value = .ok kind) (id : String) :
    s.goTo value id = (some ⟨branch, kind, id⟩, []) := by
  rw [goTo, indexed, read]

/- A fetch of the document's kind, made by a rebuild of this branch, was answered with the value that
the document was made from. -/
def Delivered (limit : Option Amount) (events : List Event) (generation : Nat) (branch : String)
    (d : Document) : Prop :=
  ∃ items, Reported limit events generation branch d.kind (.answered (.arr items)) ∧ d.raw ∈ items

theorem builtDelivered {limit : Option Amount} {events : List Event} {generation : Nat}
    {branch : String} {payloads : Payloads}
    (all : ∀ kind, ∃ outcome, Reported limit events generation branch kind outcome ∧
      Brings outcome (payloads kind))
    {d : Document} (member : d ∈ (Index.build (some branch) payloads).documents) :
    Delivered limit events generation branch d := by
  obtain ⟨kind, raw, inside, rfl⟩ := Index.memberBuilt.1 member
  obtain ⟨_, sameKind, _, _, _, sameRaw⟩ :=
    Index.connectFrame (Uses.ofUrlMaps (payloads .urlMaps)) (Document.normalize raw kind)
  obtain ⟨outcome, reported, brings⟩ := all kind
  rcases brings with answered | ⟨nothing, _⟩
  · refine ⟨payloads kind, ?_, sameRaw ▸ inside⟩
    rw [sameKind, ← answered]
    exact reported
  · rw [nothing] at inside
    cases inside

theorem linksNameSource (limit : Option Amount) (events : List Event) {kind : Kind} {id : String}
    {d : Document} (found : (state limit events).index.find? kind id = some d) :
    ∃ generation branch, Delivered limit events generation branch d ∧
      (∀ value, Kind.ofJson value = .ok kind →
        (state limit events).goTo value id = (some ⟨branch, kind, id⟩, [])) ∧
      ∀ call : ToolCall, ∀ link ∈ (call.answer (state limit events)).toJson.links,
        ∃ other ∈ (state limit events).index.documents,
          Delivered limit events generation branch other ∧
            link = .str (Link.path ⟨branch, other.kind, other.id⟩) := by
  obtain ⟨_, _, member⟩ := Index.foundMatches found
  rcases indexFetched limit events with empty | ⟨generation, branch, payloads, all, index⟩
  · rw [empty] at member
    cases member
  · have indexed : (state limit events).index.branch = some branch := by rw [index]; rfl
    have delivered : ∀ other ∈ (state limit events).index.documents,
        Delivered limit events generation branch other := by
      rw [index]
      exact fun other inside => builtDelivered all inside
    refine ⟨generation, branch, delivered d member, fun value read => goToIndexed indexed read id,
      fun call link shown => ?_⟩
    obtain ⟨name, named, other, inside, same⟩ := answerLinks _ call link shown
    obtain rfl := Option.some.inj (named.symm.trans indexed)
    exact ⟨other, inside, delivered other inside, same⟩

/- The first branch is indexed with one policy, and the second one is being switched to. -/
def midSwitch : List Event :=
  .load (.ok (.arr [.obj [("id", .str "a")], .obj [("id", .str "b")]])) ::
    (Kind.all.map fun kind => .fetched 1 kind (.answered
      (.arr (if kind = .aclPolicies then [.obj [("id", .str "deny")]] else [])))) ++
    [.select (.str "b")]

theorem linksNameSourceMidSwitch :
    (state none midSwitch).current = some "b" ∧
      ∃ d, (state none midSwitch).index.find? .aclPolicies "deny" = some d ∧
        ∃ generation, Delivered none midSwitch generation "a" d ∧
          (state none midSwitch).goTo (.str "aclpolicies") "deny" =
            (some ⟨"a", .aclPolicies, "deny"⟩, []) := by
  have indexed : (state none midSwitch).index.branch = some "a" := by decide +kernel
  obtain ⟨d, found⟩ := Option.isSome_iff_exists.1
    (show ((state none midSwitch).index.find? .aclPolicies "deny").isSome = true by decide +kernel)
  obtain ⟨generation, branch, delivered, goes, _⟩ := linksNameSource none midSwitch found
  have read : Kind.ofJson (.str "aclpolicies") = .ok .aclPolicies := by decide
  have leads := goes (.str "aclpolicies") read
  rw [goToIndexed indexed read] at leads
  cases leads
  exact ⟨by decide +kernel, d, found, generation, delivered, goToIndexed indexed read _⟩

end Session

end PolicySearch
