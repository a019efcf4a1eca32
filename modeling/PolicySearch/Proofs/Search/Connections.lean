import PolicySearch.Proofs.Index.CrossReferences
import PolicySearch.Search.Query
/-! Searching for a policy finds every URL map that uses it, and searching for a path finds every
policy that the path uses. The text of the search and the value shown are the same text here, so
whatever becomes of its letters, the one stands in the other. -/
namespace PolicySearch
open Reference

theorem Document.connectionShown {d : Document} {value : String} {mode : Mode}
    (connected : value ∈ d.connections) (looks : mode = .all ∨ mode = .only .connections) :
    value ∈ d.values mode := by
  rcases looks with rfl | rfl
  · exact List.mem_flatMap.2 ⟨.connections, by decide, connected⟩
  · exact connected

namespace Query

theorem acceptsValue {mode : Mode} {value : String} {d : Document}
    (shown : value ∈ d.values mode) : accepts ⟨mode, value⟩ d = true :=
  acceptsIff.2 (.inr ⟨value, shown, Text.occursSelf _⟩)

theorem filterConnected {mode : Mode} {value : String} {d : Document} {documents : List Document}
    (looks : mode = .all ∨ mode = .only .connections) (member : d ∈ documents)
    (connected : value ∈ d.connections) : d ∈ filter ⟨mode, value⟩ documents :=
  filterMember.2 ⟨member, acceptsValue (Document.connectionShown connected looks)⟩

end Query

namespace Index

theorem urlMapConnected {branch : Option String} {payloads : Payloads} {d : Document}
    (member : d ∈ (build branch payloads).documents) (map : d.kind = .urlMaps)
    {path : Json} (own : path ∈ paths d.raw) {kind : Kind} {id : String}
    (names : Names path kind id) : id ∈ d.connections := by
  obtain ⟨other, raw, _, rfl⟩ := memberBuilt.1 member
  obtain ⟨_, same, _, _, _, stored⟩ := connectFrame (Uses.ofUrlMaps (payloads .urlMaps))
    (Document.normalize raw other)
  rw [same, normalKind] at map
  subst map
  rw [stored] at own
  have found : id ∈ named kind raw := memberNamed.2 ⟨path, own, names⟩
  rw [connectUrlMap, Document.memberConnections]
  cases kind with
  | aclPolicies => exact .inl found
  | wafPolicies => exact .inr (.inl found)
  | rateLimits => exact .inr (.inr (.inl found))
  | tagRules | urlMaps | flowControl => exact names.2.elim

theorem policyConnected {branch : Option String} {payloads : Payloads} {d : Document}
    (member : d ∈ (build branch payloads).documents) {urlMap path : Json}
    (stored : urlMap ∈ payloads .urlMaps) (own : path ∈ paths urlMap)
    (names : Names path d.kind d.id) {name : String} (called : idAt "name" path = some name) :
    name ∈ d.connections := by
  obtain ⟨kind, raw, _, rfl⟩ := memberBuilt.1 member
  obtain ⟨sameId, sameKind, _⟩ := connectFrame (Uses.ofUrlMaps (payloads .urlMaps))
    (Document.normalize raw kind)
  rw [sameId, sameKind, normalKind] at names
  rw [connectPolicy _ _ (namedReferenced names), Document.memberConnections]
  exact .inr (.inr (.inr (memberUsers.2 ⟨urlMap, stored, path, own, names, called⟩)))

theorem urlMapBuilt (branch : Option String) {payloads : Payloads} {urlMap : Json}
    (stored : urlMap ∈ payloads .urlMaps) :
    ∃ d ∈ (build branch payloads).documents, d.kind = .urlMaps ∧ d.raw = urlMap := by
  have kept := connectFrame (Uses.ofUrlMaps (payloads .urlMaps))
    (Document.normalize urlMap .urlMaps)
  exact ⟨_, memberBuilt.2 ⟨.urlMaps, urlMap, stored, rfl⟩, kept.2.1, kept.2.2.2.2.2⟩

/- For a path of a stored URL map: a search for a policy that it names shows the document of the
URL map, and a search for its own name shows the documents of all policies that it names. -/
theorem usesFound (branch : Option String) (payloads : Payloads) :
    ∀ urlMap ∈ payloads .urlMaps, ∀ path ∈ paths urlMap,
      ∀ mode, mode = .all ∨ mode = .only .connections →
        (∀ kind id, Names path kind id →
          (∃ d ∈ (build branch payloads).documents, d.kind = .urlMaps ∧ d.raw = urlMap) ∧
          ∀ d ∈ (build branch payloads).documents, d.kind = .urlMaps → d.raw = urlMap →
            d ∈ Query.filter ⟨mode, id⟩ (build branch payloads).documents) ∧
        ∀ name, name ≠ "" → path.get? "name" = some (.str name) →
          ∀ d ∈ (build branch payloads).documents, Names path d.kind d.id →
            d ∈ Query.filter ⟨mode, name⟩ (build branch payloads).documents := by
  intro urlMap stored path own mode looks
  constructor
  · intro kind id names
    refine ⟨urlMapBuilt branch stored, fun d member map same => ?_⟩
    exact Query.filterConnected looks member (urlMapConnected member map (same ▸ own) names)
  · intro name filled called d member names
    have called := idAtIff.2 ⟨called, filled⟩
    exact Query.filterConnected looks member (policyConnected member stored own names called)

theorem usesFoundInShop :
    (∃ d ∈ Query.filter ⟨.only .connections, "slow"⟩ (build none shop).documents,
      d.kind = .urlMaps) ∧
    ∃ d ∈ Query.filter ⟨.all, "home"⟩ (build none shop).documents, d.kind = .aclPolicies := by
  have stored : shopMap ∈ shop .urlMaps := List.mem_singleton_self shopMap
  have own : homePath ∈ paths shopMap := by decide
  constructor
  · obtain ⟨byPolicy, _⟩ := usesFound none shop shopMap stored homePath own _ (.inr rfl)
    have names : Names homePath .rateLimits "slow" := ⟨by decide, _, rfl, List.mem_cons_self⟩
    obtain ⟨⟨d, member, map, same⟩, found⟩ := byPolicy .rateLimits "slow" names
    exact ⟨d, found d member map same, map⟩
  · obtain ⟨_, byName⟩ := usesFound none shop shopMap stored homePath own _ (.inl rfl)
    have member := memberShop .aclPolicies (List.mem_singleton_self onePolicy)
    exact ⟨_, byName "home" (by decide) rfl _ member ⟨by decide, rfl⟩, rfl⟩

end Index

end PolicySearch
