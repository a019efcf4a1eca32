import PolicySearch.Index.Basic
import PolicySearch.Proofs.Reference.Named
/-! The documents of an index, and their cross references in both directions: a URL map shows the
policies that its own paths name, a policy the names of the paths that name it, over all URL maps,
and no other document shows anything. -/
namespace PolicySearch.Index
open Reference

theorem memberBuilt {branch : Option String} {payloads : Payloads} {d : Document} :
    d ∈ (build branch payloads).documents ↔
      ∃ kind, ∃ raw ∈ payloads kind,
        d = connect (Uses.ofUrlMaps (payloads .urlMaps)) (Document.normalize raw kind) := by
  simp only [build, List.mem_flatMap, List.mem_map]
  constructor
  · intro found
    obtain ⟨kind, _, raw, member, same⟩ := found
    exact ⟨kind, raw, member, same.symm⟩
  · intro found
    obtain ⟨kind, raw, member, same⟩ := found
    exact ⟨kind, kind.memberOfAll, raw, member, same.symm⟩

theorem normalKind (raw : Json) (kind : Kind) : (Document.normalize raw kind).kind = kind := rfl

theorem connectUrlMap (uses : Uses) (raw : Json) :
    connect uses (Document.normalize raw .urlMaps) =
      { Document.normalize raw .urlMaps with
        acl := named .aclPolicies raw
        waf := named .wafPolicies raw
        rateLimits := named .rateLimits raw } := by
  unfold connect
  rw [if_pos (normalKind raw .urlMaps), Links.ofUrlMapNamed]
  rfl

theorem connectPolicy (urlMaps : List Json) (raw : Json) {kind : Kind}
    (referenced : kind.isReferenced = true) :
    connect (Uses.ofUrlMaps urlMaps) (Document.normalize raw kind) =
      { Document.normalize raw kind with
        usedBy := users urlMaps ⟨kind, (Document.normalize raw kind).id⟩ } := by
  have other : kind ≠ .urlMaps := by
    intro same
    rw [same] at referenced
    cases referenced
  unfold connect
  rw [normalKind, if_neg other, if_pos referenced, Uses.ofUrlMapsUsers]
  rfl

theorem connectOther (uses : Uses) (raw : Json) {kind : Kind} (other : kind ≠ .urlMaps)
    (unreferenced : kind.isReferenced = false) :
    connect uses (Document.normalize raw kind) = Document.normalize raw kind := by
  unfold connect
  rw [normalKind, if_neg other, if_neg (unreferenced ▸ Bool.false_ne_true)]

theorem usersOfNothing (urlMaps : List Json) (kind : Kind) : users urlMaps ⟨kind, ""⟩ = [] := by
  have none : ((urlMaps.flatMap paths).filter fun path => "" ∈ idsOf kind path) = [] := by
    refine List.filter_eq_nil_iff.2 fun path _ found => ?_
    exact (memberIds.1 (of_decide_eq_true found)).1 rfl
  rw [users, none]
  rfl

theorem crossReferencesExact (branch : Option String) (payloads : Payloads) :
    ∀ d ∈ (build branch payloads).documents,
      d.acl = (if d.kind = .urlMaps then named .aclPolicies d.raw else []) ∧
      d.waf = (if d.kind = .urlMaps then named .wafPolicies d.raw else []) ∧
      d.rateLimits = (if d.kind = .urlMaps then named .rateLimits d.raw else []) ∧
      d.usedBy =
        (if d.kind.isReferenced then users (payloads .urlMaps) ⟨d.kind, d.id⟩ else []) ∧
      (d.id = "" → d.usedBy = []) := by
  intro d member
  obtain ⟨kind, raw, _, rfl⟩ := memberBuilt.1 member
  by_cases map : kind = .urlMaps
  · subst map
    rw [connectUrlMap]
    exact ⟨rfl, rfl, rfl, rfl, fun _ => rfl⟩
  · cases referenced : kind.isReferenced with
    | true =>
      rw [connectPolicy _ _ referenced]
      refine ⟨(if_neg map).symm, (if_neg map).symm, (if_neg map).symm, (if_pos referenced).symm, ?_⟩
      intro empty
      have empty : (Document.normalize raw kind).id = "" := empty
      simp only [empty]
      exact usersOfNothing _ kind
    | false =>
      rw [connectOther _ _ map referenced]
      simp [Document.normalize, map, referenced]

def homePath : Json :=
  .obj [("name", .str "home"), ("acl_profile", .str "one"), ("waf_profile", .str "one"),
    ("limit_ids", .arr [.str "slow", .int 1, .str "slow"])]

/- A URL map with a named path, a path without a name and an item that is no path. -/
def shopMap : Json :=
  .obj [("id", .str "shop"), ("map", .arr
    [homePath, .str "one", .obj [("acl_profile", .str "one"), ("waf_profile", .str "")]])]

def onePolicy : Json := .obj [("id", .str "one")]

def shop : Payloads
  | .urlMaps => [shopMap]
  | .aclPolicies => [onePolicy]
  | _ => []

theorem memberShop (kind : Kind) {raw : Json} (stored : raw ∈ shop kind) :
    connect (Uses.ofUrlMaps [shopMap]) (Document.normalize raw kind) ∈
      (build none shop).documents :=
  memberBuilt.2 ⟨kind, raw, stored, rfl⟩

theorem crossReferencesOfShop :
    (∃ d ∈ (build none shop).documents, d.kind = .aclPolicies ∧ d.usedBy = ["home"]) ∧
      ∃ d ∈ (build none shop).documents, d.kind = .urlMaps ∧ d.rateLimits = ["slow"] := by
  have policy := memberShop .aclPolicies (List.mem_singleton_self onePolicy)
  have map := memberShop .urlMaps (List.mem_singleton_self shopMap)
  obtain ⟨_, _, _, used, _⟩ := crossReferencesExact none shop _ policy
  obtain ⟨_, _, limits, _⟩ := crossReferencesExact none shop _ map
  exact ⟨⟨_, policy, rfl, used.trans (by decide)⟩, ⟨_, map, rfl, limits.trans (by decide)⟩⟩

end PolicySearch.Index
