import PolicySearch.Reference.Entry
/-! The paths of a URL map, as they stand in the stored value: the objects in the list under `map`.
A path names policies under keys of its own for each kind, and may have a name itself. -/
namespace PolicySearch

def Json.isObject : Json → Bool
  | .obj _ => true
  | _ => false

namespace Reference

def paths (urlMap : Json) : List Json := (Document.itemsAt urlMap "map").filter Json.isObject

def idAt (key : String) (path : Json) : Option String := (path.get? key).bind Json.identifier?

/- The ids of the policies of a kind that the path names; only three kinds can be named. -/
def idsOf (kind : Kind) (path : Json) : List String :=
  match kind with
  | .aclPolicies => (idAt "acl_profile" path).toList
  | .wafPolicies => (idAt "waf_profile" path).toList
  | .rateLimits => (Document.itemsAt path "limit_ids").filterMap Json.identifier?
  | .tagRules | .urlMaps | .flowControl => []

def entryOf (path : Json) : Entry where
  name := idAt "name" path
  acl := idAt "acl_profile" path
  waf := idAt "waf_profile" path
  limits := (Document.itemsAt path "limit_ids").filterMap Json.identifier?

theorem entryOfObject {path : Json} (object : path.isObject = true) :
    Entry.ofJson? path = some (entryOf path) := by
  cases path with
  | obj members => rfl
  | _ => cases object

theorem entryOfOther {path : Json} (other : path.isObject = false) :
    Entry.ofJson? path = none := by
  cases path with
  | obj members => cases other
  | _ => rfl

theorem entriesOfPaths (urlMap : Json) : Entry.all urlMap = (paths urlMap).map entryOf := by
  unfold Entry.all paths
  induction Document.itemsAt urlMap "map" with
  | nil => rfl
  | cons path rest ih =>
    cases object : path.isObject with
    | true => simp [entryOfObject object, object, ih]
    | false => simp [entryOfOther object, object, ih]

theorem policiesOfPath {path : Json} {kind : Kind} {id : String} :
    ⟨kind, id⟩ ∈ (entryOf path).policies ↔ id ∈ idsOf kind path := by
  rw [Entry.policiesIff]
  cases kind <;> simp [idsOf, entryOf]

theorem identifierIff {value : Json} {id : String} :
    value.identifier? = some id ↔ value = .str id ∧ id ≠ "" := by
  constructor
  · intro found
    refine ⟨?_, Json.identifierFilled found⟩
    cases value <;> simp_all [Json.identifier?]
  · intro stored
    rw [stored.1]
    exact Json.identifierString stored.2

theorem idAtIff {key : String} {path : Json} {id : String} :
    idAt key path = some id ↔ path.get? key = some (.str id) ∧ id ≠ "" := by
  simp only [idAt, Option.bind_eq_some_iff, identifierIff]
  constructor
  · intro found
    obtain ⟨_, stored, rfl, filled⟩ := found
    exact ⟨stored, filled⟩
  · intro found
    exact ⟨_, found.1, rfl, found.2⟩

theorem itemsAtIff {value item : Json} {key : String} :
    item ∈ Document.itemsAt value key ↔
      ∃ items, value.get? key = some (.arr items) ∧ item ∈ items := by
  unfold Document.itemsAt
  cases value.get? key with
  | none => simp
  | some stored => cases stored <;> simp [Json.items?]

/- The path names the policy under the key for its kind. The empty text names nothing. -/
def Names (path : Json) (kind : Kind) (id : String) : Prop :=
  id ≠ "" ∧ match kind with
  | .aclPolicies => path.get? "acl_profile" = some (.str id)
  | .wafPolicies => path.get? "waf_profile" = some (.str id)
  | .rateLimits => ∃ limits, path.get? "limit_ids" = some (.arr limits) ∧ .str id ∈ limits
  | .tagRules | .urlMaps | .flowControl => False

theorem memberIds {kind : Kind} {path : Json} {id : String} :
    id ∈ idsOf kind path ↔ Names path kind id := by
  cases kind with
  | aclPolicies | wafPolicies => exact (Option.mem_toList.trans idAtIff).trans and_comm
  | rateLimits =>
    simp only [idsOf, Names, List.mem_filterMap, itemsAtIff, identifierIff]
    constructor
    · intro found
      obtain ⟨_, ⟨limits, stored, member⟩, rfl, filled⟩ := found
      exact ⟨filled, limits, stored, member⟩
    · intro found
      obtain ⟨filled, limits, stored, member⟩ := found
      exact ⟨_, ⟨limits, stored, member⟩, rfl, filled⟩
  | tagRules | urlMaps | flowControl => simp [idsOf, Names]

theorem namedReferenced {kind : Kind} {path : Json} {id : String} (named : Names path kind id) :
    kind.isReferenced = true := by
  cases kind with
  | aclPolicies | wafPolicies | rateLimits => rfl
  | tagRules | urlMaps | flowControl => exact named.2.elim

end Reference

end PolicySearch
