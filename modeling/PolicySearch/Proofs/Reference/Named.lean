import Mathlib.Data.List.Basic
import PolicySearch.Proofs.FirstSeen
import PolicySearch.Proofs.Reference.Paths
import PolicySearch.Reference.Links
import PolicySearch.Reference.Uses
/-! What URL maps name, and who names a policy, said for one URL map and for one policy alone. Each
id or name stands once, where it is met first. The links of a URL map and the table of all uses are
collected in passes over the paths; here they are compared with these lists. -/
namespace PolicySearch

namespace Reference

/- The policies of a kind that a URL map names. -/
def named (kind : Kind) (urlMap : Json) : List String :=
  ((paths urlMap).flatMap (idsOf kind)).eraseDups

/- The names of the paths that name a policy. -/
def users (urlMaps : List Json) (policy : Policy) : List String :=
  (((urlMaps.flatMap paths).filter fun path => policy.id ∈ idsOf policy.kind path).filterMap
    (idAt "name")).eraseDups

theorem memberNamed {kind : Kind} {urlMap : Json} {id : String} :
    id ∈ named kind urlMap ↔ ∃ path ∈ paths urlMap, Names path kind id := by
  simp only [named, List.mem_eraseDups, List.mem_flatMap, memberIds]

theorem memberUsers {urlMaps : List Json} {policy : Policy} {name : String} :
    name ∈ users urlMaps policy ↔
      ∃ urlMap ∈ urlMaps, ∃ path ∈ paths urlMap,
        Names path policy.kind policy.id ∧ idAt "name" path = some name := by
  simp only [users, List.mem_eraseDups, List.mem_filterMap, List.mem_filter, List.mem_flatMap,
    decide_eq_true_eq, memberIds]
  constructor
  · intro found
    obtain ⟨path, ⟨⟨urlMap, stored, member⟩, uses⟩, called⟩ := found
    exact ⟨urlMap, stored, path, member, uses, called⟩
  · intro found
    obtain ⟨urlMap, stored, path, member, uses, called⟩ := found
    exact ⟨path, ⟨⟨urlMap, stored, member⟩, uses⟩, called⟩

/- A profile that all entries keep in one field is read under one key of all paths. -/
theorem profilesOfPaths (urlMap : Json) {key : String} {get : Entry → Option String}
    (same : ∀ path, get (entryOf path) = idAt key path) :
    ((paths urlMap).map entryOf).filterMap get =
      (paths urlMap).flatMap fun path => (idAt key path).toList := by
  rw [List.filterMap_map, List.filterMap_eq_flatMap_toList]
  exact List.flatMap_congr fun path _ => congrArg Option.toList (same path)

end Reference

open Reference

theorem Links.ofUrlMapNamed (urlMap : Json) :
    Links.ofUrlMap urlMap =
      ⟨named .aclPolicies urlMap, named .wafPolicies urlMap, named .rateLimits urlMap⟩ := by
  obtain ⟨acl, waf, limits⟩ := visitAll ((paths urlMap).map entryOf) .none
  have ownAcl := profilesOfPaths urlMap fun _ => (rfl : (entryOf _).acl = idAt "acl_profile" _)
  have ownWaf := profilesOfPaths urlMap fun _ => (rfl : (entryOf _).waf = idAt "waf_profile" _)
  unfold ofUrlMap
  simp only [entriesOfPaths, acl, waf, limits]
  rw [ownAcl, ownWaf, List.flatMap_map]
  simp only [named, ← firstSeenEraseDups]
  rfl

namespace Uses

theorem recordAllUsers (policies : List Policy) (uses : Uses) (name : String) (policy : Policy) :
    (policies.foldl (record · name ·) uses).users policy =
      if policy ∈ policies then appendNew (uses.users policy) name else uses.users policy := by
  induction policies generalizing uses with
  | nil => rfl
  | cons first rest ih =>
    rw [List.foldl_cons, ih, recordUsers]
    by_cases same : policy = first
    · -- a path that names the policy again adds its name to it no second time
      rw [if_pos same, ← same, appendNewTwice, ite_self, if_pos List.mem_cons_self]
    · rw [if_neg same]
      simp only [List.mem_cons, same, false_or]

theorem visitUsers (uses : Uses) (e : Entry) (policy : Policy) :
    (uses.visit e).users policy =
      if policy ∈ e.policies then e.name.toList.foldl appendNew (uses.users policy)
      else uses.users policy := by
  unfold visit
  cases e.name with
  | none => simp
  | some name => exact recordAllUsers e.policies uses name policy

theorem visitAllUsers (entries : List Entry) (uses : Uses) (policy : Policy) :
    (entries.foldl visit uses).users policy =
      ((entries.filter fun e => policy ∈ e.policies).filterMap Entry.name).foldl appendNew
        (uses.users policy) := by
  induction entries generalizing uses with
  | nil => rfl
  | cons e rest ih =>
    rw [List.foldl_cons, ih, visitUsers]
    by_cases uses : policy ∈ e.policies
    · rw [if_pos uses, List.filter_cons_of_pos (by simpa using uses)]
      cases name : e.name <;> simp [name]
    · rw [if_neg uses, List.filter_cons_of_neg (by simpa using uses)]

theorem ofUrlMapsUsers (urlMaps : List Json) (policy : Policy) :
    (ofUrlMaps urlMaps).users policy = Reference.users urlMaps policy := by
  have entries : urlMaps.flatMap Entry.all = (urlMaps.flatMap paths).map entryOf := by
    rw [List.map_flatMap]
    exact List.flatMap_congr fun urlMap _ => entriesOfPaths urlMap
  unfold ofUrlMaps Reference.users
  rw [visitAllUsers, emptyUsers, entries, List.filter_map, List.filterMap_map,
    ← firstSeenEraseDups]
  refine congrArg firstSeen ?_
  have same : ∀ path, decide (policy ∈ (entryOf path).policies) =
      decide (policy.id ∈ idsOf policy.kind path) := fun path => by
    rw [decide_eq_decide]
    exact policiesOfPath
  simp only [Function.comp_def, same]
  rfl

end Uses

end PolicySearch
