import PolicySearch.Document.Normal
/-! The paths of a URL map and the policies they name. A path that is no object is passed over,
and so is every name or id that is not a string or is empty. -/
namespace PolicySearch

structure Entry where
  name : Option String
  acl : Option String
  waf : Option String
  limits : List String
  deriving DecidableEq, Repr

namespace Entry

def ofJson? : Json → Option Entry
  | .obj members =>
    let at? (key : String) := (members.lookup key).bind Json.identifier?
    some
      { name := at? "name"
        acl := at? "acl_profile"
        waf := at? "waf_profile"
        limits := (Document.itemsAt (.obj members) "limit_ids").filterMap Json.identifier? }
  | _ => none

def all (urlMap : Json) : List Entry := (Document.itemsAt urlMap "map").filterMap ofJson?

end Entry

structure Policy where
  kind : Kind
  id : String
  deriving DecidableEq, Hashable, Repr

def Entry.policies (e : Entry) : List Policy :=
  (e.acl.map (Policy.mk .aclPolicies)).toList ++ (e.waf.map (Policy.mk .wafPolicies)).toList ++
    e.limits.map (Policy.mk .rateLimits)

theorem Json.identifierFilled {value : Json} {s : String}
    (found : value.identifier? = some s) : s ≠ "" := by
  cases value <;> simp only [Json.identifier?, reduceCtorEq, Option.ite_none_left_eq_some] at found
  obtain ⟨filled, same⟩ := found
  exact fun empty => filled (by simpa [empty] using same)

theorem Json.identifierString {s : String} (filled : s ≠ "") :
    (Json.str s).identifier? = some s := by
  simp [Json.identifier?, filled]

theorem Entry.policiesIff {e : Entry} {p : Policy} :
    p ∈ e.policies ↔
      (p.kind = .aclPolicies ∧ e.acl = some p.id) ∨ (p.kind = .wafPolicies ∧ e.waf = some p.id) ∨
        (p.kind = .rateLimits ∧ p.id ∈ e.limits) := by
  obtain ⟨kind, id⟩ := p
  simp only [policies, List.append_assoc, List.mem_append, Option.mem_toList, Option.map_eq_some_iff,
    List.mem_map, Policy.mk.injEq]
  constructor
  · rintro (⟨x, h, rfl, rfl⟩ | ⟨x, h, rfl, rfl⟩ | ⟨x, h, rfl, rfl⟩) <;> simp [h]
  · rintro (⟨rfl, h⟩ | ⟨rfl, h⟩ | ⟨rfl, h⟩) <;> simp [h]

end PolicySearch
