import PolicySearch.Reference.Entry
import PolicySearch.Reference.IdSet
/-! The policies that a URL map points at. Every id stands once, where it is named first. Whether
a profile is switched on does not matter: an inactive one is still named. -/
namespace PolicySearch

structure Links where
  acl : List String
  waf : List String
  rateLimits : List String
  deriving DecidableEq, Repr

namespace Links

structure Found where
  acl : IdSet
  waf : IdSet
  rateLimits : IdSet

def Found.none : Found := ⟨.empty, .empty, .empty⟩

def Found.visit (found : Found) (e : Entry) : Found where
  acl := e.acl.toList.foldl IdSet.add found.acl
  waf := e.waf.toList.foldl IdSet.add found.waf
  rateLimits := e.limits.foldl IdSet.add found.rateLimits

def ofUrlMap (urlMap : Json) : Links :=
  let found := (Entry.all urlMap).foldl Found.visit .none
  ⟨found.acl.toList, found.waf.toList, found.rateLimits.toList⟩

theorem visitAll (entries : List Entry) (found : Found) :
    let last := entries.foldl Found.visit found
    last.acl.toList = (entries.filterMap Entry.acl).foldl appendNew found.acl.toList ∧
    last.waf.toList = (entries.filterMap Entry.waf).foldl appendNew found.waf.toList ∧
    last.rateLimits.toList = (entries.flatMap Entry.limits).foldl appendNew found.rateLimits.toList := by
  induction entries generalizing found with
  | nil => exact ⟨rfl, rfl, rfl⟩
  | cons e rest ih =>
    obtain ⟨acl, waf, limits⟩ := ih (found.visit e)
    refine ⟨?_, ?_, ?_⟩
    · rw [List.foldl_cons, acl]
      cases h : e.acl <;> simp [Found.visit, h, IdSet.addList]
    · rw [List.foldl_cons, waf]
      cases h : e.waf <;> simp [Found.visit, h, IdSet.addList]
    · rw [List.foldl_cons, limits]
      simp [Found.visit, IdSet.addAllList, List.foldl_append]

end Links

end PolicySearch
