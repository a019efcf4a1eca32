import PolicySearch.Kind
/-! One document of a branch in the shape that searches read, with the value it was made from. -/
namespace PolicySearch

structure Document where
  id : String
  kind : Kind
  name : String := ""
  description : String := ""
  tags : List String := []
  acl : List String := []
  waf : List String := []
  rateLimits : List String := []
  /-- Names of the URL map paths that use the document. -/
  usedBy : List String := []
  raw : Json := .obj []
  deriving DecidableEq, Repr

namespace Document

def connections (d : Document) : List String := d.acl ++ d.waf ++ d.rateLimits ++ d.usedBy

theorem memberConnections {d : Document} {s : String} :
    s ∈ d.connections ↔ s ∈ d.acl ∨ s ∈ d.waf ∨ s ∈ d.rateLimits ∨ s ∈ d.usedBy := by
  simp [connections]

end Document

end PolicySearch
