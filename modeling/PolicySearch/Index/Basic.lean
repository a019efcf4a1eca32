import PolicySearch.Reference.Links
import PolicySearch.Reference.Uses
/-! The index of a branch: all its documents, kind after kind, each kind in the order in which it
was delivered, with the connections filled in. -/
namespace PolicySearch

structure Index where
  branch : Option String := none
  documents : List Document := []
  deriving DecidableEq, Repr

abbrev Payloads := Kind → List Json

/-- A kind of which nothing was delivered adds nothing. -/
def Payloads.ofDelivered (delivered : Kind → Option (List Json)) : Payloads :=
  fun kind => (delivered kind).getD []

namespace Index

def connect (uses : Uses) (d : Document) : Document :=
  if d.kind = .urlMaps then
    let links := Links.ofUrlMap d.raw
    { d with acl := links.acl, waf := links.waf, rateLimits := links.rateLimits }
  else if d.kind.isReferenced then { d with usedBy := uses.users ⟨d.kind, d.id⟩ }
  else d

def build (branch : Option String) (payloads : Payloads) : Index :=
  let uses := Uses.ofUrlMaps (payloads .urlMaps)
  { branch := branch
    documents := Kind.all.flatMap fun kind =>
      (payloads kind).map fun raw => connect uses (Document.normalize raw kind) }

def size (index : Index) : Nat := index.documents.length

def find? (index : Index) (kind : Kind) (id : String) : Option Document :=
  index.documents.find? fun d => d.kind == kind && d.id == id

def count (index : Index) (kind : Kind) : Nat := index.documents.countP (·.kind == kind)

def counts (index : Index) : List (Kind × Nat) := Kind.all.map fun kind => (kind, index.count kind)

theorem connectFrame (uses : Uses) (d : Document) :
    let c := connect uses d
    c.id = d.id ∧ c.kind = d.kind ∧ c.name = d.name ∧ c.description = d.description ∧
      c.tags = d.tags ∧ c.raw = d.raw := by
  unfold connect
  split
  · simp
  · split <;> simp

theorem foundMatches {index : Index} {kind : Kind} {id : String} {d : Document}
    (found : index.find? kind id = some d) : d.kind = kind ∧ d.id = id ∧ d ∈ index.documents := by
  have hit := List.find?_some found
  simp only [Bool.and_eq_true, beq_iff_eq] at hit
  exact ⟨hit.1, hit.2, List.mem_of_find?_eq_some found⟩

end Index

end PolicySearch
