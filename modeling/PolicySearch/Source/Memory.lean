import PolicySearch.Session.Rebuild
/-! A configuration service held in memory: a listing, stored values by branch and kind, faults
that take their place, and fetches that are held back. -/
namespace PolicySearch

structure MemorySource where
  branches : Json := .arr []
  listFault : Option Fault := none
  stored : List ((String × Kind) × Json) := []
  /-- Faults of a kind, on one branch or on every branch. -/
  faults : List ((Option String × Kind) × Fault) := []
  held : List (String × Kind) := []
  deriving DecidableEq, Repr

namespace MemorySource

def put {κ β : Type} [DecidableEq κ] (key : κ) (value : β) (table : List (κ × β)) : List (κ × β) :=
  (key, value) :: table.filter fun row => row.1 ≠ key

def drop {κ β : Type} [DecidableEq κ] (key : κ) (table : List (κ × β)) : List (κ × β) :=
  table.filter fun row => row.1 ≠ key

def store (m : MemorySource) (branch : String) (kind : Kind) (payload : Json) : MemorySource :=
  { m with stored := put (branch, kind) payload m.stored }

def fail (m : MemorySource) (branch : Option String) (kind : Kind) (fault : Fault) : MemorySource :=
  { m with faults := put (branch, kind) fault m.faults }

def mend (m : MemorySource) (branch : Option String) (kind : Kind) : MemorySource :=
  { m with faults := drop (branch, kind) m.faults }

def hold (m : MemorySource) (branch : String) (kind : Kind) : MemorySource :=
  { m with held := (branch, kind) :: m.held }

def release (m : MemorySource) (branch : String) (kind : Kind) : MemorySource :=
  { m with held := m.held.filter (· ≠ (branch, kind)) }

def holds (m : MemorySource) (branch : String) (kind : Kind) : Bool := m.held.contains (branch, kind)

def listing (m : MemorySource) : Except Fault Json :=
  match m.listFault with
  | some fault => .error fault
  | none => .ok m.branches

/-- A fault of the branch itself comes before one of every branch. -/
def fault? (m : MemorySource) (branch : String) (kind : Kind) : Option Fault :=
  (m.faults.lookup (some branch, kind)).or (m.faults.lookup (none, kind))

def fetch (m : MemorySource) (branch : String) (kind : Kind) : Outcome :=
  match m.fault? branch kind with
  | some fault => .failed fault
  | none => .answered ((m.stored.lookup (branch, kind)).getD (.arr []))

end MemorySource

end PolicySearch
