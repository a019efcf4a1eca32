import PolicySearch.Document.Normal
import Std.Data.HashSet
/-! A set of ids that keeps the order in which they came. A hash set beside the list answers
whether an id is known. Values that are no id are passed over. -/
namespace PolicySearch

structure IdSet where
  /-- The newest id comes first. -/
  ids : List String
  known : Std.HashSet String
  inStep : ∀ id, id ∈ known ↔ id ∈ ids
  nodup : ids.Nodup

structure Compound where
  value : Json
  deriving DecidableEq, Repr

def Compound.message (e : Compound) : String := "unhashable type: '" ++ e.value.typeName ++ "'"

namespace IdSet

def empty : IdSet := ⟨[], ∅, by simp, List.nodup_nil⟩

def add (s : IdSet) (id : String) : IdSet :=
  if fresh : id ∈ s.known then s
  else
    { ids := id :: s.ids
      known := s.known.insert id
      inStep := fun other => by
        simp only [Std.HashSet.mem_insert, s.inStep, List.mem_cons, beq_iff_eq]
        exact or_congr_left eq_comm
      nodup := List.nodup_cons.2 ⟨fun inside => fresh ((s.inStep id).2 inside), s.nodup⟩ }

def offer (s : IdSet) (value : Json) : IdSet := (value.identifier?.map s.add).getD s

def toList (s : IdSet) : List String := s.ids.reverse

def size (s : IdSet) : Nat := s.ids.length

def contains (s : IdSet) (id : String) : Bool := s.known.contains id

def ofList (ids : List String) : IdSet := ids.foldl add empty

/-- Whether a value is in the set; lists and objects cannot be looked up. -/
def holds (s : IdSet) : Json → Except Compound Bool
  | .str id => .ok (s.contains id)
  | .arr items => .error ⟨.arr items⟩
  | .obj members => .error ⟨.obj members⟩
  | _ => .ok false

theorem emptyList : empty.toList = [] := rfl

theorem containsIff {s : IdSet} {id : String} : s.contains id = true ↔ id ∈ s.toList := by
  simp [contains, toList, Std.HashSet.contains_iff_mem, s.inStep]

theorem addList (s : IdSet) (id : String) : (s.add id).toList = appendNew s.toList id := by
  have same : id ∈ s.toList ↔ id ∈ s.known := by simp [s.inStep, toList]
  unfold add appendNew
  simp only [same]
  split <;> simp [toList]

theorem addAllList (ids : List String) (s : IdSet) :
    (ids.foldl add s).toList = ids.foldl appendNew s.toList := by
  induction ids generalizing s with
  | nil => rfl
  | cons id rest ih => simp [ih, addList]

theorem ofListFirstSeen (ids : List String) : (ofList ids).toList = firstSeen ids :=
  addAllList ids empty

theorem sizeIsLength (s : IdSet) : s.size = s.toList.length := by simp [size, toList]

end IdSet

end PolicySearch
