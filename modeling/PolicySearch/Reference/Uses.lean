import PolicySearch.Reference.Entry
import PolicySearch.Reference.IdSet
import Std.Data.HashMap
/-! For every policy the names of the URL map paths that use it, collected in one pass. A path
without a name is left out, and a name stands once, where it is met first. -/
namespace PolicySearch

abbrev Uses := Std.HashMap Policy IdSet

namespace Uses

def users (uses : Uses) (policy : Policy) : List String :=
  (uses[policy]?.map IdSet.toList).getD []

def record (uses : Uses) (name : String) (policy : Policy) : Uses :=
  uses.insert policy ((uses[policy]?.getD .empty).add name)

def visit (uses : Uses) (e : Entry) : Uses :=
  match e.name with
  | none => uses
  | some name => e.policies.foldl (record · name ·) uses

def ofUrlMaps (urlMaps : List Json) : Uses := (urlMaps.flatMap Entry.all).foldl visit ∅

def sorted (uses : Uses) : List (Policy × List String) :=
  let before (a b : Policy) : Bool :=
    a.kind.word < b.kind.word || (a.kind.word == b.kind.word && !(b.id < a.id))
  (uses.toList.mergeSort fun a b => before a.1 b.1).map fun (policy, names) => (policy, names.toList)

theorem emptyUsers (policy : Policy) : users ∅ policy = [] := by simp [users]

theorem recordUsers (uses : Uses) (name : String) (policy other : Policy) :
    (uses.record name policy).users other =
      if other = policy then appendNew (uses.users policy) name else uses.users other := by
  simp only [users, record, Std.HashMap.getElem?_insert, beq_iff_eq, eq_comm (a := policy)]
  split
  · rename_i same
    subst same
    cases uses[other]? <;> simp [IdSet.addList, IdSet.emptyList]
  · rfl

end Uses

end PolicySearch
