import PolicySearch.Number.Binary64
/-! JSON values. Whole numbers have any size, other numbers are binary64, and an object keeps the
order of its keys. -/
namespace PolicySearch
open Number

inductive Json where
  | null
  | bool (truth : Bool)
  | int (n : Int)
  | float (x : Binary64)
  | str (s : String)
  | arr (items : List Json)
  | obj (members : List (String × Json))
  deriving Repr, Inhabited

namespace Json

mutual
def same : Json → Json → Bool
  | .null, .null => true
  | .bool a, .bool b => a == b
  | .int a, .int b => a == b
  | .float a, .float b => a == b
  | .str a, .str b => a == b
  | .arr a, .arr b => sameItems a b
  | .obj a, .obj b => sameMembers a b
  | _, _ => false

def sameItems : List Json → List Json → Bool
  | [], [] => true
  | a :: as, b :: bs => same a b && sameItems as bs
  | _, _ => false

def sameMembers : List (String × Json) → List (String × Json) → Bool
  | [], [] => true
  | (k, a) :: as, (l, b) :: bs => k == l && same a b && sameMembers as bs
  | _, _ => false
end

mutual
theorem sameEqual : {a b : Json} → same a b = true → a = b
  | .arr _, .arr _, h => congrArg Json.arr (sameItemsEqual (by simpa [same] using h))
  | .obj _, .obj _, h => congrArg Json.obj (sameMembersEqual (by simpa [same] using h))
  | .null, b, h | .bool _, b, h | .int _, b, h | .float _, b, h | .str _, b, h => by
    cases b <;> simp_all [same]
  | .arr _, .null, h | .arr _, .bool _, h | .arr _, .int _, h | .arr _, .float _, h
  | .arr _, .str _, h | .arr _, .obj _, h | .obj _, .null, h | .obj _, .bool _, h
  | .obj _, .int _, h | .obj _, .float _, h | .obj _, .str _, h | .obj _, .arr _, h => by
    simp [same] at h

theorem sameItemsEqual : {as bs : List Json} → sameItems as bs = true → as = bs
  | [], bs, h => by cases bs <;> simp_all [sameItems]
  | _ :: _, [], h => by simp [sameItems] at h
  | _ :: _, _ :: _, h => by
    simp only [sameItems, Bool.and_eq_true] at h
    rw [sameEqual h.1, sameItemsEqual h.2]

theorem sameMembersEqual : {as bs : List (String × Json)} → sameMembers as bs = true → as = bs
  | [], bs, h => by cases bs <;> simp_all [sameMembers]
  | _ :: _, [], h => by simp [sameMembers] at h
  | (_, _) :: _, (_, _) :: _, h => by
    simp only [sameMembers, Bool.and_eq_true, beq_iff_eq] at h
    rw [h.1.1, sameEqual h.1.2, sameMembersEqual h.2]
end

mutual
theorem sameSelf : (a : Json) → same a a = true
  | .null | .bool _ | .int _ | .float _ | .str _ => by simp [same]
  | .arr items => by simp [same, sameItemsSelf items]
  | .obj members => by simp [same, sameMembersSelf members]

theorem sameItemsSelf : (as : List Json) → sameItems as as = true
  | [] => rfl
  | a :: as => by simp [sameItems, sameSelf a, sameItemsSelf as]

theorem sameMembersSelf : (as : List (String × Json)) → sameMembers as as = true
  | [] => rfl
  | (_, a) :: as => by simp [sameMembers, sameSelf a, sameMembersSelf as]
end

theorem sameIff {a b : Json} : same a b = true ↔ a = b :=
  ⟨sameEqual, fun h => h ▸ sameSelf a⟩

instance : DecidableEq Json := fun _ _ => decidable_of_iff _ sameIff

def get? : Json → String → Option Json
  | .obj members, key => members.lookup key
  | _, _ => none

def items? : Json → Option (List Json)
  | .arr items => some items
  | _ => none

def members : Json → List (String × Json)
  | .obj members => members
  | _ => []

def text? : Json → Option String
  | .str s => some s
  | _ => none

/-- Null, false, zero, and the empty text, list or object. -/
def isNothing : Json → Bool
  | .null => true
  | .bool truth => !truth
  | .int n => n == 0
  | .float x => x.isZero
  | .str s => s.isEmpty
  | .arr items => items.isEmpty
  | .obj members => members.isEmpty

/-- A member more: a new key goes last, a known key keeps its place and takes the new value. -/
def insert (key : String) (value : Json) : List (String × Json) → List (String × Json)
  | [] => [(key, value)]
  | (k, v) :: rest => if k = key then (key, value) :: rest else (k, v) :: insert key value rest

def ofMembers (members : List (String × Json)) : Json :=
  .obj (members.foldl (fun known (key, value) => insert key value known) [])

def typeName : Json → String
  | .null => "NoneType"
  | .bool _ => "bool"
  | .int _ => "int"
  | .float _ => "float"
  | .str _ => "str"
  | .arr _ => "list"
  | .obj _ => "dict"

theorem lookupInserted (key : String) (value : Json) (members : List (String × Json)) :
    (insert key value members).lookup key = some value := by
  induction members with
  | nil => simp [insert]
  | cons member rest ih =>
    obtain ⟨k, v⟩ := member
    by_cases h : k = key
    · simp [insert, h]
    · have other : (key == k) = false := by simpa using fun same => h same.symm
      simp [insert, h, List.lookup_cons, other, ih]

theorem lookupOther {key other : String} (value : Json) (members : List (String × Json))
    (ne : other ≠ key) : (insert key value members).lookup other = members.lookup other := by
  induction members with
  | nil => simp [insert, List.lookup_cons, beq_eq_false_iff_ne.2 ne]
  | cons member rest ih =>
    obtain ⟨k, v⟩ := member
    by_cases h : k = key
    · subst h; simp [insert, List.lookup_cons, beq_eq_false_iff_ne.2 ne]
    · simp only [insert, h, if_false, List.lookup_cons, ih]

end Json

end PolicySearch
