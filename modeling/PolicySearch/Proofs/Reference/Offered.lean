import PolicySearch.Proofs.Document.Tags
import PolicySearch.Reference.IdSet
/-! An id set beside the values that were offered to it. The list has their texts without empty ones,
each once, where it came first; the hash set knows the same texts. An offer never fails, though lists
and objects cannot be looked up in the set. -/
namespace PolicySearch

variable {value : Json} {id text : String} {s : IdSet}

namespace IdSet

theorem addSame : s.add id = s ↔ id ∈ s.toList := by
  constructor
  · intro same
    have added : id ∈ (s.add id).toList := by
      rw [addList]
      exact memberAppendNew.2 (.inr rfl)
    rwa [same] at added
  · intro inside
    have known : id ∈ s.known := Std.HashSet.mem_iff_contains.2 (containsIff.2 inside)
    exact dif_pos known

theorem offerNamed (named : value.identifier? = some id) : s.offer value = s.add id := by
  rw [offer, named]
  rfl

theorem offerUnnamed (unnamed : value.identifier? = none) : s.offer value = s := by
  rw [offer, unnamed]
  rfl

/- What leaves a set as it is: a value that is no text, the empty text, and a text that it has. -/
theorem offerSame : s.offer value = s ↔ ∀ text, value = .str text → text = "" ∨ text ∈ s.toList := by
  cases named : value.identifier? with
  | none =>
    refine iff_of_true (offerUnnamed named) fun text stored => .inl ?_
    by_contra filled
    rw [stored, Json.identifierString filled] at named
    cases named
  | some id =>
    obtain ⟨rfl, filled⟩ := Reference.identifierIff.1 named
    rw [offerNamed named, addSame]
    constructor
    · rintro inside _ ⟨⟩
      exact .inr inside
    · exact fun idle => (idle id rfl).resolve_left filled

/- Induction on the values, for every set to start from: the texts among them are added one by one. -/
theorem offerAll (values : List Json) (s : IdSet) :
    values.foldl offer s = (values.filterMap Json.identifier?).foldl add s := by
  induction values generalizing s with
  | nil => rfl
  | cons value rest ih =>
    rw [List.foldl_cons, ih, List.filterMap_cons]
    cases named : value.identifier? with
    | none => rw [offerUnnamed named]
    | some id => rw [offerNamed named, List.foldl_cons]

theorem offeredFirstSeen (values : List Json) :
    (values.foldl offer empty).toList = firstSeen (Json.textsOf (some (.arr values))) := by
  rw [offerAll, Json.textsOfItems]
  exact ofListFirstSeen _

theorem holdsText (s : IdSet) (text : String) :
    s.holds (.str text) = .ok (decide (text ∈ s.toList)) := by
  refine congrArg Except.ok (Bool.eq_iff_iff.2 ?_)
  rw [containsIff, decide_eq_true_eq]

/- An offer by its checks, one after the other: that the value is a text, that it is not empty, and that
the set does not have it. -/
def offerChecked (s : IdSet) (value : Json) : Except Compound IdSet :=
  match value.text? with
  | none => .ok s
  | some text =>
    if text = "" then .ok s
    else do
      if ← s.holds value then return s
      else return s.add text

/- The look-up would fail for a list or an object, but the first check has passed these over. -/
theorem offerUnfailing (s : IdSet) (value : Json) : s.offerChecked value = .ok (s.offer value) := by
  cases value with
  | str text =>
    by_cases bare : text = ""
    · subst bare
      rfl
    · rw [offerNamed (Json.identifierString bare)]
      simp only [offerChecked, Json.text?, if_neg bare, holdsText]
      change (if decide (text ∈ s.toList) then Except.ok s else .ok (s.add text)) = .ok (s.add text)
      split
      · rename_i known
        rw [addSame.2 (of_decide_eq_true known)]
      · rfl
  | null | bool | int | float | arr | obj => rfl

theorem offersUnfailing (values : List Json) (s : IdSet) :
    values.foldlM offerChecked s = .ok (values.foldl offer s) := by
  induction values generalizing s with
  | nil => rfl
  | cons value rest ih =>
    rw [List.foldlM_cons, offerUnfailing]
    exact ih (s.offer value)

/- What the values make of a new set, one after the other. -/
structure Offered (values : List Json) (s : IdSet) : Prop where
  unfailing : values.foldlM offerChecked empty = .ok s
  listed : s.toList = (Json.textsOf (some (.arr values))).eraseDups
  inside : ∀ text, text ∈ s.toList ↔ .str text ∈ values ∧ text ≠ ""
  distinct : s.toList.Nodup
  inStep : ∀ text, s.holds (.str text) = .ok (decide (text ∈ s.toList))
  counted : s.size = (Json.textsOf (some (.arr values))).toFinset.card
  steady : ∀ value, s.offer value = s ↔ ∀ text, value = .str text → text = "" ∨ text ∈ s.toList

theorem keptInStep (values : List Json) : Offered values (values.foldl offer empty) where
  unfailing := offersUnfailing values empty
  listed := by rw [offeredFirstSeen, firstSeenEraseDups]
  inside text := by rw [offeredFirstSeen, memberFirstSeen, Json.memberTexts]
  distinct := by
    rw [offeredFirstSeen]
    exact firstSeenDistinct _
  inStep := holdsText _
  counted := by rw [sizeIsLength, offeredFirstSeen, firstSeenCount]
  steady _ := offerSame

end IdSet

end PolicySearch
