import Mathlib.Data.List.Nodup
import Mathlib.Logic.Relation
import PolicySearch.Proofs.FirstSeen
import PolicySearch.Proofs.Reference.Paths
/-! The tags of a document beside the lists that they come from: the strings of those lists, each once,
in the order of the kind's own keys and of the items. The order of the members of the stored value does
not count, and neither do items that are no strings, empty ones, and those that were there before. -/
namespace PolicySearch

variable {raw other value : Json} {kind : Kind} {key text : String}
  {members others : List (String × Json)}

namespace Json

/- The members of an object have different keys, so a look-up finds every one of them. -/
theorem lookupMember (distinct : (members.map Prod.fst).Nodup) :
    members.lookup key = some value ↔ (key, value) ∈ members := by
  induction members with
  | nil => simp
  | cons member rest ih =>
    obtain ⟨k, v⟩ := member
    obtain ⟨apart, later⟩ := List.nodup_cons.1 distinct
    rw [List.lookup_cons, List.mem_cons, Prod.mk.injEq]
    by_cases same : key = k
    · subst same
      have absent : (key, value) ∉ rest := fun inside => apart (List.mem_map.2 ⟨_, inside, rfl⟩)
      simp [absent, eq_comm]
    · rw [beq_eq_false_iff_ne.2 same]
      simp [same, ih later]

theorem lookupReordered (distinct : (members.map Prod.fst).Nodup) (reordered : members.Perm others)
    (key : String) : others.lookup key = members.lookup key := by
  have still : (others.map Prod.fst).Nodup := (reordered.map Prod.fst).nodup_iff.1 distinct
  refine Option.ext fun value => ?_
  rw [lookupMember still, lookupMember distinct, reordered.mem_iff]

/- The strings of a list, without empty ones; anything else than a list has none. -/
def textsOf : Option Json → List String
  | some (.arr items) => (items.filterMap text?).filter (· ≠ "")
  | _ => []

theorem textsOfItems (items : List Json) :
    textsOf (some (.arr items)) = items.filterMap identifier? := by
  induction items with
  | nil => rfl
  | cons item rest ih =>
    simp only [textsOf, List.filterMap_cons] at ih ⊢
    cases item with
    | str s => by_cases empty : s = "" <;> simp [text?, identifier?, empty, ← ih]
    | _ => exact ih

theorem memberTexts {items : List Json} :
    text ∈ textsOf (some (.arr items)) ↔ .str text ∈ items ∧ text ≠ "" := by
  rw [textsOfItems, List.mem_filterMap]
  constructor
  · rintro ⟨item, inside, found⟩
    obtain ⟨rfl, filled⟩ := Reference.identifierIff.1 found
    exact ⟨inside, filled⟩
  · exact fun ⟨inside, filled⟩ => ⟨.str text, inside, Reference.identifierIff.2 ⟨rfl, filled⟩⟩

end Json

namespace Document
open Json (textsOf)

theorem textsAt (raw : Json) (key : String) :
    (itemsAt raw key).filterMap Json.identifier? = textsOf (raw.get? key) := by
  unfold itemsAt
  cases raw.get? key with
  | none => rfl
  | some stored =>
    cases stored with
    | arr items => exact (Json.textsOfItems items).symm
    | _ => rfl

theorem tagsListed (raw : Json) (kind : Kind) :
    tagsOf raw kind = firstSeen (kind.tagKeys.flatMap fun key => textsOf (raw.get? key)) := by
  rw [tagsOf, List.filterMap_flatMap]
  simp only [textsAt]

theorem tagKeysDistinct (kind : Kind) : kind.tagKeys.Nodup := by cases kind <;> decide

/- A change of the stored value that brings no tag. Its members are put in another order, or an item
is put into one of the lists for tags: one that is no string, an empty one, or a text that is in the list
of an earlier key or earlier in the same list. -/
inductive IdleChange (kind : Kind) : Json → Json → Prop where
  | reordered {members others : List (String × Json)} (distinct : (members.map Prod.fst).Nodup)
      (reordered : members.Perm others) : IdleChange kind (.obj members) (.obj others)
  | inserted {members : List (String × Json)} {before after : List String} {key : String}
      {front back : List Json} {value : Json} (keys : kind.tagKeys = before ++ key :: after)
      (stored : members.lookup key = some (.arr (front ++ back)))
      (idle : ∀ text, value = .str text → text = "" ∨ .str text ∈ front ∨
        ∃ known ∈ before, text ∈ textsOf (members.lookup known)) :
      IdleChange kind (.obj members)
        (.obj (Json.insert key (.arr (front ++ value :: back)) members))

theorem insertedTags {before after : List String} {front back : List Json}
    (keys : kind.tagKeys = before ++ key :: after)
    (stored : members.lookup key = some (.arr (front ++ back)))
    (idle : ∀ text, value = .str text → text = "" ∨ .str text ∈ front ∨
      ∃ known ∈ before, text ∈ textsOf (members.lookup known)) :
    tagsOf (.obj (Json.insert key (.arr (front ++ value :: back)) members)) kind =
      tagsOf (.obj members) kind := by
  have distinct := tagKeysDistinct kind
  rw [keys] at distinct
  obtain ⟨_, tail, disjoint⟩ := List.nodup_append.1 distinct
  have first : key ∉ before := fun inside => disjoint key inside key List.mem_cons_self rfl
  have last : key ∉ after := (List.nodup_cons.1 tail).1
  have kept (known : List String) (absent : key ∉ known) :
      (known.flatMap fun k => textsOf
        ((Json.insert key (.arr (front ++ value :: back)) members).lookup k)) =
      known.flatMap fun k => textsOf (members.lookup k) :=
    List.flatMap_congr fun k inside => congrArg textsOf
      (Json.lookupOther _ _ fun same => absent (same ▸ inside))
  rw [tagsListed, tagsListed, keys]
  simp only [Json.get?, List.flatMap_append, List.flatMap_cons, kept before first, kept after last,
    Json.lookupInserted, stored, Json.textsOfItems, List.filterMap_append, List.filterMap_cons]
  cases given : value.identifier? with
  | none => rfl
  | some text =>
    obtain ⟨rfl, filled⟩ := Reference.identifierIff.1 given
    have seen : text ∈ (before.flatMap fun k => textsOf (members.lookup k)) ++
        front.filterMap Json.identifier? := by
      rcases idle text rfl with empty | item | ⟨known, early, inside⟩
      · exact absurd empty filled
      · exact List.mem_append_right _ (List.mem_filterMap.2 ⟨_, item, given⟩)
      · exact List.mem_append_left _ (List.mem_flatMap.2 ⟨known, early, inside⟩)
    have again := firstSeenAgain seen (back.filterMap Json.identifier? ++
      after.flatMap fun k => textsOf (members.lookup k))
    simpa only [List.append_assoc, List.cons_append] using again

theorem idleTags (idle : IdleChange kind raw other) : tagsOf other kind = tagsOf raw kind := by
  cases idle with
  | reordered distinct reordered =>
    rw [tagsListed, tagsListed]
    simp only [Json.get?, Json.lookupReordered distinct reordered]
  | inserted keys stored idle => exact insertedTags keys stored idle

theorem idleTagsAll (idle : Relation.ReflTransGen (IdleChange kind) raw other) :
    tagsOf other kind = tagsOf raw kind := by
  induction idle with
  | refl => rfl
  | tail _ change ih => exact (idleTags change).trans ih

/- The tags that a value is brought to. -/
structure Tagged (raw : Json) (kind : Kind) (tags : List String) : Prop where
  listed : tags = (kind.tagKeys.flatMap fun key => textsOf (raw.get? key)).eraseDups
  inside : ∀ text, text ∈ tags ↔ text ≠ "" ∧
    ∃ key ∈ kind.tagKeys, ∃ items, raw.get? key = some (.arr items) ∧ .str text ∈ items
  distinct : tags.Nodup
  steady : ∀ other, Relation.ReflTransGen (IdleChange kind) raw other →
    (normalize other kind).tags = tags

theorem memberTags : text ∈ tagsOf raw kind ↔ text ≠ "" ∧
    ∃ key ∈ kind.tagKeys, ∃ items, raw.get? key = some (.arr items) ∧ .str text ∈ items := by
  rw [tagsListed, memberFirstSeen, List.mem_flatMap]
  constructor
  · rintro ⟨key, listed, found⟩
    cases stored : raw.get? key with
    | none => rw [stored] at found; cases found
    | some held =>
      rw [stored] at found
      cases held with
      | arr items =>
        obtain ⟨inside, filled⟩ := Json.memberTexts.1 found
        exact ⟨filled, key, listed, items, stored, inside⟩
      | _ => cases found
  · rintro ⟨filled, key, listed, items, stored, inside⟩
    exact ⟨key, listed, stored ▸ Json.memberTexts.2 ⟨inside, filled⟩⟩

theorem tagsCollected (raw : Json) (kind : Kind) : Tagged raw kind (normalize raw kind).tags where
  listed := (tagsListed raw kind).trans (firstSeenEraseDups _)
  inside _ := memberTags
  distinct := tagsDistinct raw kind
  steady _ := idleTagsAll

example :
    let raw : Json := .obj
      [("deny", .arr [.str "tor", .int 3, .str "china"]), ("allow", .arr [.str "china"])]
    (normalize raw .aclPolicies).tags = ["china", "tor"] := by
  decide +kernel

end Document

end PolicySearch
