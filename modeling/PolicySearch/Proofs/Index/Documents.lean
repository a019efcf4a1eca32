import Mathlib.Algebra.BigOperators.Group.List.Lemmas
import Mathlib.Algebra.Ring.Nat
import PolicySearch.Proofs.Index.CrossReferences
/-! The documents of an index: one for each value that was delivered, kind after kind, and in each kind in
the order of delivery. The counts and the look-ups go through the documents as they stand, so they too
tell what was delivered. -/
namespace PolicySearch.Index

def ofKind (index : Index) (kind : Kind) : List Document := index.documents.filter (·.kind == kind)

theorem countOfKind (index : Index) (kind : Kind) :
    index.count kind = (index.ofKind kind).length := List.countP_eq_length_filter

theorem findOfKind (index : Index) (kind : Kind) (id : String) :
    index.find? kind id = (index.ofKind kind).find? (·.id == id) := by
  simp only [find?, ofKind, List.find?_filter, Bool.decide_and, Bool.decide_eq_true]

theorem findFirst {index : Index} {kind : Kind} {id : String} {d : Document} :
    index.find? kind id = some d ↔
      ∃ before after, index.ofKind kind = before ++ d :: after ∧ d.id = id ∧
        ∀ other ∈ before, other.id ≠ id := by
  rw [findOfKind, List.find?_eq_some_iff_append]
  constructor
  · intro found
    obtain ⟨named, before, after, split, others⟩ := found
    exact ⟨before, after, split, eq_of_beq named, fun other earlier => by simpa using others other earlier⟩
  · intro found
    obtain ⟨before, after, split, named, others⟩ := found
    exact ⟨beq_iff_eq.2 named, before, after, split,
      fun other earlier => by simpa using others other earlier⟩

/- Every document is counted, and under one kind only. -/
theorem countsSum (index : Index) : (index.counts.map Prod.snd).sum = index.size := by
  obtain ⟨branch, documents⟩ := index
  simp only [counts, count, size, List.map_map, Function.comp_def]
  induction documents with
  | nil => rfl
  | cons d rest ih =>
    have once : (Kind.all.map fun kind => if d.kind == kind then 1 else 0).sum = 1 := by
      cases d.kind <;> rfl
    simp only [List.countP_cons, List.sum_map_add]
    rw [ih, once, List.length_cons]

/- The document that a value makes, among all that was delivered. -/
abbrev made (payloads : Payloads) (kind : Kind) (raw : Json) : Document :=
  connect (Uses.ofUrlMaps (payloads .urlMaps)) (Document.normalize raw kind)

section Built
variable (branch : Option String) (payloads : Payloads) (kind : Kind) (raw : Json)

theorem madeKind : (made payloads kind raw).kind = kind := (connectFrame _ _).2.1

theorem madeId : (made payloads kind raw).id = Document.textAt raw "id" := (connectFrame _ _).1

theorem madeRaw : (made payloads kind raw).raw = raw := (connectFrame _ _).2.2.2.2.2

theorem ofKindBuilt :
    (build branch payloads).ofKind kind = (payloads kind).map (made payloads kind) := by
  have piece (other : Kind) :
      ((payloads other).map (made payloads other)).filter (·.kind == kind) =
        if other = kind then (payloads kind).map (made payloads kind) else [] := by
    have alike : ((·.kind == kind) ∘ made payloads other) = fun _ => other == kind := by
      funext raw
      rw [Function.comp_apply, madeKind]
    rw [List.filter_map, alike]
    split
    · rename_i same
      subst same
      simp only [beq_self_eq_true, List.filter_true]
    · rename_i different
      simp only [beq_eq_false_iff_ne.2 different, List.filter_false, List.map_nil]
  simp only [ofKind, build, List.filter_flatMap, piece]
  generalize (payloads kind).map _ = found
  cases kind <;> simp [Kind.all]

theorem findBuilt (id : String) : (build branch payloads).find? kind id =
    ((payloads kind).find? fun raw => Document.textAt raw "id" == id).map (made payloads kind) := by
  have named : ((·.id == id) ∘ made payloads kind) = fun raw => Document.textAt raw "id" == id := by
    funext raw
    rw [Function.comp_apply, madeId]
  rw [findOfKind, ofKindBuilt, List.find?_map, named]

theorem missingBuilt (id : String) : (build branch payloads).find? kind id = none ↔
    ∀ raw ∈ payloads kind, (Document.normalize raw kind).id ≠ id := by
  rw [findBuilt, Option.map_eq_none_iff, List.find?_eq_none]
  simp only [beq_iff_eq]
  rfl

theorem countBuilt : (build branch payloads).count kind = (payloads kind).length := by
  rw [countOfKind, ofKindBuilt, List.length_map]

theorem listedBuilt : ((build branch payloads).documents.map fun d => (d.kind, d.raw)) =
    Kind.all.flatMap fun kind => (payloads kind).map fun raw => (kind, raw) := by
  simp only [build, List.map_flatMap, List.map_map, Function.comp_def, madeKind, madeRaw]

theorem rawsBuilt : ((build branch payloads).ofKind kind).map Document.raw = payloads kind := by
  rw [ofKindBuilt, List.map_map]
  simp only [Function.comp_def, madeRaw, List.map_id_fun', id]

end Built

/- The index holds what was delivered: every value once, in its place, as the document it makes. -/
structure Holds (delivered : Kind → Option (List Json)) (index : Index) : Prop where
  listed : (index.documents.map fun d => (d.kind, d.raw)) =
    Kind.all.flatMap fun kind => ((delivered kind).getD []).map fun raw => (kind, raw)
  normal : ∀ d ∈ index.documents,
    let plain := Document.normalize d.raw d.kind
    d.id = plain.id ∧ d.name = plain.name ∧ d.description = plain.description ∧ d.tags = plain.tags
  counts : index.counts = Kind.all.map fun kind => (kind, ((delivered kind).getD []).length)
  sum : (index.counts.map Prod.snd).sum = index.size
  order : ∀ kind, (index.ofKind kind).map Document.raw = (delivered kind).getD []
  first : ∀ kind id d, index.find? kind id = some d ↔
    ∃ before after, index.ofKind kind = before ++ d :: after ∧ d.id = id ∧
      ∀ other ∈ before, other.id ≠ id
  missing : ∀ kind id, index.find? kind id = none ↔
    ∀ raw ∈ (delivered kind).getD [], (Document.normalize raw kind).id ≠ id

theorem holdsDelivered (branch : Option String) (delivered : Kind → Option (List Json)) :
    Holds delivered (build branch (.ofDelivered delivered)) where
  listed := listedBuilt branch _
  normal := by
    intro d member
    obtain ⟨kind, raw, _, rfl⟩ := memberBuilt.1 member
    obtain ⟨sameId, sameKind, sameName, sameDescription, sameTags, sameRaw⟩ :=
      connectFrame (Uses.ofUrlMaps (Payloads.ofDelivered delivered .urlMaps))
        (Document.normalize raw kind)
    rw [sameKind, sameRaw]
    exact ⟨sameId, sameName, sameDescription, sameTags⟩
  counts := by
    simp only [counts, countBuilt]
    rfl
  sum := countsSum _
  order := rawsBuilt branch _
  first _ _ _ := findFirst
  missing := missingBuilt branch _

end PolicySearch.Index
