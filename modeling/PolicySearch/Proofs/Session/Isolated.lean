import PolicySearch.Proofs.Index.CrossReferences
import PolicySearch.Proofs.Session.Gathered
/-! A kind whose fetch brings nothing takes its own documents away and leaves those of the other kinds
as they are, with one exception: without the URL maps no policy is known to be used by a path. -/
namespace PolicySearch

/- What is left when nothing comes of these kinds. -/
def Payloads.without (payloads : Payloads) (lost : Kind → Bool) : Payloads :=
  fun kind => if lost kind then [] else payloads kind

namespace Document

/- What is left of a document of another kind. -/
def without (lost : Kind → Bool) (d : Document) : Document :=
  if lost .urlMaps then { d with usedBy := [] } else d

end Document

namespace Index
open Reference

theorem connectUnused (urlMaps : List Json) (raw : Json) {kind : Kind} (other : kind ≠ .urlMaps) :
    connect (Uses.ofUrlMaps []) (Document.normalize raw kind) =
      { connect (Uses.ofUrlMaps urlMaps) (Document.normalize raw kind) with usedBy := [] } := by
  cases referenced : kind.isReferenced with
  | true =>
    rw [connectPolicy [] raw referenced, connectPolicy urlMaps raw referenced]
    rfl
  | false =>
    rw [connectOther _ raw other referenced, connectOther _ raw other referenced]
    rfl

/- A document of a kind that came in is what it is with all kinds, up to the names of paths. -/
theorem connectWithout (payloads : Payloads) (lost : Kind → Bool) (raw : Json) {kind : Kind}
    (kept : lost kind = false) :
    connect (Uses.ofUrlMaps (payloads.without lost .urlMaps)) (Document.normalize raw kind) =
      (connect (Uses.ofUrlMaps (payloads .urlMaps)) (Document.normalize raw kind)).without lost := by
  unfold Payloads.without Document.without
  cases urlMaps : lost .urlMaps with
  | true =>
    have other : kind ≠ .urlMaps := by
      rintro rfl
      rw [urlMaps] at kept
      cases kept
    exact connectUnused (payloads .urlMaps) raw other
  | false => rfl

theorem buildWithout (branch : Option String) (payloads : Payloads) (lost : Kind → Bool) :
    (build branch (payloads.without lost)).documents =
      ((build branch payloads).documents.filter fun d => !lost d.kind).map
        (Document.without lost) := by
  simp only [build, List.filter_flatMap, List.map_flatMap]
  refine List.flatMap_congr fun kind _ => ?_
  have byKind : ((fun d => !lost d.kind) ∘ fun raw =>
      connect (Uses.ofUrlMaps (payloads .urlMaps)) (Document.normalize raw kind)) =
        fun _ => !lost kind := by
    funext raw
    rw [Function.comp_apply, (connectFrame _ _).2.1]
    rfl
  rw [List.filter_map, byKind, List.map_map]
  cases gone : lost kind with
  | true =>
    have nothing : payloads.without lost kind = [] := if_pos gone
    rw [nothing, Bool.not_true, List.filter_false]
    rfl
  | false =>
    have all : payloads.without lost kind = payloads kind := if_neg (Bool.eq_false_iff.1 gone)
    rw [all, Bool.not_false, List.filter_true]
    exact List.map_congr_left fun raw _ => connectWithout payloads lost raw gone

end Index

namespace Session

theorem lossesIsolated (limit : Option Amount) (before : List Event) (event : Event)
    (generation : Nat) (branch : String) (payloads : Payloads) (failing : Kind → Bool)
    (outcome : Kind → Outcome)
    (begun : ((state limit before).effect event).begun =
      some { generation := generation, branch := branch })
    (kept : ∀ kind, failing kind = false →
      (fresh limit).effective (outcome kind) = .answered (.arr (payloads kind)))
    (lost : ∀ kind, failing kind = true →
      ((fresh limit).effective (outcome kind)).lost = true)
    (after : List Event) (order : List Kind) (all : order.Perm Kind.all)
    (told : reports generation after = Kind.reported outcome order) :
    ∃ r ∈ rebuilds limit (before ++ [event] ++ after), r.generation = generation ∧
      r.complete = true ∧ r.index.branch = (Index.build (some branch) payloads).branch ∧
      r.index.documents =
        ((Index.build (some branch) payloads).documents.filter fun d => !failing d.kind).map
          fun d => if failing .urlMaps then { d with usedBy := [] } else d := by
  obtain ⟨r, member, same, named, known⟩ := builtAfter begun all told
  have items : (fun kind => ((fresh limit).effective (outcome kind)).items) =
      payloads.without failing := by
    funext kind
    unfold Payloads.without
    split
    · rename_i fails
      exact Outcome.lostItems (lost kind fails)
    · rename_i comes
      rw [kept kind (Bool.eq_false_iff.2 comes)]
      rfl
  have index : r.index = Index.build (some branch) (payloads.without failing) := by
    rw [Rebuild.indexKnown known, named, items]
  refine ⟨r, member, same, Rebuild.completeIff.2 fun kind => by rw [known kind]; rfl, ?_, ?_⟩
  · rw [index]
    rfl
  · rw [index]
    exact Index.buildWithout (some branch) payloads failing

/- The shop answers, but for its URL maps. -/
def shopSlow : Kind → Outcome
  | .urlMaps => .timedOut
  | kind => .answered (.arr (Index.shop kind))

theorem lossOfUrlMaps :
    let listing : Event := .load (.ok (.arr [.obj [("id", .str "a")]]))
    (∃ d ∈ (Index.build (some "a") Index.shop).documents, d.usedBy = ["home"]) ∧
      ∃ r ∈ rebuilds none
          ([listing] ++ Kind.all.map fun kind => .fetched 1 kind (shopSlow kind)),
        r.complete = true ∧
          r.index.documents = [Document.normalize Index.onePolicy .aclPolicies] := by
  have begun : ((state none []).effect (.load (.ok (.arr [.obj [("id", .str "a")]])))).begun =
      some { generation := 1, branch := "a" } := by decide +kernel
  obtain ⟨r, member, _, complete, _, documents⟩ :=
    lossesIsolated none [] _ 1 "a" Index.shop (· == .urlMaps) shopSlow begun
      (fun kind kept => by cases kind <;> first | rfl | cases kept)
      (fun kind lost => by obtain rfl := beq_iff_eq.1 lost; rfl)
      (Kind.all.map fun kind => .fetched 1 kind (shopSlow kind)) Kind.all (List.Perm.refl _) rfl
  have used : (Index.connect (Uses.ofUrlMaps [Index.shopMap])
      (Document.normalize Index.onePolicy .aclPolicies)).usedBy = ["home"] := by
    rw [Index.connectPolicy _ _ rfl]
    decide
  exact ⟨⟨_, List.mem_cons_self, used⟩, r, member, complete, documents.trans (by decide +kernel)⟩

end Session

end PolicySearch
