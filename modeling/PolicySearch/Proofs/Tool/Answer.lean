import PolicySearch.Server.Basic
/-! What an answer shows. An answer without a complaint is a page or a document of an index that is
up to date; it names the selected branch, and so do its links. And an answer hangs on nothing of the
session but the selected branch and the index. -/
namespace PolicySearch

namespace ToolAnswer

/- A page or a document of a branch, as it is shown. -/
inductive Of (name : String) : ToolAnswer → Prop where
  | page (page : Page) (branch : page.toJson.get? "branch" = some (.str name))
      (links : ∀ summary ∈ page.results,
        summary.toJson.get? "link" = some (.str (Link.path ⟨name, summary.kind, summary.id⟩))) :
      Of name (.search (.ok page))
  | document (found : Found)
      (link : found.toJson.get? "link" =
        some (.str (Link.path ⟨name, found.summary.kind, found.summary.id⟩))) :
      Of name (.lookup (.ok found))

end ToolAnswer

theorem SearchRefusal.complains (why : SearchRefusal) : why.toJson.get? "error" ≠ none := by
  cases why <;> simp [toJson, BadArgument.toJson, Json.get?]

theorem LookupRefusal.complains (why : LookupRefusal) : why.toJson.get? "error" ≠ none := by
  simp [toJson, Json.get?]

theorem Summary.linkShown (s : Summary) : s.toJson.get? "link" = some (.str s.link.path) := rfl

theorem Found.linkShown (f : Found) : f.toJson.get? "link" = some (.str f.summary.link.path) := rfl

theorem Page.branchShown (p : Page) : p.toJson.get? "branch" = some (.str p.branch) := rfl

namespace Session

variable {s t : Session}

theorem searchableNow {mode : Json} {read : Mode} {branch : String}
    (can : s.searchable mode = .ok (read, branch)) :
    s.isCurrent = true ∧ s.current = some branch := by
  unfold searchable at can
  split at can
  · cases can
  · cases can
  · rename_i selected
    split at can
    · rename_i current
      cases can
      exact ⟨current, selected⟩
    · cases can

/- A page is of the branch that is selected and indexed, and shows what a query finds there. -/
theorem pageAnswered {r : SearchRequest} {page : Page} (answered : s.answerSearch r = .ok page) :
    s.isCurrent = true ∧ s.current = some page.branch ∧
      ∃ query window, page = Window.page window page.branch r.detailed (s.search query) := by
  unfold answerSearch at answered
  split at answered
  · cases answered
  · rename_i can
    obtain ⟨current, selected⟩ := searchableNow can
    split at answered
    · cases answered
    · rename_i query window _
      cases answered
      exact ⟨current, selected, query, window, rfl⟩

/- What a page shows are documents of the index, under the branch that both it and the index name. -/
theorem pageDocuments {r : SearchRequest} {page : Page} (answered : s.answerSearch r = .ok page) :
    s.isCurrent = true ∧ s.current = some page.branch ∧ s.index.branch = some page.branch ∧
      ∀ summary ∈ page.results, ∃ d ∈ s.index.documents,
        summary = Summary.ofDocument page.branch r.detailed d := by
  obtain ⟨current, selected, query, window, shown⟩ := pageAnswered answered
  refine ⟨current, selected, (beq_iff_eq.1 current).trans selected, fun summary member => ?_⟩
  rw [shown] at member
  obtain ⟨d, inside, rfl⟩ := List.mem_map.1 member
  have matched := (Query.filterMember.1 (List.mem_of_mem_drop (List.mem_of_mem_take inside))).1
  rw [visible, if_pos current] at matched
  exact ⟨d, matched, rfl⟩

theorem documentAnswered {r : LookupRequest} {found : Found}
    (answered : s.answerLookup r = .ok found) :
    s.isCurrent = true ∧ ∃ branch, s.current = some branch ∧
      ∃ d ∈ s.index.documents, found = ⟨Summary.ofDocument branch true d, d.raw⟩ := by
  unfold answerLookup at answered
  split at answered
  · cases answered
  · split at answered
    · rename_i branch d indexed known
      cases answered
      split at known
      · rename_i current
        have selected : s.index.branch = s.current := beq_iff_eq.1 current
        obtain ⟨id, _, there⟩ := Option.bind_eq_some_iff.1 known
        exact ⟨current, branch, selected.symm.trans indexed, d, (Index.foundMatches there).2.2, rfl⟩
      · cases known
    · cases answered

theorem lookupFound {r : LookupRequest} {found : Found} (answered : s.answerLookup r = .ok found) :
    s.isCurrent = true ∧ ∃ branch, s.current = some branch ∧
      found.summary.link = ⟨branch, found.summary.kind, found.summary.id⟩ := by
  obtain ⟨current, branch, selected, d, _, rfl⟩ := documentAnswered answered
  exact ⟨current, branch, selected, rfl⟩

theorem searchCurrent (current : s.isCurrent = true) (r : SearchRequest) (branch : String) :
    s.answerSearch r ≠ .error (.indexing branch) := by
  intro answered
  unfold answerSearch searchable at answered
  rw [current] at answered
  split at answered
  · rename_i why refused
    cases answered
    split at refused <;> cases refused
  · split at answered <;> cases answered

/- A document is missed only if the index does not have it. -/
theorem lookupMissing (current : s.isCurrent = true) {name : String}
    (indexed : s.index.branch = some name) {r : LookupRequest} {kind : Kind} {id : String}
    (answered : s.answerLookup r = .error (.notFound (.str kind.word) (.str id))) :
    s.index.find? kind id = none := by
  obtain ⟨askedKind, askedId⟩ := r
  have own := Kind.ofJsonIff.2 (Eq.refl (Json.str kind.word))
  unfold answerLookup at answered
  split at answered
  · cases answered
  · rename_i read known
    split at answered
    · cases answered
    · rename_i missing
      cases answered
      cases Except.ok.inj (known.symm.trans own)
      rw [current] at missing
      cases found : s.index.find? kind id with
      | none => rfl
      | some d => exact (missing name d indexed found).elim

theorem currentSame (selected : s.current = t.current) (index : s.index = t.index) :
    s.isCurrent = t.isCurrent := by
  rw [isCurrent, isCurrent, selected, index]

theorem visibleSame (selected : s.current = t.current) (index : s.index = t.index) :
    s.visible = t.visible := by
  rw [visible, visible, currentSame selected index, index]

/- What is found is made from the selected branch and the index, and so is an answer. -/
theorem foundSame (selected : s.current = t.current) (index : s.index = t.index) (q : Query) :
    s.search q = t.search q := by
  rw [search, search, visibleSame selected index]

theorem searchSame (selected : s.current = t.current) (index : s.index = t.index)
    (r : SearchRequest) : s.answerSearch r = t.answerSearch r := by
  have visible := visibleSame selected index
  have search : s.search = t.search := funext (foundSame selected index)
  have searchable : s.searchable = t.searchable := funext fun mode => by
    rw [searchable, searchable, selected, currentSame selected index]
  unfold answerSearch
  rw [searchable, visible, search]

theorem lookupSame (selected : s.current = t.current) (index : s.index = t.index)
    (r : LookupRequest) : s.answerLookup r = t.answerLookup r := by
  unfold answerLookup
  rw [currentSame selected index, index]

end Session

namespace ToolCall

variable {s t : Session} {call : ToolCall} {branch : Json}

theorem answerSame (named : call.branch? = some branch) (selected : s.current = t.current)
    (index : s.index = t.index) : call.answer s = call.answer t := by
  cases call with
  | branches | unusable => cases named
  | search request => exact congrArg ToolAnswer.search (Session.searchSame selected index request)
  | lookup request => exact congrArg ToolAnswer.lookup (Session.lookupSame selected index request)

theorem refuseComplains (named : call.branch? = some branch) (s : Session) :
    (call.refuse branch s).toJson.get? "error" ≠ none := by
  cases call with
  | branches | unusable => cases named
  | search => exact (SearchRefusal.unknownBranch branch).complains
  | lookup => exact (LookupRefusal.unknownBranch branch).complains

end ToolCall

namespace Session

variable {s : Session} {name : String}

theorem searchOf (selected : s.current = some name) {r : SearchRequest}
    (clean : (ToolAnswer.search (s.answerSearch r)).toJson.get? "error" = none) :
    s.isCurrent = true ∧ (ToolAnswer.search (s.answerSearch r)).Of name := by
  cases answered : s.answerSearch r with
  | error why =>
    rw [answered] at clean
    exact absurd clean why.complains
  | ok page =>
    obtain ⟨current, shown, _, documents⟩ := pageDocuments answered
    obtain rfl := Option.some.inj (selected.symm.trans shown)
    refine ⟨current, .page page page.branchShown fun summary member => ?_⟩
    obtain ⟨d, _, rfl⟩ := documents summary member
    rw [Summary.linkShown]
    rfl

theorem lookupOf (selected : s.current = some name) {r : LookupRequest}
    (clean : (ToolAnswer.lookup (s.answerLookup r)).toJson.get? "error" = none) :
    s.isCurrent = true ∧ (ToolAnswer.lookup (s.answerLookup r)).Of name := by
  cases answered : s.answerLookup r with
  | error why =>
    rw [answered] at clean
    exact absurd clean why.complains
  | ok found =>
    obtain ⟨current, shown, same, link⟩ := lookupFound answered
    obtain rfl := Option.some.inj (selected.symm.trans same)
    exact ⟨current, .document found (by rw [found.linkShown, link])⟩

end Session

/- An answer without a complaint is of the selected branch, whose index is there. -/
theorem ToolCall.answerOf {s : Session} {call : ToolCall} {branch : Json} {name : String}
    (named : call.branch? = some branch) (selected : s.current = some name)
    (clean : (call.answer s).toJson.get? "error" = none) :
    s.isCurrent = true ∧ (call.answer s).Of name := by
  cases call with
  | branches | unusable => cases named
  | search => exact Session.searchOf selected clean
  | lookup => exact Session.lookupOf selected clean

end PolicySearch
