import Mathlib.Algebra.Ring.Nat
import PolicySearch.Proofs.Tool.Pages
/-! All pages of a search. Each takes up where the last one says, whatever limits are given on the way,
and together they show what is found, each document once and in the order of the index. -/
namespace PolicySearch

/- The same search, for another part of its results. -/
def SearchRequest.windowed (r : SearchRequest) (limit offset : Int) : SearchRequest :=
  { r with limit := .int limit, offset := .int offset }

namespace Page

theorem countShown (p : Page) : p.toJson.get? "count" = some (.int p.results.length) := rfl

theorem moreShown (p : Page) : p.toJson.get? "has_more" = some (.bool p.nextOffset.isSome) := rfl

end Page

namespace Session

def answered (s : Session) (r : SearchRequest) (limit offset : Int) : Json :=
  (s.answerSearch (r.windowed limit offset)).toJson

/- The answers from some call on. Each call has a limit of its own, and there is another one as long as
the answer says that there is more. -/
inductive Paged (s : Session) (r : SearchRequest) (limits : Nat → Int) :
    Nat → Int → List Json → Prop where
  | last {call : Nat} {offset : Int}
      (ends : (s.answered r (limits call) offset).get? "has_more" = some (.bool false)) :
      Paged s r limits call offset [s.answered r (limits call) offset]
  | more {call : Nat} {offset next : Int} {pages : List Json}
      (goesOn : (s.answered r (limits call) offset).get? "has_more" = some (.bool true))
      (told : (s.answered r (limits call) offset).get? "next_offset" = some (.int next))
      (rest : Paged s r limits (call + 1) next pages) :
      Paged s r limits call offset (s.answered r (limits call) offset :: pages)

end Session

/- Pages that show some of the documents that are found. -/
structure Shows (branch : String) (detailed : Bool) (total : Nat) (documents : List Document)
    (pages : List Json) : Prop where
  total : ∀ page ∈ pages, page.get? "total" = some (.int total)
  more : ∀ page ∈ pages, page.get? "has_more" = some (.bool (page.get? "next_offset").isSome)
  results : pages.flatMap Json.listed =
    documents.map fun d => (Summary.ofDocument branch detailed d).toJson
  counts : ∃ counts : List Nat,
    pages.map (·.get? "count") = counts.map (fun count => some (.int count)) ∧
      counts.sum = documents.length

namespace Shows

variable {branch : String} {detailed : Bool} {total : Nat} {matched : List Document}
  {pages : List Json}

theorem nothing : Shows branch detailed total [] [] :=
  ⟨nofun, nofun, rfl, [], rfl, rfl⟩

/- A page before those that show what is found behind it. -/
theorem before (w : Window)
    (rest : Shows branch detailed matched.length (matched.drop (w.start + w.size)) pages) :
    Shows branch detailed matched.length (matched.drop w.start)
      ((w.page branch detailed matched).toJson :: pages) where
  total := List.forall_mem_cons.2 ⟨Page.totalShown _, rest.total⟩
  more := by
    refine List.forall_mem_cons.2 ⟨?_, rest.more⟩
    rw [Page.moreShown, Page.nextShown, Option.isSome_map]
  results := by
    rw [List.flatMap_cons, rest.results, Page.resultsShown, Window.page, List.map_map,
      ← congrArg (List.map _) (w.pageSplit matched), List.map_append]
    rfl
  counts := by
    obtain ⟨counts, shown, sum⟩ := rest.counts
    refine ⟨((matched.drop w.start).take w.size).length :: counts, ?_, ?_⟩
    · rw [List.map_cons, shown, Page.countShown, Window.page, List.length_map]
      rfl
    · rw [List.sum_cons, sum, ← List.length_append, w.pageSplit]

end Shows

namespace Session

variable {s : Session} {r : SearchRequest} {limits : Nat → Int} {branch text : String} {mode : Mode}

theorem pagedOne {call : Nat} {offset : Int} {pages others : List Json}
    (paged : s.Paged r limits call offset pages) (again : s.Paged r limits call offset others) :
    others = pages := by
  induction paged generalizing others with
  | last ends =>
    cases again with
    | last => rfl
    | more goesOn => cases ends.symm.trans goesOn
  | more goesOn next rest ih =>
    cases again with
    | last ends => cases ends.symm.trans goesOn
    | more _ next' rest' =>
      cases next.symm.trans next'
      rw [ih rest']

theorem answeredPage (selected : s.current = some branch) (current : s.isCurrent = true)
    (asked : r.query = .str text) (known : Mode.ofJson r.mode = .ok mode) (limit offset : Int) :
    s.answered r limit offset =
      (Window.page ⟨offset.toNat, max 1 (min limit.toNat SearchRequest.mostResults)⟩ branch
        r.detailed (Query.filter ⟨mode, text⟩ s.index.documents)).toJson := by
  have whole := searchWhole selected current (r := r.windowed limit offset) asked rfl rfl
  rw [show Mode.ofJson (r.windowed limit offset).mode = .ok mode from known] at whole
  have found : s.search ⟨mode, text⟩ = Query.filter ⟨mode, text⟩ s.index.documents := by
    rw [search, visible, if_pos current]
  rw [answered, whole, ← found]
  rfl

/- The induction is on how much is left. A page has room for one document at least, so the next one has
less left, whatever its limit. -/
theorem pagedFrom (selected : s.current = some branch) (current : s.isCurrent = true)
    (asked : r.query = .str text) (known : Mode.ofJson r.mode = .ok mode) (limits : Nat → Int)
    (call : Nat) (offset : Int) :
    let matched := Query.filter ⟨mode, text⟩ s.index.documents
    ∃ pages, s.Paged r limits call offset pages ∧
      pages.length ≤ max 1 (matched.length - offset.toNat) ∧
      Shows branch r.detailed matched.length (matched.drop offset.toNat) pages := by
  intro matched
  generalize left : matched.length - offset.toNat = count
  induction count using Nat.strongRecOn generalizing call offset with
  | ind count ih =>
    have page := answeredPage selected current asked known (limits call) offset
    have room : 0 < max 1 (min (limits call).toNat SearchRequest.mostResults) := by omega
    generalize max 1 (min (limits call).toNat SearchRequest.mostResults) = size at page room
    have more := Page.moreShown (Window.page ⟨offset.toNat, size⟩ branch r.detailed matched)
    have next := Page.nextShown (Window.page ⟨offset.toNat, size⟩ branch r.detailed matched)
    rw [← page] at more next
    rw [Window.pageNext] at more next
    by_cases remains : offset.toNat + size < matched.length
    · rw [if_pos remains] at more next
      obtain ⟨pages, rest, few, shown⟩ := ih (matched.length - (offset.toNat + size)) (by omega)
        (call + 1) ((offset.toNat + size : Nat) : Int) rfl
      refine ⟨_, .more more next rest, ?_, page ▸ .before ⟨_, size⟩ shown⟩
      rw [List.length_cons]
      omega
    · rw [if_neg remains] at more
      have nothing := List.drop_eq_nil_of_le (Nat.le_of_not_lt remains)
      have behind : Shows branch r.detailed matched.length (matched.drop (offset.toNat + size)) [] := by
        rw [nothing]
        exact .nothing
      exact ⟨_, .last more, Nat.le_max_left 1 count, page ▸ .before ⟨_, size⟩ behind⟩

/- From the beginning on, the answers are those of one walk through all that is found. -/
theorem pagesWhole (selected : s.current = some branch) (current : s.isCurrent = true)
    (asked : r.query = .str text) (known : Mode.ofJson r.mode = .ok mode) (limits : Nat → Int)
    {first : Int} (begins : first ≤ 0) :
    let matched := Query.filter ⟨mode, text⟩ s.index.documents
    ∃ pages, (∀ others, s.Paged r limits 0 first others ↔ others = pages) ∧
      pages.length ≤ max 1 matched.length ∧
      Shows branch r.detailed matched.length matched pages := by
  intro matched
  obtain ⟨pages, paged, few, shown⟩ := pagedFrom selected current asked known limits 0 first
  rw [Int.toNat_of_nonpos begins] at few shown
  refine ⟨pages, fun others => ⟨pagedOne paged, ?_⟩, few, shown⟩
  rintro rfl
  exact paged

def threeMaps : Session where
  current := some "b"
  index := .build (some "b") fun kind =>
    if kind = .urlMaps then ["first", "second", "third"].map fun id => .obj [("id", .str id)] else []

/- Two of three are found, and the first call asks for less than one of them. -/
theorem pagesWholeOfTwo :
    threeMaps.current = some "b" ∧ threeMaps.isCurrent = true ∧
      Mode.ofJson (.str "id") = .ok (.only .id) ∧
      ∃ pages, threeMaps.Paged { query := .str "S", mode := .str "id" }
          (fun call => if call = 0 then -7 else 1000000000000) 0 (-3) pages ∧
        pages.length ≤ 2 ∧ Shows "b" false 2 (threeMaps.index.documents.take 2) pages := by
  have selected : threeMaps.current = some "b" := rfl
  have current : threeMaps.isCurrent = true := by decide +kernel
  have known : Mode.ofJson (.str "id") = .ok (.only .id) := rfl
  have found : Query.filter ⟨.only .id, "S"⟩ threeMaps.index.documents =
      threeMaps.index.documents.take 2 := by decide +kernel
  obtain ⟨pages, paged, few, shown⟩ :=
    pagesWhole (r := { query := .str "S", mode := .str "id" }) selected current rfl known
      (fun call => if call = 0 then -7 else 1000000000000) (show (-3 : Int) ≤ 0 by decide)
  rw [found] at few shown
  exact ⟨selected, current, known, pages, (paged pages).2 rfl, few, shown⟩

end Session

end PolicySearch
