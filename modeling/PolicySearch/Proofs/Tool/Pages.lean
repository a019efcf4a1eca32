import PolicySearch.Proofs.Tool.Answer
/-! Pages of what a search finds. A page takes up where it starts, and says where the next one starts
exactly if something is left; and what it shows of a document tells which one it is. -/
namespace PolicySearch

namespace Json

/- The results of an answer. -/
def listed (answer : Json) : List Json := ((answer.get? "results").bind items?).getD []

/- Which document an item of a list is of, and its tags. One without tags may not mention them. -/
def entry (item : Json) : Option Json × Option Json × Option Json × Json :=
  (item.get? "type", item.get? "id", item.get? "name", (item.get? "tags").getD (.arr []))

end Json

def Document.entry (d : Document) : Option Json × Option Json × Option Json × Json :=
  (some (.str d.kind.word), some (.str d.id), some (.str d.name), Summary.texts d.tags)

theorem Summary.entryShown (branch : String) (detailed : Bool) (d : Document) :
    (ofDocument branch detailed d).toJson.entry = d.entry := by
  have untagged : (connectionFields (connectionsOf d)).lookup "tags" = none := by
    cases connectionsOf d <;> rfl
  cases tags : d.tags with
  | nil =>
    simp [Json.entry, toJson, fields, ofDocument, Json.get?, List.lookup_cons, tags, untagged,
      Document.entry, texts]
  | cons tag rest =>
    simp [Json.entry, toJson, fields, ofDocument, Json.get?, List.lookup_cons, tags, Document.entry]

namespace Page

theorem clean (p : Page) : p.toJson.get? "error" = none := by
  cases next : p.nextOffset <;> simp [toJson, Json.get?, next]

theorem totalShown (p : Page) : p.toJson.get? "total" = some (.int p.total) := rfl

theorem resultsShown (p : Page) : p.toJson.listed = p.results.map Summary.toJson := rfl

theorem nextShown (p : Page) :
    p.toJson.get? "next_offset" = p.nextOffset.map fun next => .int next := by
  cases next : p.nextOffset <;> simp [toJson, Json.get?, List.lookup_cons, next]

end Page

namespace Window

variable {w : Window} {branch : String} {detailed : Bool} {matched : List Document}

theorem pageEntries :
    (w.page branch detailed matched).toJson.listed.map Json.entry =
      ((matched.drop w.start).take w.size).map Document.entry := by
  simp only [Page.resultsShown, page, List.map_map]
  exact List.map_congr_left fun d _ => Summary.entryShown branch detailed d

/- Whether something is left does not hang on how much of the last page is filled. -/
theorem pageNext : (w.page branch detailed matched).nextOffset =
    if w.start + w.size < matched.length then some (w.start + w.size) else none := by
  have filled : w.start + ((matched.drop w.start).take w.size).length < matched.length ↔
      w.start + w.size < matched.length := by
    rw [List.length_take, List.length_drop]
    omega
  simp only [page, filled]

/- What is found from the start of a page on is what the page shows, and what is found from its end. -/
theorem pageSplit (w : Window) (matched : List Document) :
    (matched.drop w.start).take w.size ++ matched.drop (w.start + w.size) =
      matched.drop w.start := by
  rw [← List.drop_drop, List.take_append_drop]

end Window

namespace Session

theorem searchUnselected {s : Session} (unselected : s.current = none) (r : SearchRequest) :
    ∃ why, s.answerSearch r = .error why := by
  unfold answerSearch searchable
  rw [unselected]
  cases Mode.ofJson r.mode <;> exact ⟨_, rfl⟩

/- A search with a text and whole numbers is refused for its mode only, once the branch is indexed. -/
theorem searchWhole {s : Session} {branch : String} (selected : s.current = some branch)
    (current : s.isCurrent = true) {r : SearchRequest} {text : String} {limit offset : Int}
    (asked : r.query = .str text) (size : r.limit = .int limit) (start : r.offset = .int offset) :
    s.answerSearch r = match Mode.ofJson r.mode with
      | .error e => .error (.unknownMode e)
      | .ok mode => .ok (Window.page
          ⟨offset.toNat, max 1 (min limit.toNat SearchRequest.mostResults)⟩ branch r.detailed
          (s.search ⟨mode, text⟩)) := by
  unfold answerSearch searchable
  rw [selected, current]
  cases Mode.ofJson r.mode with
  | error e => rfl
  | ok mode =>
    simp only [if_true, SearchRequest.readingWhole mode s.visible asked size start]

end Session

end PolicySearch
