import PolicySearch.Proofs.Server.AsAlone
import PolicySearch.Proofs.Server.Refused
import PolicySearch.Proofs.Tool.Pages
/-! Searches that come one after another. Each is answered from the whole index of the branch that it
means, and one after another, each from where the last one says, they show all that is found there. -/
namespace PolicySearch

/- The branch that is meant: the named one if it is in the listing, and the selected one if none is
named. -/
def Session.meant (s : Session) (branch : Option String) : Option String :=
  match Settings.filled branch with
  | none => s.current
  | some name => if (s.branch? (.str name)).isSome then some name else none

def SearchRequest.asking (text mode : String) (limit : Int) (format : Json) (offset : Int) :
    SearchRequest where
  query := .str text
  mode := .str mode
  limit := .int limit
  offset := .int offset
  format := format

namespace ToolCall

/- A search for a text, with the mode and the branch as they are given. -/
def searching (text mode : String) (branch : Option String) (limit : Int) (format : Json)
    (offset : Int) : ToolCall :=
  .search (.asking text mode limit format offset) ((branch.map Json.str).getD .null)

theorem searchingNames (text mode : String) (branch : Option String) (limit : Int) (format : Json)
    (offset : Int) :
    (searching text mode branch limit format offset).branch? =
      (Settings.filled branch).map Json.str := by
  cases branch with
  | none => rfl
  | some name => by_cases empty : name.isEmpty <;>
      simp [searching, branch?, Json.isNothing, Settings.filled, Option.filter, empty]

end ToolCall

namespace Service
open Server

/- The answers to calls of which each takes up where the last one says. -/
inductive Paged (web : Web) (call : Int → ToolCall) : Service → Int → List Json → Prop where
  | last {service : Service} {offset : Int} {answer : ToolAnswer}
      (answered : (service.answerAll web [call offset]).2 = [answer])
      (ends : answer.toJson.get? "next_offset" = none) :
      Paged web call service offset [answer.toJson]
  | more {service : Service} {offset next : Int} {answer : ToolAnswer} {pages : List Json}
      (answered : (service.answerAll web [call offset]).2 = [answer])
      (goesOn : answer.toJson.get? "next_offset" = some (.int next))
      (rest : Paged web call (service.answerAll web [call offset]).1 next pages) :
      Paged web call service offset (answer.toJson :: pages)

variable {web : Web} {service : Service} {call : ToolCall} {text mode name : String}
  {branch : Option String} {limit offset : Int} {format : Json}

theorem pagedOnce {calls : Int → ToolCall} {pages others : List Json}
    (paged : Paged web calls service offset pages) (again : Paged web calls service offset others) :
    pages = others := by
  induction paged generalizing others with
  | last answered ends =>
    cases again with
    | last answered' ends' =>
      cases answered.symm.trans answered'
      rfl
    | more answered' goesOn' =>
      cases answered.symm.trans answered'
      rw [ends] at goesOn'
      cases goesOn'
  | more answered goesOn rest ih =>
    cases again with
    | last answered' ends' =>
      cases answered.symm.trans answered'
      rw [goesOn] at ends'
      cases ends'
    | more answered' goesOn' rest' =>
      cases answered.symm.trans answered'
      cases goesOn.symm.trans goesOn'
      rw [ih rest']

theorem Paged.begun {calls : Int → ToolCall} {pages : List Json}
    (paged : Paged web calls service offset pages) :
    ∃ answer, (service.answerAll web [calls offset]).2 = [answer] ∧ answer.toJson ∈ pages := by
  cases paged with
  | last answered => exact ⟨_, answered, List.mem_cons_self⟩
  | more answered => exact ⟨_, answered, List.mem_cons_self⟩

/- A call that does not want the switch. -/
theorem answeredAtOnce (rested : service.Rested web) (unnamed : call.branch? = none) :
    service.answerAll web [call] = (service, [call.answer service.server.session]) := by
  have unwanted : service.server.wanted? call = none := by rw [wanted?, unnamed]; rfl
  have arrived : service.server.arrive ⟨0, call⟩ =
      { server := service.server, answers := [(0, call.answer service.server.session)] } := by
    rw [Server.arrive, unwanted]
  rw [answerStill rested arrived]
  rfl

theorem Rested.indexOf (rested : service.Rested web)
    (selected : service.server.session.current = some name) :
    service.server.session.index = (service.client.backend web).index name :=
  rested.sourced.indexNamed (rested.free.current.trans selected)

/- What one search leaves of a service is what the next one needs of it. -/
structure Alike (web : Web) (branch : Option String) (before after : Service) : Prop where
  rested : after.Rested web
  client : after.client = before.client
  meant : after.server.session.meant branch = before.server.session.meant branch

theorem searchedAlike (rested : service.Rested web) :
    Alike web branch service
      (service.answerAll web [.searching text mode branch limit format offset]).1 := by
  have names := ToolCall.searchingNames text mode branch limit format offset
  cases named : Settings.filled branch with
  | none =>
    rw [named] at names
    rw [answeredAtOnce rested names]
    exact ⟨rested, rfl, rfl⟩
  | some name =>
    obtain ⟨events, played⟩ :=
      groupPlayed rested [.searching text mode branch limit format offset]
    refine ⟨played.rested, played.client, ?_⟩
    simp only [Session.meant, named]
    rw [played.server, runListed rested.orderly]

theorem searchMeant (rested : service.Rested web)
    (meant : service.server.session.meant branch = some name) :
    (service.answerAll web [.searching text mode branch limit format offset]).2 =
      [(ToolCall.searching text mode branch limit format offset).answer
        ((service.client.backend web).session name)] := by
  have names := ToolCall.searchingNames text mode branch limit format offset
  unfold Session.meant at meant
  cases named : Settings.filled branch with
  | none =>
    rw [named] at names meant
    rw [answeredAtOnce rested names]
    exact congrArg (fun answer => [ToolAnswer.search answer]) (Session.searchSame
      (t := (service.client.backend web).session name) meant (rested.indexOf meant) _)
  | some asked =>
    rw [named] at names meant
    obtain ⟨listed, same⟩ := Option.ite_none_right_eq_some.1 meant
    obtain rfl := Option.some.inj same
    exact answeredAlone rested names listed

theorem searchUnmeant (rested : service.Rested web)
    (unmeant : service.server.session.meant branch = none) :
    ∃ answer,
      (service.answerAll web [.searching text mode branch limit format offset]).2 = [answer] ∧
        answer.toJson.get? "error" ≠ none := by
  have names := ToolCall.searchingNames text mode branch limit format offset
  unfold Session.meant at unmeant
  cases named : Settings.filled branch with
  | none =>
    rw [named] at names unmeant
    rw [answeredAtOnce rested names]
    obtain ⟨why, refused⟩ := Session.searchUnselected unmeant _
    refine ⟨_, rfl, ?_⟩
    rw [ToolCall.searching, ToolCall.answer, refused]
    exact why.complains
  | some asked =>
    rw [named] at names unmeant
    exact rejectedComplains rested (.unlisted (.str asked) names (by simpa using unmeant))

theorem sessionCurrent (backend : Backend) (name : String) :
    (backend.session name).isCurrent = true := by
  simp [Session.isCurrent, Backend.session, Backend.index, Index.build]

/- What a search finds on a branch of a service. -/
def found (service : Service) (web : Web) (name : String) (query : Query) : List Document :=
  ((service.client.backend web).session name).search query

theorem Alike.found {before after : Service} (alike : Alike web branch before after) (name : String)
    (query : Query) : after.found web name query = before.found web name query := by
  rw [Service.found, alike.client, ← Service.found]

/- A page of what is found. -/
theorem searchShown {read : Mode} (known : Mode.ofText mode = .ok read)
    (rested : service.Rested web) (meant : service.server.session.meant branch = some name)
    (text : String) (limit : Int) (format : Json) (offset : Int) :
    (service.answerAll web [.searching text mode branch limit format offset]).2 =
      [.search (.ok (Window.page
        ⟨offset.toNat, max 1 (min limit.toNat SearchRequest.mostResults)⟩ name
        (SearchRequest.asking text mode limit format offset).detailed
        (service.found web name ⟨read, text⟩)))] := by
  have whole := Session.searchWhole (s := (service.client.backend web).session name)
    (r := .asking text mode limit format offset) rfl (sessionCurrent _ name) rfl rfl rfl
  rw [show Mode.ofJson (SearchRequest.asking text mode limit format offset).mode = .ok read
    from known] at whole
  rw [searchMeant rested meant, ToolCall.searching, ToolCall.answer, whole]
  rfl

theorem searchUnknown {e : UnknownMode} (unknown : Mode.ofText mode = .error e)
    (rested : service.Rested web) (text : String) (limit : Int) (format : Json) (offset : Int) :
    ∃ answer,
      (service.answerAll web [.searching text mode branch limit format offset]).2 = [answer] ∧
        answer.toJson.get? "error" ≠ none := by
  refine rejectedComplains rested (.faulty ?_)
  exact ⟨e, unknown⟩

/- Pages that show some documents, one after the other, each with the branch and the total. -/
structure Show (pages : List Json) (name : String) (total : Nat) (documents : List Document) :
    Prop where
  clean : ∀ page ∈ pages, page.get? "error" = none
  branch : ∀ page ∈ pages, page.get? "branch" = some (.str name)
  total : ∀ page ∈ pages, page.get? "total" = some (.int total)
  entries : (pages.flatMap Json.listed).map Json.entry = documents.map Document.entry

/- The first page, and the others if there are any, show what is found from a place on. -/
theorem showFirst {w : Window} {detailed : Bool} {matched : List Document} {pages : List Json}
    (rest : Show pages name matched.length (matched.drop (w.start + w.size))) :
    Show ((w.page name detailed matched).toJson :: pages) name matched.length
      (matched.drop w.start) where
  clean := List.forall_mem_cons.2 ⟨Page.clean _, rest.clean⟩
  branch := List.forall_mem_cons.2 ⟨Page.branchShown _, rest.branch⟩
  total := List.forall_mem_cons.2 ⟨Page.totalShown _, rest.total⟩
  entries := by
    rw [List.flatMap_cons, List.map_append, Window.pageEntries, rest.entries, ← List.map_append,
      w.pageSplit matched]

theorem showNone (name : String) (total : Nat) : Show [] name total [] :=
  ⟨nofun, nofun, nofun, rfl⟩

/- The induction is on how much is left. A page has room for one document at least, so the next one has
less left. -/
theorem pagesFrom {read : Mode} (known : Mode.ofText mode = .ok read) (rested : service.Rested web)
    (meant : service.server.session.meant branch = some name) (start : Nat) :
    ∃ pages, Paged web (.searching text mode branch limit format) service start pages ∧
      Show pages name (service.found web name ⟨read, text⟩).length
        ((service.found web name ⟨read, text⟩).drop start) := by
  generalize left : (service.found web name ⟨read, text⟩).length - start = count
  induction count using Nat.strongRecOn generalizing service start with
  | ind count ih =>
    have kept : Alike web branch service
        (service.answerAll web [.searching text mode branch limit format start]).1 :=
      searchedAlike rested
    have answered := searchShown known rested meant text limit format start
    rw [Int.toNat_natCast] at answered
    have room : 0 < max 1 (min limit.toNat SearchRequest.mostResults) := by omega
    generalize max 1 (min limit.toNat SearchRequest.mostResults) = size at answered room
    have next := Page.nextShown (Window.page ⟨start, size⟩ name
      (SearchRequest.asking text mode limit format start).detailed
      (service.found web name ⟨read, text⟩))
    rw [Window.pageNext] at next
    by_cases more : start + size < (service.found web name ⟨read, text⟩).length
    · have fewer : (service.found web name ⟨read, text⟩).length - (start + size) < count := by
        omega
      obtain ⟨pages, rest, shown⟩ := ih _ fewer kept.rested (kept.meant.trans meant)
        (start + size) (by rw [kept.found])
      rw [kept.found] at shown
      rw [if_pos more] at next
      exact ⟨_, .more answered next rest, showFirst shown⟩
    · rw [if_neg more] at next
      have nothing := List.drop_eq_nil_of_le (Nat.le_of_not_lt more)
      exact ⟨_, .last answered next, showFirst (nothing ▸ showNone name _)⟩

end Service

end PolicySearch
