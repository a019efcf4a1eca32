import PolicySearch.Proofs.CommandLine.Opened
import PolicySearch.Proofs.Json.Written
/-! The command line beside the server. A search that one of them can carry out the other can too, and
then both show the same documents of the same branch; the one at once, the other page after page. -/
namespace PolicySearch

namespace Print

theorem entryPrinted (d : Document) : (documentJson d).entry = d.entry := rfl

theorem entriesPrinted (branch : String) (mode : Mode) (found : List Document) :
    (resultsJson branch mode found).listed.map Json.entry = found.map Document.entry :=
  (List.map_map ..).trans (List.map_congr_left fun d _ => entryPrinted d)

/- There is nothing in the text of a value that would be cut out of it. -/
theorem uncut (value : Json) :
    String.ofList (Text.withoutSequences (line value.writeLong).toList) = line value.writeLong := by
  have legible : Json.Legible (line value.writeLong).toList := by
    rw [line, String.toList_append]
    exact Json.legibleAppend.2 ⟨value.writtenLongLegible, by decide⟩
  have absent : '\x1b' ∉ (line value.writeLong).toList := fun member =>
    absurd (legible _ member) (by decide)
  rw [Text.withoutSequencesPlain absent, String.ofList_toList]

end Print

namespace Command
open Service

variable {p : Place} {c : SearchCommand} {service : Service} {limit : Option Amount} {name : String}

theorem searchEnds (beside : p.Beside service limit) {mode : Mode}
    (known : Mode.ofText c.mode = .ok mode)
    (meant : service.server.session.meant c.branch = some name) (json : c.json = true) :
    (runSearch p c).status = 0 ∧ (runSearch p c).printed =
      Print.line (Print.resultsJson name mode (service.found p.web name ⟨mode, c.text⟩)).writeLong := by
  obtain ⟨required, found⟩ := opened beside.rested
    (o := { client := p.client, session := { limit := limit }, trail := p.trail p.client.ready })
    beside.client (by rw [beside.client]; exact (beside.loaded _).symm) meant
  have shown := foundOnceSet (s := (openSession
      { client := p.client, session := { limit := limit }, trail := p.trail p.client.ready }
      p.web c.branch).session) (congrArg Draft.text (openSessionKeepsQuery _ p.web c.branch)) mode c.text
  simp only [runSearch, known, Place.withBranch, Place.withSession, beside.limited, required, shown,
    found, json, if_true]
  exact ⟨trivial, trivial⟩

theorem searchUnended (beside : p.Beside service limit)
    (unmeant : service.server.session.meant c.branch = none) : (runSearch p c).status ≠ 0 := by
  unfold runSearch
  cases Mode.ofText c.mode with
  | error e => exact nofun
  | ok mode =>
    obtain ⟨complaint, refused⟩ := unopened beside.rested
      (o := { client := p.client, session := { limit := limit }, trail := p.trail p.client.ready })
      (by rw [beside.client]; exact (beside.loaded _).symm) unmeant
    simp only [Place.withBranch, Place.withSession, beside.limited, refused]
    exact nofun

/- What a command prints, and pages of the server: the same branch and total, and the same documents in
the same order. -/
structure Agree (printed : Json) (pages : List Json) : Prop where
  clean : ∀ page ∈ pages, page.get? "error" = none
  branch : ∃ name, printed.get? "branch" = some (.str name) ∧
    ∀ page ∈ pages, page.get? "branch" = some (.str name)
  total : ∃ n, printed.get? "total" = some (.int n) ∧
    ∀ page ∈ pages, page.get? "total" = some (.int n)
  entries : (pages.flatMap Json.listed).map Json.entry = printed.listed.map Json.entry

theorem agreeShown {mode : Mode} {found : List Document} {pages : List Json}
    (shown : Show pages name found.length found) :
    Agree (Print.resultsJson name mode found) pages where
  clean := shown.clean
  branch := ⟨name, rfl, shown.branch⟩
  total := ⟨found.length, rfl, shown.total⟩
  entries := shown.entries.trans (Print.entriesPrinted name mode found).symm

/- A search as a command and as a call. The command succeeds exactly if the call is answered, and then
they agree. -/
structure Alongside (p : Place) (service : Service) (c : SearchCommand) (call : Int → ToolCall) :
    Prop where
  succeeds : (runSearch p c).status = 0 ↔
    ∃ answer, (service.answerAll p.web [call 0]).2 = [answer] ∧ answer.toJson.get? "error" = none
  agrees : (runSearch p c).status = 0 →
    ∃ printed, (runSearch p c).printed = Print.line printed.writeLong ∧
      (∃ pages, Paged p.web call service 0 pages) ∧
        ∀ pages, Paged p.web call service 0 pages → Agree printed pages

theorem bothRefuse {call : Int → ToolCall} (failed : (runSearch p c).status ≠ 0)
    (refused : ∃ answer, (service.answerAll p.web [call 0]).2 = [answer] ∧
      answer.toJson.get? "error" ≠ none) : Alongside p service c call := by
  obtain ⟨answer, one, complains⟩ := refused
  refine ⟨⟨fun ended => absurd ended failed, ?_⟩, fun ended => absurd ended failed⟩
  rintro ⟨other, alone, clean⟩
  cases one.symm.trans alone
  exact absurd clean complains

theorem bothAnswer {call : Int → ToolCall} {printed : Json} {pages : List Json}
    (ended : (runSearch p c).status = 0)
    (output : (runSearch p c).printed = Print.line printed.writeLong)
    (paged : Paged p.web call service 0 pages) (agree : Agree printed pages) :
    Alongside p service c call := by
  obtain ⟨answer, one, first⟩ := paged.begun
  refine ⟨⟨fun _ => ⟨answer, one, agree.clean _ first⟩, fun _ => ended⟩, fun _ => ?_⟩
  exact ⟨printed, output, ⟨pages, paged⟩, fun others again => pagedOnce paged again ▸ agree⟩

theorem searchAlongside (beside : p.Beside service limit) (json : c.json = true) (size : Int)
    (format : Json) :
    Alongside p service c (.searching c.text c.mode c.branch size format) := by
  cases known : Mode.ofText c.mode with
  | error e =>
    refine bothRefuse ?_ (searchUnknown known beside.rested c.text size format 0)
    rw [runSearch, known]
    exact nofun
  | ok mode =>
    cases meant : service.server.session.meant c.branch with
    | none => exact bothRefuse (searchUnended beside meant) (searchUnmeant beside.rested meant)
    | some name =>
      obtain ⟨ended, output⟩ := searchEnds beside known meant json
      obtain ⟨pages, paged, shown⟩ := pagesFrom known beside.rested meant 0
      exact bothAnswer ended output paged (agreeShown shown)

end Command

namespace Run
open Command Service

variable {settings host : Settings} {words rest : List String} {options : Global}
  {c : SearchCommand} {level : Level}

/- A server on the same root starts, and stands beside a place of commands that keeps no replies. -/
theorem startedBeside (web : Web) (stem : String) (cache : Cache) (uncached : options.cached = false)
    (unlimited : settings.fetchLimit = .ok none) (unlimitedHost : host.fetchLimit = .ok none)
    (root : settings.root options.url = host.root host.apiUrl) :
    ∃ service, Service.start web host = .ok service ∧
      Place.Beside ⟨web, settings, clientOf settings stem options, cache⟩ service none := by
  have chosen {settings : Settings} (unlimited : settings.fetchLimit = .ok none) :
      Session.chooseLimit none settings = .ok none := by
    rw [Session.chooseLimit, unlimited]
    rfl
  obtain ⟨service, started, client, loaded⟩ := Service.startedAs web (chosen unlimitedHost)
  have same : clientOf settings stem options = service.client := by
    rw [client, clientOf, uncached, root]
    rfl
  exact ⟨service, started, startRested started, same, chosen unlimited, loaded⟩

theorem searchRuns (web : Web) (stem : String) (cache : Cache)
    (global : Command.parseGlobal words = .ok (options, .search, rest))
    (read : Command.parse .search rest = .ok (.search c))
    (levelled : settings.threshold options.verbose = .ok level) :
    Run.ofWords web settings stem cache words = .ofEnded level
      (runSearch ⟨web, settings, clientOf settings stem options, cache⟩ c) := by
  simp only [ofWords, global, levelled, read, Run.command, execute, reduceCtorEq, if_false]

/- A search on the command line, and the search tool of a server that has just started on the same root,
for the same text, mode and branch. Either both refuse it; or what is printed agrees with the pages of
the tool, of any size and format, each asked for from where the last one says. -/
theorem searchesAgree (web : Web) (stem : String) (cache : Cache)
    (global : Command.parseGlobal words = .ok (options, .search, rest))
    (read : Command.parse .search rest = .ok (.search c)) (json : c.json = true)
    (uncached : options.cached = false) (levelled : settings.threshold options.verbose = .ok level)
    (unlimited : settings.fetchLimit = .ok none) (unlimitedHost : host.fetchLimit = .ok none)
    (root : settings.root options.url = host.root host.apiUrl) (size : Int) (format : Json) :
    let run := Run.ofWords web settings stem cache words
    let call := ToolCall.searching c.text c.mode c.branch size format
    ∃ service, Service.start web host = .ok service ∧
      (run.status = 0 ↔ ∃ answer, (service.answerAll web [call 0]).2 = [answer] ∧
        answer.toJson.get? "error" = none) ∧
      (run.status = 0 → ∃ printed, run.output = .text (Print.line printed.writeLong) ∧
        (∃ pages, Paged web call service 0 pages) ∧
          ∀ pages, Paged web call service 0 pages → Agree printed pages) := by
  obtain ⟨service, started, beside⟩ :=
    startedBeside web stem cache uncached unlimited unlimitedHost root
  obtain ⟨succeeds, agrees⟩ := searchAlongside beside json size format
  have ran := searchRuns web stem cache global read levelled
  have status : (ofWords web settings stem cache words).status =
      (runSearch ⟨web, settings, clientOf settings stem options, cache⟩ c).status := by
    rw [ran, ofEnded]
  rw [← status] at succeeds agrees
  refine ⟨service, started, succeeds, fun ended => ?_⟩
  obtain ⟨printed, output, paged⟩ := agrees ended
  refine ⟨printed, ?_, paged⟩
  rw [ran, ofEnded, output]
  exact congrArg Stream.text (Print.uncut printed)

/- On a branch that has to be switched to, the second of the listing. -/
theorem searchesAgreeOnDev :
    let run := Run.ofWords twoBranches {} "" [] ["search", "deny", "-m", "ID", "-b", "dev", "--json"]
    run.status = 0 ∧ ∃ service, Service.start twoBranches {} = .ok service ∧
      ∃ printed, run.output = .text (Print.line printed.writeLong) ∧
        ∃ pages, Paged twoBranches (.searching "deny" "ID" (some "dev") 1 (.str "concise"))
          service 0 pages ∧ Agree printed pages := by
  have ended : (Run.ofWords twoBranches {} "" []
      ["search", "deny", "-m", "ID", "-b", "dev", "--json"]).status = 0 := by decide +kernel
  have global : Command.parseGlobal ["search", "deny", "-m", "ID", "-b", "dev", "--json"] =
      .ok ({}, .search, ["deny", "-m", "ID", "-b", "dev", "--json"]) := rfl
  have read : Command.parse .search ["deny", "-m", "ID", "-b", "dev", "--json"] = .ok (.search
      { text := "deny", mode := "ID", branch := some "dev", json := true }) := rfl
  have levelled : ({} : Settings).threshold false = .ok .info := rfl
  have unlimited : ({} : Settings).fetchLimit = .ok none := rfl
  obtain ⟨service, started, -, agrees⟩ := searchesAgree twoBranches "" [] global read rfl rfl
    levelled unlimited unlimited rfl 1 (.str "concise")
  obtain ⟨printed, output, ⟨pages, paged⟩, agree⟩ := agrees ended
  exact ⟨ended, service, started, printed, output, pages, paged, agree pages paged⟩

end Run

end PolicySearch
