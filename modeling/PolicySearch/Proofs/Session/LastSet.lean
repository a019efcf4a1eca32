import PolicySearch.Proofs.Server.Run
import PolicySearch.Proofs.Session.Rejected
/-! The query of a session is what was set last: the mode of the last value that names one, and the
last text. Branches and their rebuilds leave it alone, and it leaves them alone; so what is shown is the
installed index filtered by it, or nothing while that index is of another branch. -/
namespace PolicySearch

def Operation.mode? : Operation → Option Mode
  | .event (.setMode value) => (Mode.ofJson value).toOption
  | _ => none

def Operation.text? : Operation → Option Json
  | .event (.setText text) => some text
  | _ => none

/- What shows of an operation that fails. -/
def Seen.fails : Seen → Bool
  | .documents (.error _) | .documents (.ok (.error _)) => true
  | _ => false

namespace Session

def latest {α : Type} (set? : Operation → Option α) (usual : α) (operations : List Operation) : α :=
  (operations.filterMap set?).getLast?.getD usual

def querySet (operations : List Operation) : Draft where
  mode := latest Operation.mode? .all operations
  text := latest Operation.text? (.str "") operations

theorem latestAppend {α : Type} (set? : Operation → Option α) (usual : α)
    (operations : List Operation) (operation : Operation) :
    latest set? usual (operations ++ [operation]) =
      (set? operation).getD (latest set? usual operations) := by
  unfold latest
  rw [List.filterMap_append, List.getLast?_append]
  cases set : set? operation <;> simp [set]

variable {s : Session}

theorem stepMode (s : Session) (value : Json) : s.step (.setMode value) =
    { s with query := { s.query with mode := (Mode.ofJson value).toOption.getD s.query.mode } } := by
  unfold step effect
  cases named : Mode.ofJson value with
  | ok mode =>
    simp only [setModeNamed named]
    rfl
  | error e =>
    simp only [setModeUnnamed named]
    rfl

theorem stepText (s : Session) (text : Json) :
    s.step (.setText text) = { s with query := { s.query with text := text } } := rfl

/- What one operation sets; all others keep the mode and the text. -/
theorem afterSets (s : Session) (operation : Operation) : (s.after operation).query =
    ⟨operation.mode?.getD s.query.mode, operation.text?.getD s.query.text⟩ := by
  cases operation with
  | event event =>
    cases event with
    | load listing => exact s.loadKeepsQuery listing
    | select name => exact s.selectKeepsQuery name
    | refresh => exact s.refreshKeepsQuery
    | fetched generation kind outcome => exact s.receiveKeepsQuery generation kind outcome
    | setMode value =>
      rw [after, stepMode]
      rfl
    | setText text => rfl
  | goTo | search | tool => rfl

theorem afterAllSets (limit : Option Amount) (operations : List Operation) :
    ((fresh limit).afterAll operations).query = querySet operations := by
  induction operations using List.reverseRecOn with
  | nil => rfl
  | append_singleton operations operation ih =>
    rw [afterAll, List.foldl_append, List.foldl_cons, List.foldl_nil, ← afterAll, afterSets, ih]
    simp only [querySet, latestAppend]

/- While the text of the query is a text, setting the mode fails exactly if the value names none. -/
theorem setModeFails {text : String} (set : s.query.text = .str text) (value : Json) :
    (s.sees (.event (.setMode value))).fails = true ↔ ∀ mode, Mode.ofJson value ≠ .ok mode := by
  unfold sees
  cases named : Mode.ofJson value with
  | ok mode =>
    have shown : (s.withQuery { s.query with mode := mode }).2 =
        .ok (Query.filter ⟨mode, text⟩ s.visible) := by
      simp only [withQuery, filtered, answer, set]
      rfl
    simp [setModeNamed named, Except.map, shown, Seen.fails]
  | error e => simp [setModeUnnamed named, Except.map, Seen.fails]

theorem setModeShows {value : Json} {mode : Mode} (named : Mode.ofJson value = .ok mode) :
    s.sees (.event (.setMode value)) =
      .documents (.ok (s.after (.event (.setMode value))).filtered) := by
  rw [after, stepMode, sees, setModeNamed named, named]
  rfl

theorem setsCommute (s : Session) (value text : Json) :
    (s.after (.event (.setMode value))).after (.event (.setText text)) =
      (s.after (.event (.setText text))).after (.event (.setMode value)) := by
  simp only [after, stepMode, stepText]

theorem filteredBy (s : Session) :
    s.filtered = if s.isCurrent then s.query.filter s.index.documents else .ok [] := by
  unfold filtered answer visible
  split
  · rfl
  · exact Draft.filterNothing _

theorem filteredText {text : String} (set : s.query.text = .str text) : s.filtered =
    .ok (if s.isCurrent then Query.filter ⟨s.query.mode, text⟩ s.index.documents else []) := by
  have draft : s.query = ⟨s.query.mode, .str text⟩ := by rw [← set]
  rw [filteredBy]
  split
  · rw [draft, Draft.filterText]
  · rfl

end Session

namespace Server

variable {server : Server}

theorem takeKeepsQuery (w : Waiter) : (server.take w).server.session.query = server.session.query := by
  unfold take
  dsimp only
  split
  · exact Session.selectKeepsQuery _ _
  · rfl

theorem stepKeepsQuery (event : ServerEvent) :
    (server.step event).session.query = server.session.query := by
  cases event with
  | arrive ticket =>
    simp only [step, serve, arrive]
    split
    · rfl
    · split
      · exact takeKeepsQuery _
      · rfl
  | resume =>
    simp only [step, serve, resume]
    split
    · exact takeKeepsQuery _
    · rfl
  | fetched generation kind outcome =>
    simp only [step, serve, receive]
    split
    · split <;> exact server.session.receiveKeepsQuery generation kind outcome
    · exact server.session.receiveKeepsQuery generation kind outcome

theorem runKeepsQuery (events : List ServerEvent) :
    (server.run events).session.query = server.session.query := by
  induction events generalizing server with
  | nil => rfl
  | cons event rest ih => exact ih.trans (stepKeepsQuery event)

end Server

namespace Session

/- The law of the query, for the session that any operations lead to. -/
structure LastSet (operations : List Operation) (s : Session) : Prop where
  query : s.query = querySet operations
  filtered : s.filtered =
    if s.isCurrent then (querySet operations).filter s.index.documents else .ok []
  texts : ∀ text, (querySet operations).text = .str text → s.filtered =
    .ok (if s.isCurrent then Query.filter ⟨(querySet operations).mode, text⟩ s.index.documents else [])
  fails : ∀ text, (querySet operations).text = .str text → ∀ value,
    (s.sees (.event (.setMode value))).fails = true ↔ ∀ mode, Mode.ofJson value ≠ .ok mode
  refused : ∀ value, (∀ mode, Mode.ofJson value ≠ .ok mode) → s.after (.event (.setMode value)) = s
  read : ∀ draft call, (s.after (.search draft)).query = s.query ∧ (s.after (.tool call)).query = s.query
  served : ∀ (server : Server) events, server.session = s → (server.run events).session.query = s.query
  showsMode : ∀ value mode, Mode.ofJson value = .ok mode →
    s.sees (.event (.setMode value)) = .documents (.ok (s.after (.event (.setMode value))).filtered)
  showsText : ∀ text,
    s.sees (.event (.setText text)) = .documents (.ok (s.after (.event (.setText text))).filtered)
  commute : ∀ value text, (s.after (.event (.setMode value))).after (.event (.setText text)) =
    (s.after (.event (.setText text))).after (.event (.setMode value))

theorem queryLastSet (limit : Option Amount) (operations : List Operation) :
    LastSet operations ((fresh limit).afterAll operations) := by
  have query := afterAllSets limit operations
  generalize (fresh limit).afterAll operations = s at query
  exact
    { query := query
      filtered := query ▸ s.filteredBy
      texts := fun text set => query ▸ filteredText (query ▸ set)
      fails := fun text set => setModeFails (query ▸ set)
      refused := fun value unnamed => rejectedKeeps (.setMode unnamed)
      read := fun _ _ => ⟨rfl, rfl⟩
      served := fun server events same => same ▸ Server.runKeepsQuery events
      showsMode := fun value mode named => setModeShows named
      showsText := fun _ => rfl
      commute := s.setsCommute }

example : querySet [.event (.setMode (.str "name")), .event (.setMode (.str "owner")), .event .refresh] =
    ⟨.only .name, .str ""⟩ := by
  decide +kernel

end Session

end PolicySearch
