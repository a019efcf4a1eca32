import PolicySearch.Branch
import PolicySearch.Link
import PolicySearch.Search.Draft
import PolicySearch.Session.Rebuild
import PolicySearch.Settings
/-! A search session: the known branches, the selected one, the installed index and the query.
Selecting a branch begins a rebuild, and any number of rebuilds can be in flight. Each has a
generation, and when it is complete its index is installed only if no later rebuild has begun;
so a slow answer for a branch that was left never replaces a newer index. A branch is asked for by
any value, and only a text names one. -/
namespace PolicySearch

structure Session where
  limit : Option Amount := none
  branches : List Branch := []
  current : Option String := none
  index : Index := {}
  generation : Nat := 0
  inFlight : List Rebuild := []
  query : Draft := {}
  /-- All fetches that were begun, in order. -/
  asked : List Fetch := []
  deriving DecidableEq, Repr

structure Effect where
  session : Session
  log : Log := []
  begun : Option Rebuild := none
  /-- The rebuild that became complete, and whether its index was installed. -/
  settled : Option (Nat × Bool) := none
  deriving DecidableEq, Repr

namespace Session

def origin : String := "docsearch.core.branches"

def chooseLimit (given : Option Amount) (settings : Settings) :
    Except BadTimeout (Option Amount) :=
  match given with
  | some limit => .ok (some limit)
  | none => settings.fetchLimit.map fun limit => limit.map Amount.real

def branch? (s : Session) (name : Json) : Option Branch :=
  name.text?.bind fun id => s.branches.find? (·.id == id)

def isCurrent (s : Session) : Bool := s.index.branch == s.current

def fetches (s : Session) : Bool := (Outcome.barred? s.limit).isNone

def beginRebuild (s : Session) (branch : String) : Effect :=
  let rebuild : Rebuild := { generation := s.generation + 1, branch := branch }
  { session :=
      { s with
        generation := s.generation + 1
        inFlight := s.inFlight ++ [rebuild]
        asked := if s.fetches then s.asked ++ rebuild.asks else s.asked }
    begun := some rebuild }

def select (s : Session) (name : Json) : Effect :=
  match s.branch? name with
  | some known => beginRebuild { s with current := some known.id } known.id
  | none =>
    { session := s
      log := [⟨.warning, origin, "Ignoring selection of unknown branch " ++ name.quoted⟩] }

def refresh (s : Session) : Effect :=
  match s.current with
  | none => { session := s }
  | some branch => s.beginRebuild branch

def selectFirst (s : Session) : Effect :=
  match s.current, s.branches with
  | none, first :: _ => s.select (.str first.id)
  | _, _ => { session := s }

def branchesOf (listing : Except Fault Json) : List Branch × Log :=
  match listing.bind Branch.readListing with
  | .error fault =>
    ([], [⟨.error, origin, "Error while attempting to get configs: " ++ fault.text⟩])
  | .ok (branches, skipped) =>
    (branches, skipped.map fun item =>
      ⟨.debug, origin, "Skipping malformed branch entry: " ++ item.quoted⟩)

def knownText (branches : List Branch) : String :=
  (Json.arr (branches.map fun b => .str b.id)).quoted

def load (s : Session) (listing : Except Fault Json) : Effect :=
  let (branches, said) := branchesOf listing
  let first := selectFirst { s with branches := branches }
  { first with
    log := said ++ [⟨.debug, origin, "Known branches: " ++ knownText branches⟩] ++ first.log }

def settle (s : Session) (r : Rebuild) : Effect :=
  let report := r.report s.limit
  if r.generation = s.generation ∧ s.current = some r.branch then
    { session := { s with index := r.index }, log := report, settled := some (r.generation, true) }
  else
    { session := s
      log := report ++ [⟨.debug, origin, "Discarding stale index for branch " ++
        Text.quoted r.branch ++ " (generation " ++ Number.natText r.generation ++ ", latest " ++
        Number.natText s.generation ++ ")"⟩]
      settled := some (r.generation, false) }

/-- The outcome that counts: that of a fetch that may not begin is settled before. -/
def effective (s : Session) (outcome : Outcome) : Outcome :=
  (Outcome.barred? s.limit).getD outcome

def without (generation : Nat) (rebuilds : List Rebuild) : List Rebuild :=
  rebuilds.filter (·.generation != generation)

def replace (r : Rebuild) (rebuilds : List Rebuild) : List Rebuild :=
  rebuilds.map fun old => if old.generation = r.generation then r else old

def receive (s : Session) (generation : Nat) (kind : Kind) (outcome : Outcome) : Effect :=
  match s.inFlight.find? (·.generation == generation) with
  | none => { session := s }
  | some old =>
    let r := old.receive kind (s.effective outcome)
    if r.complete then settle { s with inFlight := without generation s.inFlight } r
    else { session := { s with inFlight := replace r s.inFlight } }

/-- The documents that a search looks at. -/
def visible (s : Session) : List Document := if s.isCurrent then s.index.documents else []

def search (s : Session) (q : Query) : List Document := q.filter s.visible

def answer (s : Session) (d : Draft) : Except NotText (List Document) := d.filter s.visible

def filtered (s : Session) : Except NotText (List Document) := s.answer s.query

/-- The query is kept even if it cannot be answered. -/
def withQuery (s : Session) (d : Draft) : Session × Except NotText (List Document) :=
  let next := { s with query := d }
  (next, next.filtered)

def setMode (s : Session) (value : Json) :
    Except UnknownMode (Session × Except NotText (List Document)) :=
  (Mode.ofJson value).map fun mode => s.withQuery { s.query with mode := mode }

def setText (s : Session) (text : Json) : Session × Except NotText (List Document) :=
  s.withQuery { s.query with text := text }

def goTo (s : Session) (kind : Json) (id : String) : Option Link × Log :=
  match s.index.branch, Kind.ofJson kind with
  | none, _ => (none, [])
  | some branch, .ok kind => (some ⟨branch, kind, id⟩, [])
  | some _, .error _ =>
    (none, [⟨.warning, origin, "Ignoring link to unknown document type " ++ kind.quoted⟩])

theorem branchNamed {s : Session} {name : Json} {b : Branch} (known : s.branch? name = some b) :
    name = .str b.id ∧ b ∈ s.branches := by
  obtain ⟨id, spelled, found⟩ := Option.bind_eq_some_iff.1 known
  have same : b.id = id := by simpa using List.find?_some found
  refine ⟨?_, List.mem_of_find?_eq_some found⟩
  cases name <;> simp_all [Json.text?]

theorem selectUnknown {s : Session} {name : Json} (unknown : s.branch? name = none) :
    (s.select name).session = s ∧ (s.select name).begun = none := by
  simp [select, unknown]

theorem selectFirstNone {s : Session} (empty : s.branches = []) : s.selectFirst = { session := s } := by
  rw [selectFirst, empty]
  split <;> simp_all

theorem selectFirstListed {s : Session} {first : Branch} {rest : List Branch}
    (unselected : s.current = none) (listed : s.branches = first :: rest) :
    s.selectFirst = { s with current := some first.id }.beginRebuild first.id := by
  have found : s.branch? (.str first.id) = some first := by
    simp [branch?, Json.text?, listed]
  unfold selectFirst
  split
  · rename_i head _ _ same
    obtain rfl := (List.cons.inj (same.symm.trans listed)).1
    simp only [select, found]
  · rename_i other
    exact absurd listed (other first rest unselected)

theorem refreshUnselected {s : Session} (none : s.current = none) :
    s.refresh = { session := s } := by
  simp [refresh, none]

theorem setModeNamed {s : Session} {value : Json} {mode : Mode} (named : Mode.ofJson value = .ok mode) :
    s.setMode value = .ok (s.withQuery { s.query with mode := mode }) := by
  rw [setMode, named]
  rfl

theorem setModeUnnamed {s : Session} {value : Json} {e : UnknownMode}
    (unnamed : Mode.ofJson value = .error e) : s.setMode value = .error e := by
  rw [setMode, unnamed]
  rfl

theorem selectKeepsQuery (s : Session) (name : Json) : (s.select name).session.query = s.query := by
  unfold select
  split <;> rfl

theorem refreshKeepsQuery (s : Session) : s.refresh.session.query = s.query := by
  unfold refresh
  split <;> rfl

theorem loadKeepsQuery (s : Session) (listing : Except Fault Json) :
    (s.load listing).session.query = s.query := by
  have first (branches : List Branch) :
      (selectFirst { s with branches := branches }).session.query = s.query := by
    unfold selectFirst
    split
    · exact selectKeepsQuery _ _
    · rfl
  exact first (branchesOf listing).1

theorem receiveKeepsQuery (s : Session) (generation : Nat) (kind : Kind) (outcome : Outcome) :
    (s.receive generation kind outcome).session.query = s.query := by
  unfold receive settle
  split
  · rfl
  · dsimp only
    split
    · split <;> rfl
    · rfl

end Session

end PolicySearch
