import PolicySearch.Proofs.Session.Rejected
/-! A session under another limit. It reads its limit only through the outcome that the limit bars the
fetches with, and for the words of its log; so under two limits that bar alike every run has the same
states and shows the same, but for the log. -/
namespace PolicySearch

/- What shows of an operation, without what a rebuild says in the log. -/
def Seen.unlogged : Seen → Seen
  | .effect _ begun settled => .effect [] begun settled
  | seen => seen

namespace Session

def relimited (s : Session) (limit : Option Amount) : Session := { s with limit := limit }

/- The effect of the same event under another limit. -/
structure Alike (limit : Option Amount) (own other : Effect) : Prop where
  session : other.session = own.session.relimited limit
  begun : other.begun = own.begun
  settled : other.settled = own.settled

variable {s : Session} {limit : Option Amount}

theorem beginAlike (same : Outcome.barred? s.limit = Outcome.barred? limit) (branch : String) :
    Alike limit (s.beginRebuild branch) ((s.relimited limit).beginRebuild branch) := by
  have fetches : (s.relimited limit).fetches = s.fetches := by rw [fetches, fetches, same]; rfl
  refine ⟨?_, rfl, rfl⟩
  unfold beginRebuild
  rw [fetches]
  rfl

theorem selectAlike (same : Outcome.barred? s.limit = Outcome.barred? limit) (name : Json) :
    Alike limit (s.select name) ((s.relimited limit).select name) := by
  have known : (s.relimited limit).branch? name = s.branch? name := rfl
  unfold Session.select
  rw [known]
  cases s.branch? name with
  | none => exact ⟨rfl, rfl, rfl⟩
  | some b => exact beginAlike (s := { s with current := some b.id }) same b.id

theorem refreshAlike (same : Outcome.barred? s.limit = Outcome.barred? limit) :
    Alike limit s.refresh (s.relimited limit).refresh := by
  have selected : (s.relimited limit).current = s.current := rfl
  unfold Session.refresh
  rw [selected]
  cases s.current with
  | none => exact ⟨rfl, rfl, rfl⟩
  | some branch => exact beginAlike same branch

theorem selectFirstAlike (same : Outcome.barred? s.limit = Outcome.barred? limit) :
    Alike limit s.selectFirst (s.relimited limit).selectFirst := by
  have selected : (s.relimited limit).current = s.current := rfl
  have known : (s.relimited limit).branches = s.branches := rfl
  unfold selectFirst
  rw [selected, known]
  cases s.current with
  | some _ => exact ⟨rfl, rfl, rfl⟩
  | none =>
    cases s.branches with
    | nil => exact ⟨rfl, rfl, rfl⟩
    | cons b _ => exact selectAlike same (.str b.id)

theorem loadAlike (same : Outcome.barred? s.limit = Outcome.barred? limit)
    (listing : Except Fault Json) :
    Alike limit (s.load listing) ((s.relimited limit).load listing) := by
  obtain ⟨session, begun, settled⟩ :=
    selectFirstAlike (s := { s with branches := (branchesOf listing).1 }) same
  exact ⟨session, begun, settled⟩

theorem settleAlike (s : Session) (limit : Option Amount) (r : Rebuild) :
    Alike limit (s.settle r) ((s.relimited limit).settle r) := by
  unfold settle
  by_cases newest : r.generation = s.generation ∧ s.current = some r.branch
  · have newest' : r.generation = (s.relimited limit).generation ∧
      (s.relimited limit).current = some r.branch := newest
    rw [if_pos newest, if_pos newest']
    exact ⟨rfl, rfl, rfl⟩
  · have newest' : ¬ (r.generation = (s.relimited limit).generation ∧
      (s.relimited limit).current = some r.branch) := newest
    rw [if_neg newest, if_neg newest']
    exact ⟨rfl, rfl, rfl⟩

theorem receiveAlike (same : Outcome.barred? s.limit = Outcome.barred? limit) (generation : Nat)
    (kind : Kind) (outcome : Outcome) : Alike limit (s.receive generation kind outcome)
      ((s.relimited limit).receive generation kind outcome) := by
  have effective : (s.relimited limit).effective outcome = s.effective outcome := by
    rw [effective, effective, same]
    rfl
  have flying : (s.relimited limit).inFlight = s.inFlight := rfl
  unfold receive
  rw [effective, flying]
  cases s.inFlight.find? (·.generation == generation) with
  | none => exact ⟨rfl, rfl, rfl⟩
  | some old =>
    dsimp only
    by_cases complete : (old.receive kind (s.effective outcome)).complete = true
    · rw [if_pos complete, if_pos complete]
      exact settleAlike { s with inFlight := without generation s.inFlight } limit _
    · rw [if_neg complete, if_neg complete]
      exact ⟨rfl, rfl, rfl⟩

theorem setModeAlike (s : Session) (limit : Option Amount) (value : Json) :
    (s.relimited limit).setMode value = (s.setMode value).map fun (next, shown) =>
      (next.relimited limit, shown) := by
  unfold setMode
  cases Mode.ofJson value <;> rfl

theorem effectAlike (same : Outcome.barred? s.limit = Outcome.barred? limit) (event : Event) :
    Alike limit (s.effect event) ((s.relimited limit).effect event) := by
  cases event with
  | load listing => exact loadAlike same listing
  | select name => exact selectAlike same name
  | refresh => exact refreshAlike same
  | fetched generation kind outcome => exact receiveAlike same generation kind outcome
  | setMode value =>
    simp only [effect, setModeAlike]
    cases s.setMode value <;> exact ⟨rfl, rfl, rfl⟩
  | setText text => exact ⟨rfl, rfl, rfl⟩

theorem answerAlike (s : Session) (limit : Option Amount) (call : ToolCall) :
    call.answer (s.relimited limit) = call.answer s := by
  have selected : (s.relimited limit).current = s.current := rfl
  have current : (s.relimited limit).isCurrent = s.isCurrent := rfl
  have visible : (s.relimited limit).visible = s.visible := rfl
  have search : (s.relimited limit).search = s.search := rfl
  have index : (s.relimited limit).index = s.index := rfl
  cases call with
  | branches | unusable => rfl
  | search r _ =>
    simp only [ToolCall.answer, answerSearch, searchable, selected, current, visible, search]
  | lookup r _ => simp only [ToolCall.answer, answerLookup, current, index]

theorem afterAlike (same : Outcome.barred? s.limit = Outcome.barred? limit) (operation : Operation) :
    (s.relimited limit).after operation = (s.after operation).relimited limit := by
  cases operation with
  | event event => exact (effectAlike same event).session
  | goTo | search | tool => rfl

theorem seesAlike (same : Outcome.barred? s.limit = Outcome.barred? limit) (operation : Operation) :
    ((s.relimited limit).sees operation).unlogged = (s.sees operation).unlogged := by
  cases operation with
  | event event =>
    have alike := effectAlike same event
    cases event with
    | setMode value =>
      simp only [sees, setModeAlike]
      cases s.setMode value <;> rfl
    | setText text => rfl
    | load | select | refresh | fetched =>
      simp only [sees, Seen.unlogged, alike.begun, alike.settled]
  | goTo | search => rfl
  | tool call => exact congrArg (Seen.unlogged ∘ Seen.answer) (s.answerAlike limit call)

theorem afterLimit (s : Session) (operation : Operation) : (s.after operation).limit = s.limit := by
  cases operation with
  | event event => exact limitKept s event
  | goTo | search | tool => rfl

/- Two runs of the same operations: the same states but for the limit, and the same to be seen. -/
theorem runAlike (same : Outcome.barred? s.limit = Outcome.barred? limit) (operations : List Operation) :
    (s.relimited limit).afterAll operations = (s.afterAll operations).relimited limit ∧
      ((s.relimited limit).seesAll operations).map Seen.unlogged =
        (s.seesAll operations).map Seen.unlogged := by
  induction operations generalizing s with
  | nil => exact ⟨rfl, rfl⟩
  | cons operation rest ih =>
    have next := afterAlike same operation
    obtain ⟨states, shown⟩ := ih (s := s.after operation) (by rw [afterLimit, same])
    refine ⟨(congrArg (afterAll · rest) next).trans states, ?_⟩
    rw [seesAll, seesAll, List.map_cons, List.map_cons, seesAlike same, next, shown]

/- What the same operations come to under two limits: the same index at every point of the run, and the
same to be seen of every operation. -/
def Agree (first second : Option Amount) : Prop :=
  ∀ operations, ((fresh first).afterAll operations).index = ((fresh second).afterAll operations).index ∧
    ((fresh first).seesAll operations).map Seen.unlogged =
      ((fresh second).seesAll operations).map Seen.unlogged

theorem agreeBarred {first second : Option Amount}
    (same : Outcome.barred? first = Outcome.barred? second) : Agree first second := by
  intro operations
  obtain ⟨states, shown⟩ := runAlike (s := fresh first) same operations
  exact ⟨(congrArg Session.index states).symm, shown.symm⟩

end Session

end PolicySearch
