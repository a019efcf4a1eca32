import PolicySearch.Proofs.Session.Links
/-! Operations that a session rejects: the selection of an unknown branch, a refresh while no branch is
selected, a mode that there is not, a link to an unknown kind of document. Each is refused and leaves the
session as it was, whatever is in flight; so the rest of a run goes on as if it had not been asked for. -/
namespace PolicySearch

/- What is asked of a session, or reported to it. -/
inductive Operation where
  | event (event : Event)
  | goTo (kind : Json) (id : String)
  | search (draft : Draft)
  | tool (call : ToolCall)

/- What shows of an operation. One that begins a rebuild is answered when it is settled, and one that
could begin a rebuild and does not is answered with no. -/
inductive Seen where
  | effect (log : Log) (begun : Option Rebuild) (settled : Option (Nat × Bool))
  | documents (result : Except UnknownMode (Except NotText (List Document)))
  | link (link : Option Link) (log : Log)
  | answer (answer : ToolAnswer)

inductive Refusal : Operation → Seen → Prop where
  | select (name : Json) (log : Log) : Refusal (.event (.select name)) (.effect log none none)
  | refresh : Refusal (.event .refresh) (.effect [] none none)
  | setMode (value : Json) : Refusal (.event (.setMode value)) (.documents (.error ⟨value⟩))
  | goTo (kind : Json) (id : String) (log : Log) : Refusal (.goTo kind id) (.link none log)

namespace Session

def after (s : Session) : Operation → Session
  | .event event => s.step event
  | .goTo .. | .search _ | .tool _ => s

def sees (s : Session) : Operation → Seen
  | .event (.setMode value) => .documents ((s.setMode value).map Prod.snd)
  | .event (.setText text) => .documents (.ok (s.setText text).2)
  | .event event => .effect (s.effect event).log (s.effect event).begun (s.effect event).settled
  | .goTo kind id => .link (s.goTo kind id).1 (s.goTo kind id).2
  | .search draft => .documents (.ok (s.answer draft))
  | .tool call => .answer (call.answer s)

def afterAll (s : Session) (operations : List Operation) : Session := operations.foldl after s

def seesAll (s : Session) : List Operation → List Seen
  | [] => []
  | operation :: rest => s.sees operation :: (s.after operation).seesAll rest

inductive Rejected (s : Session) : Operation → Prop where
  | select {name : Json} (unknown : ∀ b ∈ s.branches, name ≠ .str b.id) :
      Rejected s (.event (.select name))
  | refresh (unselected : s.current = none) : Rejected s (.event .refresh)
  | setMode {value : Json} (unknown : ∀ mode, Mode.ofJson value ≠ .ok mode) :
      Rejected s (.event (.setMode value))
  | goTo {kind : Json} (id : String) (unknown : ∀ known : Kind, kind ≠ .str known.word) :
      Rejected s (.goTo kind id)

variable {s : Session} {operation : Operation}

theorem branchUnknown {name : Json} (unknown : ∀ b ∈ s.branches, name ≠ .str b.id) :
    s.branch? name = none := by
  cases found : s.branch? name with
  | none => rfl
  | some b =>
    obtain ⟨same, listed⟩ := branchNamed found
    exact absurd same (unknown b listed)

theorem setModeUnknown {value : Json} (unknown : ∀ mode, Mode.ofJson value ≠ .ok mode) :
    s.setMode value = .error ⟨value⟩ := by
  cases read : Mode.ofJson value with
  | ok mode => exact absurd read (unknown mode)
  | error e =>
    have same : e = ⟨value⟩ := by
      unfold Mode.ofJson at read
      split at read <;> cases read
      rfl
    rw [setModeUnnamed read, same]

theorem goToUnknown {kind : Json} (id : String) (unknown : ∀ known : Kind, kind ≠ .str known.word) :
    (s.goTo kind id).1 = none := by
  cases read : Kind.ofJson kind with
  | ok known => exact absurd (Kind.ofJsonIff.1 read) (unknown known)
  | error e =>
    rw [goTo, read]
    cases s.index.branch <;> rfl

/- A rejected operation leaves the whole session as it was: branches, selection, index, query,
generation, the rebuilds in flight with what they have, and the number of fetches. -/
theorem rejectedKeeps (rejected : s.Rejected operation) : s.after operation = s := by
  cases rejected with
  | select unknown => exact (selectUnknown (branchUnknown unknown)).1
  | refresh unselected => exact congrArg Effect.session (refreshUnselected unselected)
  | setMode unknown => rw [after, step, effect, setModeUnknown unknown]
  | goTo => rfl

theorem rejectedRefused (rejected : s.Rejected operation) : Refusal operation (s.sees operation) := by
  cases rejected with
  | select unknown =>
    simp only [sees, effect, Session.select, branchUnknown unknown]
    exact .select _ _
  | refresh unselected =>
    simp only [sees, effect, refreshUnselected unselected]
    exact .refresh
  | setMode unknown =>
    rw [sees, setModeUnknown unknown]
    exact .setMode _
  | goTo id unknown =>
    rw [sees, goToUnknown id unknown]
    exact .goTo _ _ _

theorem seesAppend (s : Session) (first second : List Operation) :
    s.seesAll (first ++ second) = s.seesAll first ++ (s.afterAll first).seesAll second := by
  induction first generalizing s with
  | nil => rfl
  | cons operation rest ih => exact congrArg (s.sees operation :: ·) (ih (s.after operation))

/- A run with a rejected operation somewhere in it, beside the same run without it. -/
theorem rejectedUnnoticed (limit : Option Amount) (before : List Operation)
    (rejected : ((fresh limit).afterAll before).Rejected operation) (rest : List Operation) :
    let s := (fresh limit).afterAll before
    s.after operation = s ∧ Refusal operation (s.sees operation) ∧
      (fresh limit).afterAll (before ++ operation :: rest) =
        (fresh limit).afterAll (before ++ rest) ∧
      (fresh limit).seesAll (before ++ operation :: rest) =
        (fresh limit).seesAll before ++ s.sees operation :: s.seesAll rest ∧
      (fresh limit).seesAll (before ++ rest) = (fresh limit).seesAll before ++ s.seesAll rest := by
  have kept := rejectedKeeps rejected
  refine ⟨kept, rejectedRefused rejected, ?_, ?_, seesAppend _ before rest⟩
  · unfold afterAll at kept ⊢
    rw [List.foldl_append, List.foldl_append, List.foldl_cons, kept]
  · rw [seesAppend, seesAll, kept]

/- An unknown branch is selected while a rebuild is in flight, and the rebuild installs its index all
the same. -/
theorem rejectedUnnoticedMidSwitch :
    let before := midSwitch.map Operation.event
    let rest := Kind.all.map fun kind => Operation.event (.fetched 2 kind (.answered (.arr [])))
    ((fresh none).afterAll before).inFlight = [{ generation := 2, branch := "b" }] ∧
      ((fresh none).afterAll before).Rejected (.event (.select (.str "c"))) ∧
      ((fresh none).afterAll (before ++ .event (.select (.str "c")) :: rest)).index.branch =
        some "b" := by
  intro before rest
  have rejected : ((fresh none).afterAll before).Rejected (.event (.select (.str "c"))) :=
    .select (by decide +kernel)
  obtain ⟨-, -, same, -⟩ := rejectedUnnoticed none before rejected rest
  refine ⟨by decide +kernel, rejected, ?_⟩
  rw [same]
  decide +kernel

end Session

end PolicySearch
