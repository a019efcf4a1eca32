import PolicySearch.Session.Run
import PolicySearch.Source.Memory
/-! A session over a service in memory. A rebuild begins its six fetches in order; each is
answered at once, or waits while it is held back, or meets the end of its time if there is a
limit. A fetch that waited takes what the service holds when it is let go. -/
namespace PolicySearch

structure Task where
  number : Nat
  answers : Bool
  deriving DecidableEq, Repr

structure Waiting where
  generation : Nat
  branch : String
  kind : Kind
  deriving DecidableEq, Repr

structure Play where
  session : Session
  source : MemorySource
  waiting : List Waiting := []
  /-- The operations that wait for a rebuild, by its generation. -/
  tasks : List (Nat × Task) := []
  deriving DecidableEq, Repr

structure Moved where
  play : Play
  log : Log := []
  ended : List (Nat × Option Bool) := []
  deriving DecidableEq, Repr

namespace Play

def answerOf (task : Task) (flag : Bool) : Nat × Option Bool :=
  (task.number, if task.answers then some flag else none)

def deliver (m : Moved) (w : Waiting) (outcome : Outcome) : Moved :=
  let effect := m.play.session.receive w.generation w.kind outcome
  let ended := match effect.settled with
    | none => []
    | some (generation, installed) =>
      (m.play.tasks.lookup generation).toList.map (answerOf · installed)
  { play := { m.play with session := effect.session }
    log := m.log ++ effect.log
    ended := m.ended ++ ended }

def ask (m : Moved) (w : Waiting) : Moved :=
  if m.play.source.holds w.branch w.kind then
    if m.play.session.limit.isSome then deliver m w .timedOut
    else { m with play := { m.play with waiting := m.play.waiting ++ [w] } }
  else deliver m w (m.play.source.fetch w.branch w.kind)

def start (p : Play) (task : Task) (effect : Effect) : Moved :=
  match effect.begun with
  | none =>
    { play := { p with session := effect.session }
      log := effect.log
      ended := [answerOf task false] }
  | some rebuild =>
    let begun : Moved :=
      { play :=
          { p with
            session := effect.session
            tasks := (rebuild.generation, task) :: p.tasks }
        log := effect.log }
    (Kind.all.map (Waiting.mk rebuild.generation rebuild.branch)).foldl ask begun

def load (p : Play) (number : Nat) : Moved :=
  p.start ⟨number, false⟩ (p.session.load p.source.listing)

def select (p : Play) (number : Nat) (name : Json) : Moved :=
  p.start ⟨number, true⟩ (p.session.select name)

def refresh (p : Play) (number : Nat) : Moved := p.start ⟨number, true⟩ p.session.refresh

def release (p : Play) (branch : String) (kind : Kind) : Moved :=
  let free (w : Waiting) : Bool := w.branch == branch && w.kind == kind
  let opened : Play :=
    { p with
      source := p.source.release branch kind
      waiting := p.waiting.filter (!free ·) }
  (p.waiting.filter free).foldl
    (fun m w => deliver m w (opened.source.fetch branch kind)) { play := opened }

end Play

end PolicySearch
