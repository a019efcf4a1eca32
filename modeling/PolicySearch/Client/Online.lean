import PolicySearch.Client.Basic
import PolicySearch.Session.Basic
/-! A session over a client. Each operation is taken to its end before the next one: the fetches
of a rebuild are made kind after kind, and then reported. -/
namespace PolicySearch

def Outcome.ofResult : Except Fault Json → Outcome
  | .ok payload => .answered payload
  | .error fault => .failed fault

namespace Client

def fetchKinds (c : Client) (web : Web) (branch : String) :
    List Kind → Trail → List (Kind × Outcome) × Trail
  | [], t => ([], t)
  | kind :: rest, t =>
    let (result, t) := c.fetchDocuments web t branch kind.word
    let (outcomes, t) := fetchKinds c web branch rest t
    ((kind, .ofResult result) :: outcomes, t)

/-- Every kind of one branch; nothing is asked if no fetch may begin. -/
def gather (c : Client) (web : Web) (t : Trail) (allowed : Bool) (branch : String) :
    List (Kind × Outcome) × Trail :=
  if allowed then c.fetchKinds web branch Kind.all t else (Kind.all.map (·, .timedOut), t)

end Client

def Session.receiveAll (s : Session) (generation : Nat) (outcomes : List (Kind × Outcome)) :
    Effect :=
  outcomes.foldl (fun e (kind, outcome) =>
    let next := e.session.receive generation kind outcome
    { session := next.session
      log := e.log ++ next.log
      settled := e.settled.or next.settled }) { session := s }

structure Online where
  client : Client
  session : Session
  trail : Trail := {}
  deriving DecidableEq, Repr

namespace Online

def finish (o : Online) (web : Web) (effect : Effect) : Online :=
  let said := o.trail.say effect.log
  match effect.begun with
  | none => { o with session := effect.session, trail := said }
  | some rebuild =>
    let (outcomes, trail) := o.client.gather web said effect.session.fetches rebuild.branch
    let done := effect.session.receiveAll rebuild.generation outcomes
    { o with session := done.session, trail := trail.say done.log }

def load (o : Online) (web : Web) : Online :=
  let (listing, trail) := o.client.listBranches web o.trail
  { o with trail := trail }.finish web (o.session.load listing)

def select (o : Online) (web : Web) (branch : String) : Online :=
  o.finish web (o.session.select (.str branch))

end Online

end PolicySearch
