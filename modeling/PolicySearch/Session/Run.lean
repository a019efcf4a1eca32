import PolicySearch.Session.Basic
/-! Everything that can happen to a session, as events. Fetches of different rebuilds may be
reported in any order, and a report that no rebuild waits for changes nothing. -/
namespace PolicySearch

inductive Event where
  | load (listing : Except Fault Json)
  | select (name : Json)
  | refresh
  | fetched (generation : Nat) (kind : Kind) (outcome : Outcome)
  | setMode (value : Json)
  | setText (text : Json)

namespace Session

def effect (s : Session) : Event → Effect
  | .load listing => s.load listing
  | .select name => s.select name
  | .refresh => s.refresh
  | .fetched generation kind outcome => s.receive generation kind outcome
  | .setMode value =>
    match s.setMode value with
    | .ok (next, _) => { session := next }
    | .error _ => { session := s }
  | .setText text => { session := (s.setText text).1 }

def step (s : Session) (event : Event) : Session := (s.effect event).session

def run (s : Session) (events : List Event) : Session := events.foldl step s

theorem runAppend (s : Session) (first second : List Event) :
    s.run (first ++ second) = (s.run first).run second := List.foldl_append

end Session

end PolicySearch
