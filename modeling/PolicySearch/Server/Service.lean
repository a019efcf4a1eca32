import PolicySearch.Client.Online
import PolicySearch.Server.Basic
/-! The server over a client. Calls that come together are started in order, each as far as it
goes; then the rebuild in flight is fetched and ended, its call is answered, and the next call
that waits gets the switch. -/
namespace PolicySearch
open Number

structure Service where
  client : Client
  server : Server
  trail : Trail := {}
  deriving DecidableEq, Repr

structure Round where
  service : Service
  begun : Option Rebuild := none
  answers : List (Nat × ToolAnswer) := []

namespace Service

def origin : String := "docsearch.mcp.server"

def start (web : Web) (settings : Settings) : Except BadTimeout Service :=
  let client : Client := { root := settings.root settings.apiUrl }
  (Session.chooseLimit none settings).map fun limit =>
    let first : Online :=
      { client := client, session := { limit := limit }, trail := { log := client.ready } }
    let online := first.load web
    { client := client
      server := { session := online.session }
      trail := online.trail.say
        [⟨.info, origin, "Indexed " ++ natText online.session.index.size ++
          " documents on branch " ++ online.session.current.getD "None"⟩] }

def note (round : Round) (served : Served) : Round where
  service :=
    { round.service with server := served.server, trail := round.service.trail.say served.log }
  begun := served.begun.or round.begun
  answers := round.answers ++ served.answers

def arrive (round : Round) (ticket : Ticket) : Round :=
  note round (round.service.server.arrive ticket)

def settle (web : Web) (round : Round) : Round :=
  match round.begun with
  | none => round
  | some rebuild =>
    let service := round.service
    let (outcomes, trail) :=
      service.client.gather web service.trail service.server.session.fetches rebuild.branch
    let asked : Round := { round with service := { service with trail := trail }, begun := none }
    outcomes.foldl (fun round (kind, outcome) =>
      note round (round.service.server.receive rebuild.generation kind outcome)) asked

/-- Settles, and hands the switch on, as often as there are calls that can wait. -/
def drain (web : Web) : Nat → Round → Round
  | 0, round => settle web round
  | calls + 1, round =>
    let settled := settle web round
    drain web calls (note settled settled.service.server.resume)

def answerAll (service : Service) (web : Web) (calls : List ToolCall) :
    Service × List ToolAnswer :=
  let tickets := calls.zipIdx.map fun (call, number) => Ticket.mk number call
  let round := drain web calls.length (tickets.foldl arrive { service := service })
  (round.service, tickets.filterMap fun ticket => round.answers.lookup ticket.number)

end Service

end PolicySearch
