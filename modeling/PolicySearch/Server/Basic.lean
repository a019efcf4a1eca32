import PolicySearch.Tool.Answer
/-! A server of the tools over one session. A call that names another branch than the selected one
takes the switch first: it is handed to one call at a time, in the order in which they came, and
kept until the rebuild of that branch is over. A call that names no branch, or the selected one,
is answered at once. -/
namespace PolicySearch

inductive ToolCall where
  | branches
  | search (request : SearchRequest) (branch : Json)
  | lookup (request : LookupRequest) (branch : Json)
  | unusable (e : BadArgument)
  deriving DecidableEq, Repr

inductive ToolAnswer where
  | branches (list : BranchList)
  | search (answer : SearchAnswer)
  | lookup (answer : LookupAnswer)
  | unusable (e : BadArgument)

namespace ToolCall

/-- The branch that a call names; nothing, in whatever form, names none. -/
def branch? : ToolCall → Option Json
  | branches | unusable _ => none
  | search _ branch | lookup _ branch => if branch.isNothing then none else some branch

def answer (s : Session) : ToolCall → ToolAnswer
  | branches => .branches s.branchList
  | search request _ => .search (s.answerSearch request)
  | lookup request _ => .lookup (s.answerLookup request)
  | unusable e => .unusable e

def refuse (branch : Json) : ToolCall → Session → ToolAnswer
  | branches, s => .branches s.branchList
  | search .., _ => .search (.error (.unknownBranch branch))
  | lookup .., _ => .lookup (.error (.unknownBranch branch))
  | unusable e, _ => .unusable e

end ToolCall

def ToolAnswer.toJson : ToolAnswer → Json
  | branches list => list.toJson
  | search answer => SearchAnswer.toJson answer
  | lookup answer => LookupAnswer.toJson answer
  | unusable e => e.toJson

structure Ticket where
  number : Nat
  call : ToolCall
  deriving DecidableEq, Repr

structure Waiter where
  ticket : Ticket
  branch : Json
  deriving DecidableEq, Repr

structure Holder where
  ticket : Ticket
  generation : Nat
  deriving DecidableEq, Repr

structure Server where
  session : Session
  holder : Option Holder := none
  waiting : List Waiter := []
  deriving DecidableEq, Repr

structure Served where
  server : Server
  log : Log := []
  begun : Option Rebuild := none
  answers : List (Nat × ToolAnswer) := []

namespace Server

def wanted? (server : Server) (call : ToolCall) : Option Json :=
  call.branch?.filter fun branch => server.session.current.map Json.str != some branch

def take (server : Server) (w : Waiter) : Served :=
  let number := w.ticket.number
  if (server.session.branch? w.branch).isSome then
    let effect := server.session.select w.branch
    { server :=
        { server with
          session := effect.session
          holder := effect.begun.map fun rebuild => ⟨w.ticket, rebuild.generation⟩ }
      log := effect.log
      begun := effect.begun }
  else { server := server, answers := [(number, w.ticket.call.refuse w.branch server.session)] }

def arrive (server : Server) (ticket : Ticket) : Served :=
  match server.wanted? ticket.call with
  | none => { server := server, answers := [(ticket.number, ticket.call.answer server.session)] }
  | some branch =>
    if server.holder.isNone && server.waiting.isEmpty then server.take ⟨ticket, branch⟩
    else { server := { server with waiting := server.waiting ++ [⟨ticket, branch⟩] } }

def resume (server : Server) : Served :=
  match server.holder, server.waiting with
  | none, w :: rest => { server with waiting := rest }.take w
  | _, _ => { server := server }

def receive (server : Server) (generation : Nat) (kind : Kind) (outcome : Outcome) : Served :=
  let effect := server.session.receive generation kind outcome
  let next := { server with session := effect.session }
  match effect.settled, server.holder with
  | some (done, _), some holder =>
    if holder.generation = done then
      { server := { next with holder := none }
        log := effect.log
        answers := [(holder.ticket.number, holder.ticket.call.answer next.session)] }
    else { server := next, log := effect.log }
  | _, _ => { server := next, log := effect.log }

end Server

inductive ServerEvent where
  | arrive (ticket : Ticket)
  | resume
  | fetched (generation : Nat) (kind : Kind) (outcome : Outcome)

namespace Server

def serve (server : Server) : ServerEvent → Served
  | .arrive ticket => server.arrive ticket
  | .resume => server.resume
  | .fetched generation kind outcome => server.receive generation kind outcome

def step (server : Server) (event : ServerEvent) : Server := (server.serve event).server

end Server

end PolicySearch
