import PolicySearch.Client.Reply
/-! One exchange with a service: the address of a request in its parts, the text that is sent, and
the reply that a received text stands for. Only plain addresses are spoken to; the connection ends
with the reply. -/
namespace PolicySearch
open Number

structure Address where
  host : String
  portNumber : Nat := 80
  target : String := "/"
  deriving DecidableEq, Repr

namespace Address

def scheme : List Char := "http://".toList

def splitPort (authority : List Char) : Option (String × Nat) :=
  let host := authority.takeWhile (· != ':')
  match authority.dropWhile (· != ':') with
  | [] => some (String.ofList host, 80)
  | _ :: digits => (String.ofList digits).toNat?.map fun number => (String.ofList host, number)

def ofUrl? (url : String) : Option Address :=
  if scheme.isPrefixOf url.toList then
    let rest := url.toList.drop scheme.length
    let target := rest.dropWhile (· != '/')
    (splitPort (rest.takeWhile (· != '/'))).map fun (host, number) =>
      { host := host
        portNumber := number
        target := if target.isEmpty then "/" else String.ofList target }
  else none

def requestText (a : Address) : String :=
  "GET " ++ a.target ++ " HTTP/1.0\r\nHost: " ++ a.host ++ ":" ++ natText a.portNumber ++
    "\r\nAccept: application/json\r\n\r\n"

end Address

namespace Response

/-- The head of a received text and what follows the first empty line. -/
def splitHead : List Char → Option (List Char × List Char)
  | '\r' :: '\n' :: '\r' :: '\n' :: body => some ([], body)
  | c :: rest => (splitHead rest).map fun (head, body) => (c :: head, body)
  | [] => none

def ofReceived? (received : String) : Option Response := do
  let (head, body) ← splitHead received.toList
  let afterVersion := (head.takeWhile (· != '\r')).dropWhile (· != ' ')
  let words := afterVersion.drop 1
  let status ← (String.ofList (words.takeWhile (· != ' '))).toNat?
  return {
    status := status
    reason := String.ofList ((words.dropWhile (· != ' ')).drop 1)
    body := body.map .char }

end Response

def Reply.ofReceived (received : String) : Reply :=
  match Response.ofReceived? received with
  | some answer => .response answer
  | none => .unreachable "the reply has no head"

end PolicySearch
