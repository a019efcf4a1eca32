import PolicySearch.Client.Exchange
import PolicySearch.CommandLine.Run
import PolicySearch.Server.Arguments
import PolicySearch.Server.Service
import Std.Async.DNS
import Std.Async.TCP
/-! The program. A run is a function of the replies of the service; it is repeated, with one more
reply each time, until it asks for none that is missing. -/
namespace PolicySearch.Program
open Std.Async Std.Net

def cacheFolder : String := "/tmp/docsearch-cache"

def cacheStem : String := cacheFolder ++ "/cache-"

def readSettings : IO Settings := do
  return {
    apiUrl := ← IO.getEnv "DOCSEARCH_API_URL"
    fetchTimeout := ← IO.getEnv "DOCSEARCH_FETCH_TIMEOUT"
    logLevel := ← IO.getEnv "DOCSEARCH_LOG_LEVEL" }

partial def receiveAll (socket : TCP.Socket.Client) (received : ByteArray) : Async ByteArray := do
  match ← socket.recv? 65536 with
  | some bytes => receiveAll socket (received ++ bytes)
  | none => return received

def socketAddress (ip : IPAddr) (number : UInt16) : SocketAddress :=
  match ip with
  | .v4 addr => .v4 { addr := addr, port := number }
  | .v6 addr => .v6 { addr := addr, port := number }

def exchange (address : Address) : Async Reply := do
  let found ← DNS.getAddrInfo address.host ""
  let some ip := found[0]? | return .unreachable ("no address for " ++ address.host)
  let socket ← TCP.Socket.Client.mk
  socket.connect (socketAddress ip address.portNumber.toUInt16)
  socket.send address.requestText.toUTF8
  let received ← receiveAll socket ByteArray.empty
  match String.fromUTF8? received with
  | some text => return .ofReceived text
  | none => return .unreachable "the reply is no text"

def fetch (url : String) : IO Reply := do
  match Address.ofUrl? url with
  | none => return .unreachable ("no connection for " ++ url)
  | some address =>
    try (exchange address).block
    catch e => return .unreachable (toString e)

structure Known where
  replies : List (String × Reply) := []
  cache : Cache := []

def Known.web (k : Known) : Web := fun url => (k.replies.lookup url).getD (.unreachable "")

def readKept (request : Asked) : IO (Option String) := do
  match request.keptAs with
  | none => return none
  | some path => try return some (← IO.FS.readFile path) catch _ => return none

def learn (k : Known) (request : Asked) : IO Known := do
  match ← readKept request, request.keptAs with
  | some text, some path =>
    return { k with cache := k.cache.write (String.ofList (path.toList.drop cacheStem.length)) text }
  | _, _ => return { k with replies := (request.url, ← fetch request.url) :: k.replies }

partial def complete {α : Type} (k : Known) (asked : α → List Asked) (run : Known → α) :
    IO (Known × α) := do
  let result := run k
  match (asked result).find? fun request => (k.replies.lookup request.url).isNone with
  | none => return (k, result)
  | some request => complete (← learn k request) asked run

def keepTexts (before after : Cache) : IO Unit := do
  for (name, text) in after do
    if (before.lookup name).isNone then
      IO.FS.createDirAll cacheFolder
      IO.FS.writeFile (cacheStem ++ name) text

def usage : String :=
  "Usage: docsearch [--verbose] [--url URL] [--cache] COMMAND\n\n" ++
  "Commands:\n" ++
  "  branches\n" ++
  "  search [TEXT] [--mode MODE] [--branch BRANCH] [--json]\n" ++
  "  link TYPE ID [--branch BRANCH]\n" ++
  "  serve\n"

def streamText : Stream → String
  | .text s => s
  | .screen _ => usage

partial def serveLines (service : Service) (input output : IO.FS.Stream) : IO Unit := do
  let line ← input.getLine
  if line.isEmpty then return
  let request := (Json.ofText line).toOption.getD .null
  match ToolCall.ofArguments? (request.argument "tool" .null).plain (request.argument "args" .null)
    with
  | none => serveLines service input output
  | some call =>
    let (_, next, answers) ← complete {} (·.1.trail.asked)
      fun k => { service with trail := {} }.answerAll k.web [call]
    for answer in answers do
      output.putStrLn answer.toJson.write
    output.flush
    serveLines next input output

def serve (settings : Settings) : IO UInt32 := do
  let asked : Except BadTimeout Service → List Asked
    | .ok service => service.trail.asked
    | .error _ => []
  let (_, started) ← complete {} asked fun k => Service.start k.web settings
  match started with
  | .error e =>
    IO.eprintln e.message
    return 1
  | .ok service =>
    serveLines service (← IO.getStdin) (← IO.getStdout)
    return 0

end PolicySearch.Program

open PolicySearch PolicySearch.Program in
def main (words : List String) : IO UInt32 := do
  let settings ← readSettings
  let (known, run) ← complete {} Run.asked
    fun k => Run.ofWords k.web settings cacheStem k.cache words
  keepTexts known.cache run.cache
  IO.print (streamText run.output)
  IO.eprint (streamText run.errors)
  if let some fault := run.fault then
    IO.eprintln (fault.cause.name ++ ": " ++ fault.text)
  if run.serves then serve settings else return run.status.toUInt32
