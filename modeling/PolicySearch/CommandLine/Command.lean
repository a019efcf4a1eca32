import PolicySearch.CommandLine.Options
/-! The commands, and what is asked of each. -/
namespace PolicySearch

structure Global where
  verbose : Bool := false
  url : Option String := none
  cached : Bool := false
  deriving DecidableEq, Repr

structure SearchCommand where
  text : String := ""
  mode : String := "all"
  branch : Option String := none
  json : Bool := false
  deriving DecidableEq, Repr

structure LinkCommand where
  kind : String
  id : String
  branch : Option String := none
  deriving DecidableEq, Repr

inductive Command where
  | branches
  | search (c : SearchCommand)
  | link (c : LinkCommand)
  | serve
  deriving DecidableEq, Repr

inductive Verb where
  | branches
  | search
  | link
  | serve
  deriving DecidableEq, Repr

namespace Verb

def all : List Verb := [branches, search, link, serve]

def word : Verb → String
  | branches => "branches"
  | search => "search"
  | link => "link"
  | serve => "serve"

end Verb

namespace Command

def verboseFlag : OptionSpec := { word := "--verbose", letter := some 'v' }
def urlOption : OptionSpec := { word := "--url", letter := some 'u', takesValue := true }
def cacheFlag : OptionSpec := { word := "--cache", letter := some 'C' }
def modeOption : OptionSpec := { word := "--mode", letter := some 'm', takesValue := true }
def branchOption : OptionSpec := { word := "--branch", letter := some 'b', takesValue := true }
def jsonFlag : OptionSpec := { word := "--json", letter := some 'j' }

def installWord : OptionSpec := { word := "--install-completion" }
def showWord : OptionSpec := { word := "--show-completion" }

def globalOptions : List OptionSpec := [verboseFlag, urlOption, cacheFlag, installWord, showWord]

/-- The options before the command. Who wants completion is shown a screen, as for help. -/
def parseOptions (words : List String) : Except Screen Parsed := do
  let parsed ← OptionSpec.parseOrHelp globalOptions false words
  if parsed.has installWord.word || parsed.has showWord.word then .error .help else .ok parsed

/-- What is shown if the first argument is no command. It may be an option that two dashes kept
from being read, and help that is asked for there is still given. -/
def noCommand (arguments : List String) : Screen :=
  match parseOptions arguments with
  | .error screen => screen
  | .ok _ => .usage

def parseGlobal (words : List String) : Except Screen (Global × Verb × List String) := do
  let parsed ← parseOptions words
  let options : Global :=
    { verbose := parsed.has verboseFlag.word
      url := parsed.value? urlOption.word
      cached := parsed.has cacheFlag.word }
  match parsed.arguments with
  | [] => .error .usage
  | word :: rest =>
    match Verb.all.find? (·.word == word) with
    | none => .error (noCommand (word :: rest))
    | some verb => .ok (options, verb, rest)

def parseBare (command : Command) (words : List String) : Except Screen Command := do
  let parsed ← OptionSpec.parseOrHelp [] true words
  if parsed.arguments.isEmpty then .ok command else .error .usage

def parseSearch (words : List String) : Except Screen Command := do
  let parsed ← OptionSpec.parseOrHelp [modeOption, branchOption, jsonFlag] true words
  let command (text : String) : Command :=
    .search
      { text := text
        mode := (parsed.value? modeOption.word).getD "all"
        branch := parsed.value? branchOption.word
        json := parsed.has jsonFlag.word }
  match parsed.arguments with
  | [] => .ok (command "")
  | [text] => .ok (command text)
  | _ => .error .usage

def parseLink (words : List String) : Except Screen Command := do
  let parsed ← OptionSpec.parseOrHelp [branchOption] true words
  match parsed.arguments with
  | [kind, id] => .ok (.link { kind := kind, id := id, branch := parsed.value? branchOption.word })
  | _ => .error .usage

def parse : Verb → List String → Except Screen Command
  | .branches => parseBare .branches
  | .search => parseSearch
  | .link => parseLink
  | .serve => parseBare .serve

end Command

end PolicySearch
