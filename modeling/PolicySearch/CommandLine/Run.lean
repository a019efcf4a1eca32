import PolicySearch.Client.Online
import PolicySearch.CommandLine.Command
import PolicySearch.CommandLine.Print
import PolicySearch.Text.ControlSequence
/-! One run of the program: from the words of the command line to what is printed, what is logged
and how the run ends. The level of the log is settled before the words of the command are read,
and the mode or kind that is asked for before the service is. -/
namespace PolicySearch

structure Ended where
  status : Nat := 0
  printed : String := ""
  trail : Trail
  fault : Option Fault := none

namespace Command

def origin : String := "docsearch.cli"

def complain (message : String) : Log := [⟨.error, origin, message⟩]

def openSession (o : Online) (web : Web) (branch : Option String) : Online :=
  let loaded := o.load web
  match Settings.filled branch with
  | none => loaded
  | some name =>
    if loaded.session.current = some name then loaded else loaded.select web name

def requireBranch (s : Session) (branch : Option String) : Except Log String :=
  match Settings.filled branch, s.current with
  | some name, current =>
    if current = some name then .ok name else .error (complain ("Branch not found: " ++ name))
  | none, some current => .ok current
  | none, none => .error (complain "No configuration branches available.")

structure Place where
  web : Web
  settings : Settings
  client : Client
  cache : Cache

def Place.trail (p : Place) (log : Log) : Trail := { cache := p.cache, log := log }

def Place.withSession (p : Place) (branch : Option String) (act : Online → Ended) : Ended :=
  let ready := p.trail p.client.ready
  match Session.chooseLimit none p.settings with
  | .error e => { status := 1, trail := ready, fault := some ⟨.value, some e.message⟩ }
  | .ok limit =>
    act (openSession { client := p.client, session := { limit := limit }, trail := ready }
      p.web branch)

def Place.withBranch (p : Place) (branch : Option String) (act : Online → String → Ended) : Ended :=
  p.withSession branch fun online =>
    match requireBranch online.session branch with
    | .ok name => act online name
    | .error complaint => { status := 1, trail := online.trail.say complaint }

def runBranches (p : Place) : Ended :=
  p.withSession none fun online =>
    if online.session.branches.isEmpty then
      { status := 1, printed := Print.line "No branches found.", trail := online.trail }
    else { printed := Print.branchList online.session, trail := online.trail }

/-- The session is told the mode and then the text, and shows what it has each time. -/
def found (s : Session) (mode : Mode) (text : String) : Except Fault (List Document) := do
  let (moded, shown) ← (s.setMode (.str mode.word)).mapError fun e => ⟨.value, some e.message⟩
  let _ ← shown.mapError NotText.fault
  (moded.setText (.str text)).2.mapError NotText.fault

def runSearch (p : Place) (c : SearchCommand) : Ended :=
  match Mode.ofText c.mode with
  | .error e => { status := 2, trail := p.trail (complain e.message) }
  | .ok mode =>
    p.withBranch c.branch fun online branch =>
      match found online.session mode c.text with
      | .error fault => { status := 1, trail := online.trail, fault := some fault }
      | .ok found =>
        { printed :=
            if c.json then Print.line (Print.resultsJson branch mode found).writeLong
            else Print.results branch online.session.index.size found
          trail := online.trail }

def runLink (p : Place) (c : LinkCommand) : Ended :=
  match Kind.ofWord? c.kind with
  | none => { status := 2, trail := p.trail (complain ("Unknown document type: " ++ c.kind)) }
  | some kind =>
    p.withBranch c.branch fun online _ =>
      let (target, said) := online.session.goTo (.str kind.word) c.id
      let ended : Ended := { trail := online.trail.say said }
      match target, online.session.index.find? kind c.id with
      | some target, some _ => { ended with printed := Print.line target.path }
      | _, _ =>
        { ended with
          status := 1
          printed := Print.line ("Document '" ++ c.kind ++ "/" ++ c.id ++ "' not found.") }

def execute (p : Place) : Command → Ended
  | branches => runBranches p
  | search c => runSearch p c
  | link c => runLink p c
  | serve => { trail := p.trail [] }

end Command

inductive Stream where
  | text (s : String)
  | screen (s : Screen)
  deriving DecidableEq, Repr

structure Run where
  status : Nat := 0
  output : Stream := .text ""
  errors : Stream := .text ""
  cache : Cache
  asked : List Asked := []
  fault : Option Fault := none
  /-- The run is to go on as a server. -/
  serves : Bool := false

namespace Run

def ofScreen (cache : Cache) : Screen → Run
  | .help => { output := .screen .help, cache := cache }
  | .usage => { status := 2, errors := .screen .usage, cache := cache }

def ofBadLevel (cache : Cache) (e : BadLevel) : Run :=
  { status := 1, cache := cache, fault := some e.fault }

def ofEnded (threshold : Level) (ended : Ended) : Run where
  status := ended.status
  output := .text (String.ofList (Text.withoutSequences ended.printed.toList))
  errors := .text (ended.trail.log.written threshold)
  cache := ended.trail.cache
  asked := ended.trail.asked
  fault := ended.fault

def clientOf (settings : Settings) (stem : String) (options : Global) : Client where
  root := settings.root options.url
  cacheStem := if options.cached then some stem else none

/-- Carries out a command with the level of the log already settled. The server settles it again,
as if nothing had been said about it. -/
def command (web : Web) (settings : Settings) (stem : String) (cache : Cache) (options : Global)
    (threshold : Level) (command : Command) : Run :=
  if command = .serve then
    match settings.threshold false with
    | .error e => ofBadLevel cache e
    | .ok _ => { cache := cache, serves := true }
  else
    let place : Command.Place :=
      { web := web, settings := settings, client := clientOf settings stem options, cache := cache }
    ofEnded threshold (command.execute place)

/-- A run from its words. `stem` stands before the names of kept texts. -/
def ofWords (web : Web) (settings : Settings) (stem : String) (cache : Cache)
    (words : List String) : Run :=
  match Command.parseGlobal words with
  | .error screen => ofScreen cache screen
  | .ok (options, verb, rest) =>
    match settings.threshold options.verbose with
    | .error e => ofBadLevel cache e
    | .ok threshold =>
      match Command.parse verb rest with
      | .error screen => ofScreen cache screen
      | .ok c => command web settings stem cache options threshold c

end Run

end PolicySearch
