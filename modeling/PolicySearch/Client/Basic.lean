import PolicySearch.Client.Reply
import PolicySearch.Client.Trail
import PolicySearch.Json.Display
/-! A client of the configuration service. With a cache it answers a path from the kept text if
there is one, and keeps the text of every good response, which fails if the text cannot be written;
without one it always asks. -/
namespace PolicySearch

structure Client where
  root : String
  /-- What stands before the names of kept texts; absent if nothing is kept. -/
  cacheStem : Option String := none
  deriving DecidableEq, Repr

namespace Client

def origin : String := "docsearch.api"

def debug (message : String) : Log := [⟨.debug, origin, message⟩]

/-- What is said of a client, with the wish for a cache as it was given. -/
def ready (c : Client) (cached : Json := .bool c.cacheStem.isSome) : Log :=
  debug ("API ready: base_url " ++ Text.quoted c.root ++ ", from_cache " ++ cached.quoted ++
    ", api_cache_prefix " ++ (c.cacheStem.map Text.quoted).getD "None")

def url (c : Client) (path : String) : String :=
  c.root ++ "/" ++ Text.trimmedStart (· == '/') path

def failed (path reason : String) : Fault :=
  ⟨.fetch, some ("API call failed: " ++ Text.quoted path ++ " -> " ++ reason)⟩

/-- A wrong value, or a text that is no JSON, makes the call fail; other faults stay as they are. -/
def ofFault (path : String) (fault : Fault) : Fault :=
  match fault.cause with
  | .value | .json | .encoding => failed path fault.text
  | _ => fault

/-- The value of a reply, with the text that is worth keeping. -/
def valueOf (path url : String) : Reply → Except Fault (Json × Text.Points)
  | .response r =>
    match r.refusal? url, Json.ofText r.body.shown with
    | some reason, _ => .error (failed path reason)
    | none, .ok value => .ok (value, r.body)
    | none, .error e => .error (ofFault path e.fault)
  | .unreachable reason => .error (failed path reason)
  | .raised fault => .error (ofFault path fault)

def request (c : Client) (web : Web) (t : Trail) (path : String) : Except Fault Json × Trail :=
  let url := c.url path
  let name := Cache.nameOf path
  let asked := (t.say (debug ("Making request: " ++ Text.quoted path))).ask
    ⟨url, c.cacheStem.map (· ++ name)⟩
  match valueOf path url (web url) with
  | .error fault => (.error fault, asked)
  | .ok (value, text) =>
    match c.cacheStem with
    | none => (.ok value, asked)
    | some stem =>
      let (kept, trail) := asked.keep stem name text
      (kept.map fun _ => value, trail)

def reread (text : String) : Except Fault Json :=
  (Json.ofText text).mapError Json.ReadError.fault

def call (c : Client) (web : Web) (t : Trail) (path : String) : Except Fault Json × Trail :=
  let name := Cache.nameOf path
  match c.cacheStem, t.cache.read? name with
  | some stem, some text =>
    (reread text, t.say (debug ("Filled from cache: " ++ Text.quoted (stem ++ name))))
  | _, _ => c.request web t path

/-- A path can be given as any value, but only a text is one. Without a cache it is asked for before
that shows. -/
def callAny (c : Client) (web : Web) (t : Trail) (path : Json) : Except Fault Json × Trail :=
  match path.text?, c.cacheStem with
  | some path, _ => c.call web t path
  | none, some _ => (.error (.lacking path "strip"), t)
  | none, none =>
    (.error (.lacking path "lstrip"), t.say (debug ("Making request: " ++ path.quoted)))

def listingPath : String := "configs/"

def documentsPath (branch kind : String) : String := "configs/" ++ branch ++ "/d/" ++ kind ++ "/"

def listBranches (c : Client) (web : Web) (t : Trail) : Except Fault Json × Trail :=
  c.call web t listingPath

def fetchDocuments (c : Client) (web : Web) (t : Trail) (branch kind : String) :
    Except Fault Json × Trail :=
  c.call web t (documentsPath branch kind)

end Client

end PolicySearch
