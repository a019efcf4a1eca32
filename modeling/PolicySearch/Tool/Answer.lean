import PolicySearch.Session.Basic
import PolicySearch.Tool.Request
import PolicySearch.Tool.Summary
/-! The three tools over a session: the branches, a page of a search, one document. A call that
cannot be answered is refused for one reason, and neither a search nor a look-up changes the
session. -/
namespace PolicySearch
open Number

structure BranchList where
  branches : List Branch
  selected : Option String
  deriving DecidableEq, Repr

inductive SearchRefusal where
  | unknownMode (e : UnknownMode)
  | noBranch
  | indexing (branch : String)
  | unknownBranch (name : Json)
  | badArgument (e : BadArgument)
  deriving DecidableEq, Repr

structure Page where
  branch : String
  results : List Summary
  total : Nat
  /-- Where the next page starts, if there is more. -/
  nextOffset : Option Nat
  deriving DecidableEq, Repr

inductive LookupRefusal where
  | unknownKind (value : Json)
  | notFound (kind id : Json)
  | unknownBranch (name : Json)
  deriving DecidableEq, Repr

structure Found where
  summary : Summary
  stored : Json
  deriving DecidableEq, Repr

abbrev SearchAnswer := Except SearchRefusal Page
abbrev LookupAnswer := Except LookupRefusal Found

def Window.page (w : Window) (branch : String) (detailed : Bool) (matched : List Document) : Page :=
  let shown := (matched.drop w.start).take w.size
  { branch := branch
    results := shown.map (Summary.ofDocument branch detailed)
    total := matched.length
    nextOffset :=
      if w.start + shown.length < matched.length then some (w.start + w.size) else none }

namespace Session

def branchList (s : Session) : BranchList := ⟨s.branches, s.current⟩

/-- The mode and the branch of a search, if there can be one now. -/
def searchable (s : Session) (mode : Json) : Except SearchRefusal (Mode × String) :=
  match Mode.ofJson mode, s.current with
  | .error e, _ => .error (.unknownMode e)
  | .ok _, none => .error .noBranch
  | .ok mode, some branch => if s.isCurrent then .ok (mode, branch) else .error (.indexing branch)

def answerSearch (s : Session) (r : SearchRequest) : SearchAnswer :=
  match s.searchable r.mode with
  | .error why => .error why
  | .ok (mode, branch) =>
    match r.reading mode s.visible with
    | .error e => .error (.badArgument e)
    | .ok (query, window) => .ok (window.page branch r.detailed (s.search query))

def answerLookup (s : Session) (r : LookupRequest) : LookupAnswer :=
  match Kind.ofJson r.kind with
  | .error _ => .error (.unknownKind r.kind)
  | .ok kind =>
    match s.index.branch, if s.isCurrent then r.id.text?.bind (s.index.find? kind) else none with
    | some branch, some d => .ok ⟨Summary.ofDocument branch true d, d.raw⟩
    | _, _ => .error (.notFound r.kind r.id)

end Session

def branchMissing (name : Json) : String := "Branch '" ++ name.plain ++ "' not found."

namespace BranchList

def item (b : Branch) : Json :=
  .obj [("id", .str b.id), ("version", .str b.version), ("description", .str b.description),
    ("date", .str b.date)]

def toJson (list : BranchList) : Json :=
  .obj [("branches", .arr (list.branches.map item)), ("count", .int list.branches.length),
    ("selected", (list.selected.map Json.str).getD .null)]

end BranchList

namespace SearchRefusal

def message : SearchRefusal → String
  | unknownMode e => e.message
  | noBranch => "No configuration branch available."
  | indexing branch => "Branch '" ++ branch ++ "' is still being indexed."
  | unknownBranch name => branchMissing name
  | badArgument e => e.fault.text

def toJson : SearchRefusal → Json
  | badArgument e => e.toJson
  | why =>
    .obj [("error", .str why.message), ("results", .arr []), ("count", .int 0), ("total", .int 0)]

end SearchRefusal

namespace Page

def hasMore (p : Page) : Bool := p.nextOffset.isSome

def toJson (p : Page) : Json :=
  .obj
    ([("branch", .str p.branch), ("results", .arr (p.results.map Summary.toJson)),
      ("count", .int p.results.length), ("total", .int p.total), ("has_more", .bool p.hasMore)] ++
    (p.nextOffset.map fun next => ("next_offset", Json.int next)).toList)

end Page

namespace LookupRefusal

def message : LookupRefusal → String
  | unknownKind value =>
    "Unknown document type '" ++ value.plain ++ "', expected one of: " ++ Kind.words
  | notFound kind id => "Document '" ++ kind.plain ++ "/" ++ id.plain ++ "' not found."
  | unknownBranch name => branchMissing name

def toJson (why : LookupRefusal) : Json := .obj [("error", .str why.message)]

end LookupRefusal

def Found.toJson (f : Found) : Json := .obj (f.summary.fields ++ [("document", f.stored)])

def SearchAnswer.toJson : SearchAnswer → Json
  | .ok page => page.toJson
  | .error why => why.toJson

def LookupAnswer.toJson : LookupAnswer → Json
  | .ok found => found.toJson
  | .error why => why.toJson

theorem Session.searchUnknownMode {s : Session} {r : SearchRequest} {e : UnknownMode}
    (unknown : Mode.ofJson r.mode = .error e) : s.answerSearch r = .error (.unknownMode e) := by
  unfold answerSearch searchable
  rw [unknown]

end PolicySearch
