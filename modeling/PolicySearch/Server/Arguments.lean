import PolicySearch.Server.Basic
/-! Tool calls from a tool's name and its arguments by name. What is missing has its usual value.
An argument that the tool does not have, or that it fills itself, makes the call unusable, and so
does the want of one that has no usual value. -/
namespace PolicySearch

def Json.argument (args : Json) (key : String) (usual : Json) : Json := (args.get? key).getD usual

/-- The arguments that a tool takes. It fills `own` itself, and cannot do without `needed`. -/
structure Parameters where
  tool : String
  own : String
  passing : Passing
  names : List String
  needed : List String := []

namespace Parameters

/-- What is wrong with some arguments: the first name that cannot be used, else all that are
missing. -/
def fault? (p : Parameters) (args : Json) : Option BadArgument :=
  match args.members.find? fun member => !p.names.contains member.1 with
  | some (name, _) => some (if name = p.own then .repeated p.tool name else .unexpected p.tool name)
  | none =>
    let missing := p.needed.filter fun name => (args.get? name).isNone
    if missing.isEmpty then none else some (.missing p.tool p.passing missing)

def read {α : Type} (p : Parameters) (make : Json → α) (args : Json) : Except BadArgument α :=
  match p.fault? args with
  | some e => .error e
  | none => .ok (make args)

end Parameters

namespace SearchRequest

def parameters : Parameters where
  tool := "docsearch_search"
  own := "session"
  passing := .named
  names := ["query", "mode", "limit", "offset", "response_format"]

def ofArguments (args : Json) : SearchRequest :=
  let usual : SearchRequest := {}
  { query := args.argument "query" usual.query
    mode := args.argument "mode" usual.mode
    limit := args.argument "limit" usual.limit
    offset := args.argument "offset" usual.offset
    format := args.argument "response_format" usual.format }

def read : Json → Except BadArgument SearchRequest := parameters.read ofArguments

end SearchRequest

namespace LookupRequest

def parameters : Parameters where
  tool := "docsearch_get_document"
  own := "session"
  passing := .named
  names := ["doc_type", "doc_id"]
  needed := ["doc_type", "doc_id"]

def ofArguments (args : Json) : LookupRequest where
  kind := args.argument "doc_type" .null
  id := args.argument "doc_id" .null

def read : Json → Except BadArgument LookupRequest := parameters.read ofArguments

end LookupRequest

namespace ToolCall

def branchName : String := "branch"

def named (args : Json) : Json := args.argument branchName .null

def ofRead : Except BadArgument ToolCall → ToolCall
  | .ok call => call
  | .error e => .unusable e

/-- A tool as the server offers it: it is handed its context, and its arguments have places. -/
def served (tool : String) (names needed : List String) : Parameters where
  tool := tool ++ "_tool"
  own := "ctx"
  passing := .placed
  names := names
  needed := needed

def readBranches : Json → Except BadArgument ToolCall :=
  (served "docsearch_list_branches" [] []).read fun _ => .branches

def readSearch : Json → Except BadArgument ToolCall :=
  let plain := SearchRequest.parameters
  (served plain.tool (branchName :: plain.names) plain.needed).read fun args =>
    .search (.ofArguments args) (named args)

def readLookup : Json → Except BadArgument ToolCall :=
  let plain := LookupRequest.parameters
  (served plain.tool (branchName :: plain.names) plain.needed).read fun args =>
    .lookup (.ofArguments args) (named args)

def ofArguments? (tool : String) (args : Json) : Option ToolCall :=
  if tool = "list" then some (ofRead (readBranches args))
  else if tool = "search" then some (ofRead (readSearch args))
  else if tool = "get" then some (ofRead (readLookup args))
  else none

end ToolCall

end PolicySearch
