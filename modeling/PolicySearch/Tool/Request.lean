import PolicySearch.Amount
import PolicySearch.Search.Draft
/-! What the tools are asked. The values come as they were given and are read only when an answer
needs them: first how many results, then from where on, then the text, which is needed only if
there is a document to look at. -/
namespace PolicySearch

structure SearchRequest where
  query : Json := .str ""
  mode : Json := .str "all"
  limit : Json := .int 50
  offset : Json := .int 0
  format : Json := .str "concise"
  deriving DecidableEq, Repr

structure LookupRequest where
  kind : Json
  id : Json
  deriving DecidableEq, Repr

/-- How a tool takes an argument: by its place or its name, or by its name alone. -/
inductive Passing where
  | placed
  | named
  deriving DecidableEq, Repr

def Passing.word : Passing → String
  | placed => "positional"
  | named => "keyword-only"

/-- An argument that cannot be used: one that the tool does not have or that it fills itself, one
that it cannot do without, one that is no number or no text, or a number that is not whole. -/
inductive BadArgument where
  | unexpected (tool name : String)
  | repeated (tool name : String)
  | missing (tool : String) (passing : Passing) (names : List String)
  | limit (value : Json)
  | offset (value : Json)
  | query (e : NotText)
  | fraction
  deriving DecidableEq, Repr

namespace BadArgument

def missingText (passing : Passing) (names : List String) : String :=
  Number.natText names.length ++ " required " ++ passing.word ++
    (if names.length = 1 then " argument: " else " arguments: ") ++
    " and ".intercalate (names.map Text.quoted)

def fault : BadArgument → Fault
  | unexpected tool name =>
    ⟨.type, some (tool ++ "() got an unexpected keyword argument '" ++ name ++ "'")⟩
  | repeated tool name =>
    ⟨.type, some (tool ++ "() got multiple values for argument '" ++ name ++ "'")⟩
  | missing tool passing names =>
    ⟨.type, some (tool ++ "() missing " ++ missingText passing names)⟩
  | limit value =>
    ⟨.type, some ("'<' not supported between instances of 'int' and '" ++ value.typeName ++ "'")⟩
  | offset value =>
    ⟨.type, some ("'>' not supported between instances of '" ++ value.typeName ++ "' and 'int'")⟩
  | query e => e.fault
  | fraction =>
    ⟨.type, some "slice indices must be integers or None or have an __index__ method"⟩

def toJson (e : BadArgument) : Json :=
  .obj [("error", .str e.fault.cause.name), ("message", .str e.fault.text)]

end BadArgument

/-- The part of the results that is asked for. -/
structure Window where
  start : Nat
  size : Nat
  deriving DecidableEq, Repr

namespace SearchRequest

def mostResults : Nat := 200

def detailed (r : SearchRequest) : Bool := r.format == .str "detailed"

def limitGiven (r : SearchRequest) : Except BadArgument Amount :=
  match r.limit.amount? with
  | some limit => .ok limit
  | none => .error (.limit r.limit)

def offsetGiven (r : SearchRequest) : Except BadArgument Amount :=
  match r.offset.amount? with
  | some offset => .ok offset
  | none => .error (.offset r.offset)

def window (limit offset : Amount) : Except BadArgument Window :=
  match offset.fromZero, limit.within 1 mostResults with
  | some start, some size => .ok ⟨start, size⟩
  | _, _ => .error .fraction

def reading (r : SearchRequest) (mode : Mode) (documents : List Document) :
    Except BadArgument (Query × Window) := do
  let limit ← r.limitGiven
  let offset ← r.offsetGiven
  let query ← (Draft.queryFor ⟨mode, r.query⟩ documents).mapError .query
  let window ← window limit offset
  return (query, window)

theorem readingWhole {r : SearchRequest} {text : String} {limit offset : Int} (mode : Mode)
    (documents : List Document) (asked : r.query = .str text) (size : r.limit = .int limit)
    (start : r.offset = .int offset) :
    r.reading mode documents =
      .ok (⟨mode, text⟩, ⟨offset.toNat, max 1 (min limit.toNat mostResults)⟩) := by
  simp only [reading, limitGiven, offsetGiven, Draft.queryForText, asked, size, start, Json.amount?,
    window, Amount.fromZero, Amount.within]
  rfl

end SearchRequest

end PolicySearch
