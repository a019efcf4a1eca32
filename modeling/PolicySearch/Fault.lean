import PolicySearch.Json.Basic
import PolicySearch.Text.Quoted
/-! Why a request or a fetch failed: the cause, and what was said with it. -/
namespace PolicySearch

inductive Cause where
  | fetch
  | runtime
  | value
  | type
  | key
  | os
  | timeout
  | json
  | encoding
  | member
  | nesting
  | overflow
  deriving DecidableEq, Repr

def Cause.name : Cause → String
  | fetch => "FetchError"
  | runtime => "RuntimeError"
  | value => "ValueError"
  | type => "TypeError"
  | key => "KeyError"
  | os => "OSError"
  | timeout => "TimeoutError"
  | json => "JSONDecodeError"
  | encoding => "UnicodeEncodeError"
  | member => "AttributeError"
  | nesting => "RecursionError"
  | overflow => "OverflowError"

structure Fault where
  cause : Cause
  message : Option String := none
  deriving DecidableEq, Repr

namespace Fault

def text (fault : Fault) : String :=
  match fault.message with
  | none => ""
  | some message => if fault.cause = .key then Text.quoted message else message

def reason (fault : Fault) : String := if fault.text.isEmpty then fault.cause.name else fault.text

/-- A value of the wrong kind, as something is asked of it that its kind does not have. -/
def lacking (value : Json) (member : String) : Fault :=
  ⟨.member, some ("'" ++ value.typeName ++ "' object has no attribute '" ++ member ++ "'")⟩

end Fault

end PolicySearch
