import PolicySearch.Fault
import PolicySearch.Json.Reader
import PolicySearch.Number.Decimal
import PolicySearch.Text.Points
/-! What a service sends back for one address, and what it is worth: a value, or a reason why
there is none. -/
namespace PolicySearch
open Number Text

structure Response where
  status : Nat := 200
  reason : String := "OK"
  body : Points := []
  deriving DecidableEq, Repr

inductive Reply where
  | response (r : Response)
  /-- The transport gave up. -/
  | unreachable (reason : String)
  /-- The request failed for a reason of another kind. -/
  | raised (fault : Fault)
  deriving DecidableEq, Repr

abbrev Web := String → Reply

namespace Response

def notFound : Response := ⟨404, "Not Found", []⟩

def statusText (side : String) (r : Response) (url : String) : String :=
  natText r.status ++ " " ++ side ++ " Error: " ++ r.reason ++ " for url: " ++ url

def refusal? (r : Response) (url : String) : Option String :=
  if 400 ≤ r.status ∧ r.status < 500 then some (statusText "Client" r url)
  else if 500 ≤ r.status ∧ r.status < 600 then some (statusText "Server" r url)
  else none

end Response

def Json.ReadError.cause (e : Json.ReadError) : Cause :=
  match e.reason with
  | .digits _ => .value
  | .nesting _ => .nesting
  | _ => .json

def Json.ReadError.fault (e : Json.ReadError) : Fault := ⟨e.cause, some e.message⟩

end PolicySearch
