import PolicySearch.Fault
import PolicySearch.Json.Display
/-! Branches of the configuration, and their listing. An item of the listing without an id is
passed over; the other fields are shown as text and may be missing. -/
namespace PolicySearch

structure Branch where
  id : String
  version : String
  description : String
  date : String
  deriving DecidableEq, Repr

namespace Branch

/-- The text of a field that may be missing; null is shown like any other value. -/
def fieldText (item : Json) (key : String) : String := ((item.get? key).map Json.plain).getD ""

def ofJson? (item : Json) : Option Branch :=
  ((item.get? "id").bind Json.text?).map fun id =>
    { id := id
      version := fieldText item "version"
      description := fieldText item "description"
      date := fieldText item "date" }

def listing (payload : Json) : Except Fault (List Json) :=
  match payload.items? with
  | some items => .ok items
  | none => .error ⟨.type, some ("branch listing is not a list: " ++ payload.typeName)⟩

def readListing (payload : Json) : Except Fault (List Branch × List Json) :=
  (listing payload).map fun items =>
    (items.filterMap ofJson?, items.filter fun item => (ofJson? item).isNone)

end Branch

end PolicySearch
