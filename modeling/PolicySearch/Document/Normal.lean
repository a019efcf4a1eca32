import PolicySearch.Document.Basic
import PolicySearch.FirstSeen
/-! From a stored value to a document. Each kind keeps its description and its tags under keys of
its own. Nothing is refused: what is missing is empty, a text field that holds something else is
shown as text, and a value that is no object gives an empty document. -/
namespace PolicySearch

def Kind.descriptionKey : Kind → Option String
  | aclPolicies | urlMaps | wafPolicies => none
  | tagRules | flowControl => some "notes"
  | rateLimits => some "description"

def Kind.tagKeys : Kind → List String
  | aclPolicies => ["allow", "allow_bot", "deny_bot", "bypass", "deny", "force_deny"]
  | tagRules => ["tags"]
  | flowControl => ["include", "exclude"]
  | urlMaps | rateLimits | wafPolicies => []

def Json.identifier? : Json → Option String
  | .str s => if s.isEmpty then none else some s
  | _ => none

namespace Document

/-- The text under a key: nothing for null, and a value that is no string as it is displayed. -/
def textAt (raw : Json) (key : String) : String :=
  match raw.get? key with
  | none | some .null => ""
  | some value => value.plain

def descriptionOf (raw : Json) (kind : Kind) : String :=
  match kind.descriptionKey with
  | none => ""
  | some key => textAt raw key

def itemsAt (raw : Json) (key : String) : List Json := ((raw.get? key).bind Json.items?).getD []

def tagsOf (raw : Json) (kind : Kind) : List String :=
  firstSeen ((kind.tagKeys.flatMap (itemsAt raw)).filterMap Json.identifier?)

def normalize (raw : Json) (kind : Kind) : Document where
  id := textAt raw "id"
  kind := kind
  name := textAt raw "name"
  description := descriptionOf raw kind
  tags := tagsOf raw kind
  raw := raw

theorem tagsDistinct (raw : Json) (kind : Kind) : (tagsOf raw kind).Nodup := firstSeenDistinct _

end Document

end PolicySearch
