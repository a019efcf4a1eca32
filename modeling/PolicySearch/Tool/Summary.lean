import PolicySearch.Index.Basic
import PolicySearch.Link
/-! A document as an answer shows it: with its link, and with its connections where it has some. -/
namespace PolicySearch

inductive Shown where
  | targets (acl waf rateLimits : List String)
  | users (names : List String)
  | nothing
  deriving DecidableEq, Repr

structure Summary where
  id : String
  kind : Kind
  name : String
  description : String
  link : Link
  tags : List String
  connections : Shown
  deriving DecidableEq, Repr

namespace Summary

def conciseLength : Nat := 120

def shorten (length : Nat) (s : String) : String := String.ofList (s.toList.take length)

def connectionsOf (d : Document) : Shown :=
  if d.kind = .urlMaps then .targets d.acl d.waf d.rateLimits
  else if d.usedBy.isEmpty then .nothing
  else .users d.usedBy

def ofDocument (branch : String) (detailed : Bool) (d : Document) : Summary where
  id := d.id
  kind := d.kind
  name := d.name
  description := if detailed then d.description else shorten conciseLength d.description
  link := ⟨branch, d.kind, d.id⟩
  tags := d.tags
  connections := connectionsOf d

def texts (items : List String) : Json := .arr (items.map .str)

def connectionFields : Shown → List (String × Json)
  | .targets acl waf rateLimits =>
    [("connections",
      .obj [("acl", texts acl), ("waf", texts waf), ("rate_limits", texts rateLimits)])]
  | .users names => [("connections", .obj [("url_map_entries", texts names)])]
  | .nothing => []

def fields (s : Summary) : List (String × Json) :=
  [("id", .str s.id), ("type", .str s.kind.word), ("name", .str s.name),
    ("description", .str s.description), ("link", .str s.link.path)] ++
  (if s.tags.isEmpty then [] else [("tags", texts s.tags)]) ++ connectionFields s.connections

def toJson (s : Summary) : Json := .obj s.fields

theorem linkOfDocument (branch : String) (detailed : Bool) (d : Document) :
    (ofDocument branch detailed d).link = ⟨branch, d.kind, d.id⟩ := rfl

end Summary

end PolicySearch
