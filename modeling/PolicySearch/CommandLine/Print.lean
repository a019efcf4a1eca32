import PolicySearch.Json.Writer
import PolicySearch.Search.Query
import PolicySearch.Session.Basic
import PolicySearch.Tool.Summary
/-! What the commands print. -/
namespace PolicySearch
open Number

namespace Print

def line (s : String) : String := s ++ "\n"

def branchLine (selected : Option String) (b : Branch) : String :=
  line ((if some b.id = selected then "*" else " ") ++ " " ++ b.id ++ "  version=" ++ b.version)

def branchList (s : Session) : String :=
  line (natText s.branches.length ++ " branches:\n") ++
    String.join (s.branches.map (branchLine s.current))

def descriptionLength : Nat := 60

def listed (label : String) (items : List String) : String :=
  if items.isEmpty then "" else line ("    " ++ label ++ ": " ++ ", ".intercalate items)

def document (d : Document) : String :=
  line ("  [" ++ d.kind.label ++ "] " ++ (if d.name.isEmpty then "(unnamed)" else d.name)) ++
  line ("    id=" ++ d.id) ++
  (if d.description.isEmpty then ""
    else line ("    description: " ++ Summary.shorten descriptionLength d.description)) ++
  listed "tags" d.tags ++
  listed "ACL Policies" d.acl ++
  listed "WAF Policies" d.waf ++
  listed "Rate Limits" d.rateLimits ++
  listed "URL Maps Entries" d.usedBy ++
  line ""

def results (branch : String) (size : Nat) (found : List Document) : String :=
  line ("Found " ++ natText found.length ++ " documents on " ++ branch ++ " (of " ++
    natText size ++ "):\n") ++ String.join (found.map document)

def documentJson (d : Document) : Json :=
  .obj
    [("id", .str d.id), ("type", .str d.kind.word), ("name", .str d.name),
      ("description", .str d.description), ("tags", Summary.texts d.tags),
      ("connectedACL", Summary.texts d.acl), ("connectedWAF", Summary.texts d.waf),
      ("connectedRateLimits", Summary.texts d.rateLimits),
      ("connectedURLMapEntries", Summary.texts d.usedBy)]

def resultsJson (branch : String) (mode : Mode) (found : List Document) : Json :=
  .obj
    [("branch", .str branch), ("mode", .str mode.word), ("results", .arr (found.map documentJson)),
      ("total", .int found.length)]

end Print

end PolicySearch
