import PolicySearch.Json.Display
/-! The kinds of documents, in the order in which they are fetched and merged. -/
namespace PolicySearch

inductive Kind where
  | aclPolicies
  | tagRules
  | urlMaps
  | flowControl
  | rateLimits
  | wafPolicies
  deriving DecidableEq, Hashable, Repr

namespace Kind

def all : List Kind := [aclPolicies, tagRules, urlMaps, flowControl, rateLimits, wafPolicies]

def word : Kind → String
  | aclPolicies => "aclpolicies"
  | tagRules => "tagrules"
  | urlMaps => "urlmaps"
  | flowControl => "flowcontrol"
  | rateLimits => "ratelimits"
  | wafPolicies => "wafpolicies"

def label : Kind → String
  | aclPolicies => "ACL Policies"
  | tagRules => "Tag Rules"
  | urlMaps => "URL Maps"
  | flowControl => "Flow Control"
  | rateLimits => "Rate Limits"
  | wafPolicies => "WAF Policies"

def ofWord? (word : String) : Option Kind := all.find? (·.word == word)

def position (kind : Kind) : Nat := all.idxOf kind

def words : String := ", ".intercalate (all.map word)

def isReferenced : Kind → Bool
  | aclPolicies | rateLimits | wafPolicies => true
  | tagRules | urlMaps | flowControl => false

theorem memberOfAll (kind : Kind) : kind ∈ all := by cases kind <;> decide

theorem allDistinct : all.Nodup := by decide

theorem ofOwnWord (kind : Kind) : ofWord? kind.word = some kind := by cases kind <;> decide

theorem wordOfFound {word : String} {kind : Kind} (found : ofWord? word = some kind) :
    kind.word = word := by
  simpa using List.find?_some found

theorem foundIffWord {word : String} {kind : Kind} :
    ofWord? word = some kind ↔ kind.word = word :=
  ⟨wordOfFound, fun same => same ▸ ofOwnWord kind⟩

end Kind

structure UnknownKind where
  value : Json
  deriving DecidableEq, Repr

def UnknownKind.message (e : UnknownKind) : String := e.value.quoted ++ " is not a valid DocType"

def Kind.ofJson (value : Json) : Except UnknownKind Kind :=
  match value.text?.bind Kind.ofWord? with
  | some kind => .ok kind
  | none => .error ⟨value⟩

theorem Kind.ofJsonIff {value : Json} {kind : Kind} :
    Kind.ofJson value = .ok kind ↔ value = .str kind.word := by
  constructor
  · intro found
    simp only [Kind.ofJson] at found
    split at found
    · rename_i known same
      obtain ⟨word, spelled, named⟩ := Option.bind_eq_some_iff.1 same
      cases value <;> simp_all [Json.text?, Kind.foundIffWord]
    · cases found
  · rintro rfl
    simp [Kind.ofJson, Json.text?, Kind.ofOwnWord]

end PolicySearch
