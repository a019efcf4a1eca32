import PolicySearch.Log.Level
import PolicySearch.Number.Numeral
import PolicySearch.Text.Quoted
import PolicySearch.Text.Trim
/-! What the environment settles: the root of the configuration service, the limit on one fetch
and the level of the log. An empty value counts as not given, but for the level. -/
namespace PolicySearch
open Number

structure Settings where
  apiUrl : Option String := none
  fetchTimeout : Option String := none
  logLevel : Option String := none
  deriving DecidableEq, Repr

structure BadTimeout where
  text : String
  deriving DecidableEq, Repr

def BadTimeout.message (e : BadTimeout) : String :=
  "DOCSEARCH_FETCH_TIMEOUT must be a number of seconds, got " ++ Text.quoted e.text

namespace Settings

def defaultRoot : String := "http://localhost:30080/conf/api/v1"

def filled (value : Option String) : Option String := value.filter (!·.isEmpty)

/-- The root given, else the one of the environment, else the usual one; never with a slash last. -/
def root (settings : Settings) (given : Option String) : String :=
  Text.trimmedEnd (· == '/') (((filled given).or (filled settings.apiUrl)).getD defaultRoot)

/-- The limit on a fetch, none if it is not positive. -/
def fetchLimit (settings : Settings) : Except BadTimeout (Option Binary64) :=
  match filled settings.fetchTimeout with
  | none => .ok none
  | some text =>
    match Binary64.ofNumeral text with
    | some seconds => .ok (some seconds |>.filter (Binary64.exceeds 0))
    | none => .error ⟨text⟩

def threshold (settings : Settings) (verbose : Bool) : Except BadLevel Level :=
  if verbose then .ok .debug
  else Level.ofName (Text.uppered (settings.logLevel.getD "INFO"))

theorem fetchLimitPositive {settings : Settings} {seconds : Binary64}
    (set : settings.fetchLimit = .ok (some seconds)) : seconds.exceeds 0 = true := by
  simp only [fetchLimit] at set
  split at set
  · cases set
  · split at set
    · exact (Option.filter_eq_some_iff.1 (Except.ok.inj set)).2
    · cases set

end Settings

end PolicySearch
