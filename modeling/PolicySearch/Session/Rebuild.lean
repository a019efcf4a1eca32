import PolicySearch.Fault
import PolicySearch.Index.Basic
import PolicySearch.Log.Entry
import PolicySearch.Amount
/-! A rebuild of the index of one branch. It fetches every kind of document, in any order, and is
complete when each fetch has an outcome. A fetch that fails, or that brings no list, counts as
empty and is complained of; the other kinds are not touched by it. -/
namespace PolicySearch

inductive Outcome where
  | answered (payload : Json)
  | failed (fault : Fault)
  deriving DecidableEq, Repr

namespace Outcome

def timedOut : Outcome := .failed ⟨.timeout, none⟩

/-- How a fetch ends that may not even begin: its time is over at once, or there is too much of it
to be measured. -/
def barred? (limit : Option Amount) : Option Outcome :=
  limit.bind fun amount =>
    if amount.spent then some timedOut
    else if amount.boundless then
      some (.failed ⟨.overflow, some "int too large to convert to float"⟩)
    else none

def items : Outcome → List Json
  | answered payload => payload.items?.getD []
  | failed _ => []

end Outcome

structure Fetch where
  branch : String
  kind : Kind
  deriving DecidableEq, Repr

structure Rebuild where
  generation : Nat
  branch : String
  outcomes : List (Kind × Outcome) := []
  deriving DecidableEq, Repr

namespace Rebuild

def origin : String := "docsearch.core.index"

def asks (r : Rebuild) : List Fetch := Kind.all.map (Fetch.mk r.branch)

def outcome? (r : Rebuild) (kind : Kind) : Option Outcome := r.outcomes.lookup kind

/-- A fetch has one outcome: the first that is reported. -/
def receive (r : Rebuild) (kind : Kind) (outcome : Outcome) : Rebuild :=
  if (r.outcome? kind).isSome then r else { r with outcomes := (kind, outcome) :: r.outcomes }

def complete (r : Rebuild) : Bool := Kind.all.all fun kind => (r.outcome? kind).isSome

def payloads (r : Rebuild) : Payloads :=
  .ofDelivered fun kind => (r.outcome? kind).map Outcome.items

def index (r : Rebuild) : Index := Index.build (some r.branch) r.payloads

def limitText (limit : Option Amount) : String := (limit.map Amount.text).getD "None"

def faultText (limit : Option Amount) (fault : Fault) : String :=
  if fault.cause = .timeout then "no response after " ++ limitText limit ++ "s" else fault.reason

def complaint? (limit : Option Amount) (branch : String) (kind : Kind) : Outcome → Option String
  | .answered (.arr _) => none
  | .answered payload =>
    some ("Unexpected " ++ kind.word ++ " payload on branch " ++ Text.quoted branch ++ ": " ++
      payload.typeName ++ ", treating as empty")
  | .failed fault =>
    some ("Failed to fetch " ++ kind.word ++ " on branch " ++ Text.quoted branch ++ ": " ++
      faultText limit fault)

def complaints (limit : Option Amount) (r : Rebuild) : Log :=
  Kind.all.filterMap fun kind =>
    ((r.outcome? kind).bind (complaint? limit r.branch kind)).map (LogEntry.mk .warning origin)

def countText (index : Index) : String :=
  ", ".intercalate (index.counts.map fun (kind, n) => kind.word ++ "=" ++ Number.natText n)

def report (limit : Option Amount) (r : Rebuild) : Log :=
  let index := r.index
  complaints limit r ++
    [⟨.debug, origin, "Indexed " ++ Number.natText index.size ++ " documents on branch " ++
      Text.quoted r.branch ++ ": " ++ countText index⟩]

theorem receiveOther {r : Rebuild} {kind other : Kind} (outcome : Outcome)
    (ne : other ≠ kind) : (r.receive kind outcome).outcome? other = r.outcome? other := by
  unfold receive
  split
  · rfl
  · simp [outcome?, List.lookup_cons, beq_eq_false_iff_ne.2 ne]

theorem receiveSelf {r : Rebuild} {kind : Kind} (outcome : Outcome) :
    (r.receive kind outcome).outcome? kind = some ((r.outcome? kind).getD outcome) := by
  unfold receive
  split
  · rename_i old
    obtain ⟨first, same⟩ := Option.isSome_iff_exists.1 old
    simp [same]
  · rename_i fresh
    simp only [outcome?, List.lookup_cons, beq_self_eq_true]
    cases same : r.outcomes.lookup kind <;> simp_all [outcome?]

theorem completeIff {r : Rebuild} : r.complete = true ↔ ∀ kind, (r.outcome? kind).isSome = true := by
  simp only [complete, List.all_eq_true]
  exact ⟨fun all kind => all kind (Kind.memberOfAll kind), fun all kind _ => all kind⟩

theorem payloadKnown {r : Rebuild} {kind : Kind} {outcome : Outcome}
    (known : r.outcome? kind = some outcome) : r.payloads kind = outcome.items := by
  rw [payloads, Payloads.ofDelivered, known, Option.map_some, Option.getD_some]

theorem indexKnown {r : Rebuild} {outcome : Kind → Outcome}
    (known : ∀ kind, r.outcome? kind = some (outcome kind)) :
    r.index = Index.build (some r.branch) fun kind => (outcome kind).items := by
  have payloads : r.payloads = fun kind => (outcome kind).items :=
    funext fun kind => payloadKnown (known kind)
  rw [index, payloads]

theorem complaintsKnown {limit : Option Amount} {r : Rebuild} {outcome : Kind → Outcome}
    (known : ∀ kind, r.outcome? kind = some (outcome kind)) :
    r.complaints limit = Kind.all.filterMap fun kind =>
      (complaint? limit r.branch kind (outcome kind)).map (LogEntry.mk .warning origin) := by
  simp only [complaints, known, Option.bind_some]

end Rebuild

end PolicySearch
