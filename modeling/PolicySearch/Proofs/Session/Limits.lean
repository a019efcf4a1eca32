import PolicySearch.Proofs.Number.Numerals
import PolicySearch.Proofs.Session.Fetches
import PolicySearch.Proofs.Session.Relimited
/-! The limit on a fetch, when it is given as a number and when the environment holds the text of that
number. The text is read as the same number of seconds, and a number that is not positive then means that
there is no limit. Given as a number, it is kept as it is: no fetch begins under it, and nothing is
indexed. -/
namespace PolicySearch
open Number

namespace Amount

/- A number: any whole one, and any of the format but the one that stands for none. A truth value is not
a number, though it counts as one. -/
def IsNumber : Amount → Prop
  | truth _ => False
  | whole _ => True
  | real x => x.Proper ∧ x ≠ .nan

/- The seconds that the text of a number says. -/
def seconds : Amount → Binary64
  | truth b => .ofRatio false b.toNat 1
  | whole n => .ofRatio (n < 0) n.natAbs 1
  | real x => x

/- The limit that the text of a number says: none if it is not positive. -/
def limitOfText (x : Amount) : Option Amount := if x.spent then none else some (.real x.seconds)

variable {x : Amount}

theorem textRead (number : x.IsNumber) : Binary64.ofNumeral x.text = some x.seconds := by
  cases x with
  | truth b => exact absurd number id
  | whole n => exact Binary64.ofNumeralWhole n
  | real y => exact Binary64.ofNumeralText number.1

theorem secondsExceed (number : x.IsNumber) : x.seconds.exceeds 0 = !x.spent := by
  cases x with
  | truth b => exact absurd number id
  | whole n =>
    rcases Int.lt_trichotomy n 0 with below | rfl | above
    · rw [seconds, decide_eq_true below, Binary64.ofRatioNegative, spent, decide_eq_true (by omega)]
      rfl
    · rfl
    · have least : (1 : ℚ) ≤ n.natAbs / (1 : ℕ) := by
        rw [Nat.cast_one, div_one]
        exact_mod_cast (by omega : 1 ≤ n.natAbs)
      rw [seconds, decide_eq_false (by omega), Binary64.ofRatioPositive Nat.one_pos least, spent,
        decide_eq_false (by omega)]
      rfl
  | real y =>
    cases y with
    | nan => exact absurd rfl number.2
    | infinite | finite => simp [seconds, spent, Binary64.atMost]

theorem limitRead (number : x.IsNumber) (settings : Settings) :
    Session.chooseLimit none { settings with fetchTimeout := some x.text } = .ok x.limitOfText := by
  have read := textRead number
  have filled : Settings.filled (some x.text) = some x.text := by
    have written : x.text ≠ "" := by
      intro empty
      rw [empty] at read
      cases read
    simp [Settings.filled, written]
  have kept : (some x.seconds).filter (Binary64.exceeds 0) =
      if x.spent then none else some x.seconds := by
    rw [Option.filter_some, secondsExceed number]
    cases x.spent <;> rfl
  simp only [Session.chooseLimit, Settings.fetchLimit, filled, read, kept, limitOfText]
  cases x.spent <;> rfl

theorem limitOfTextUnbarred (number : x.IsNumber) : Outcome.barred? x.limitOfText = none := by
  have exceeds := secondsExceed number
  unfold limitOfText
  cases spent : x.spent with
  | true => rfl
  | false =>
    rw [spent] at exceeds
    have unspent : x.seconds.atMost 0 = false := by
      unfold Binary64.atMost
      split
      · rfl
      · rw [exceeds]
        rfl
    simp [Outcome.barred?, Amount.spent, boundless, unspent]

end Amount

namespace Session

theorem unmeasuredBarred {x : Amount} (unmeasured : ¬ Measured (some x)) :
    ∃ fault, Outcome.barred? (some x) = some (.failed fault) := by
  cases spent : x.spent with
  | true =>
    refine ⟨⟨.timeout, none⟩, ?_⟩
    simp [Outcome.barred?, spent, Outcome.timedOut]
  | false =>
    cases huge : x.boundless with
    | true =>
      refine ⟨⟨.overflow, some "int too large to convert to float"⟩, ?_⟩
      simp [Outcome.barred?, spent, huge]
    | false =>
      refine absurd (fun amount given => ?_) unmeasured
      obtain rfl := Option.some.inj given
      exact ⟨spent, huge⟩

/- Nothing is indexed while all fetches are barred. -/
theorem barredStarved {limit : Option Amount} {fault : Fault}
    (barred : Outcome.barred? limit = some (.failed fault)) (operations : List Operation) :
    ((fresh limit).afterAll operations).index.documents = [] := by
  have same : (fresh limit).afterAll operations =
      state limit (operations.filterMap Operation.event?) := afterAllEvents _ operations
  rw [same]
  rcases indexFetched limit (operations.filterMap Operation.event?) with
    initial | ⟨generation, branch, payloads, fetched, index⟩
  · rw [initial]
  · have nothing (kind : Kind) : payloads kind = [] := by
      obtain ⟨outcome, ⟨_, _, _, reported, _, _, _, effective⟩, brings⟩ := fetched kind
      have failed : outcome = .failed fault := by
        rw [effective, Session.effective, fresh, barred, Option.getD_some]
      rcases brings with answered | ⟨none, _⟩
      · rw [failed] at answered
        cases answered
      · exact none
    rw [index]
    simp only [Index.build, nothing, List.map_nil]
    rfl

/- A branch is loaded, and one document is fetched for it. -/
def oneFetched : List Operation :=
  .event (.load (.ok (.arr [.obj [("id", .str "a")]]))) :: Kind.all.map fun kind =>
    .event (.fetched 1 kind (.answered (.arr
      (if kind = .aclPolicies then [.obj [("id", .str "deny")]] else []))))

theorem oneIndexed : ((fresh none).afterAll oneFetched).index.documents.length = 1 := by
  decide +kernel

/- What comes of a number as the limit: when it is given, and when the environment holds its text. -/
structure Limited (x : Amount) (settings : Settings) : Prop where
  given : chooseLimit (some x) settings = .ok (some x)
  read : chooseLimit none { settings with fetchTimeout := some x.text } = .ok x.limitOfText
  agree : Agree (some x) x.limitOfText ↔ Measured (some x)
  starved : ¬ Measured (some x) →
    ∀ operations, ((fresh (some x)).afterAll operations).index.documents = []

theorem numberLimited {x : Amount} (number : x.IsNumber) (settings : Settings) : Limited x settings where
  given := rfl
  read := Amount.limitRead number settings
  agree := by
    have unbarred := Amount.limitOfTextUnbarred number
    constructor
    · intro agree
      by_contra unmeasured
      obtain ⟨fault, barred⟩ := unmeasuredBarred unmeasured
      have unlimited : Agree none x.limitOfText := agreeBarred unbarred.symm
      have indexed := oneIndexed
      rw [(unlimited oneFetched).1, ← (agree oneFetched).1, barredStarved barred oneFetched] at indexed
      cases indexed
    · intro measured
      exact agreeBarred ((measuredUnbarred measured).trans unbarred.symm)
  starved := by
    intro unmeasured operations
    obtain ⟨fault, barred⟩ := unmeasuredBarred unmeasured
    exact barredStarved barred operations

/- Two seconds and a half. -/
theorem numberLimitedHalf :
    let x : Amount := .real (.finite false (5 <<< 50) (-51))
    x.text = "2.5" ∧ x.IsNumber ∧ Measured (some x) ∧ Limited x {} := by
  intro x
  have number : x.IsNumber := ⟨⟨by decide, by decide, by decide, by decide⟩, nofun⟩
  refine ⟨by decide +kernel, number, ?_, numberLimited number {}⟩
  intro amount given
  obtain rfl := Option.some.inj given
  decide +kernel

/- No seconds: as the text `0` that is no limit, and given as a number it is one under which nothing is
indexed. -/
theorem zeroGiven :
    (Amount.whole 0).text = "0" ∧ chooseLimit none { fetchTimeout := some "0" } = .ok none ∧
      chooseLimit (some (.whole 0)) {} = .ok (some (.whole 0)) ∧
      ((fresh none).afterAll oneFetched).index.documents.length = 1 ∧
      ((fresh (some (.whole 0))).afterAll oneFetched).index.documents.length = 0 := by
  refine ⟨rfl, by decide +kernel, rfl, by decide +kernel, by decide +kernel⟩

end Session

end PolicySearch
