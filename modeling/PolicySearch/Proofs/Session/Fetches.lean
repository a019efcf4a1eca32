import Mathlib.Algebra.Ring.Int.Defs
import PolicySearch.Proofs.Session.LastSet
/-! The fetches that a session begins: one of each kind for every rebuild, for the branch of the rebuild,
and no others. A rebuild is begun by the selection of a known branch, by a refresh while a branch is
selected, and by a load that selects the first branch. No fetch begins under a limit that is spent, or
that is too much to be measured. -/
namespace PolicySearch

def Operation.event? : Operation → Option Event
  | .event e => some e
  | .goTo .. | .search _ | .tool _ => none

namespace Session

variable {s : Session} {operation : Operation} {branch : String}

/- The operation begins a rebuild of this branch. -/
inductive Begins (s : Session) : Operation → String → Prop where
  | select {b : Branch} (listed : b ∈ s.branches) : Begins s (.event (.select (.str b.id))) b.id
  | refresh {branch : String} (selected : s.current = some branch) :
      Begins s (.event .refresh) branch
  | first {listing : Except Fault Json} {b : Branch} {rest : List Branch}
      (unselected : s.current = none) (listed : (branchesOf listing).1 = b :: rest) :
      Begins s (.event (.load listing)) b.id

/- The operation begins one rebuild and the fetches of its branch, or nothing at all. -/
inductive Fetches (s : Session) (operation : Operation) : Prop where
  | begins (branch : String) (begins : s.Begins operation branch)
      (asked : (s.after operation).asked = s.asked ++ Kind.all.map (Fetch.mk branch))
      (generation : (s.after operation).generation = s.generation + 1)
  | rests (nothing : ∀ branch, ¬ s.Begins operation branch)
      (asked : (s.after operation).asked = s.asked)
      (generation : (s.after operation).generation = s.generation)

theorem branchListed {b : Branch} (listed : b ∈ s.branches) :
    s.branch? (.str b.id) ≠ none := by
  intro none
  have other := List.find?_eq_none.1 none b listed
  simp at other

theorem Fetches.ofBegun (begins : s.Begins operation branch) (fetches : s.fetches = true)
    (known : Session) (asked : known.asked = s.asked) (limit : known.limit = s.limit)
    (generation : known.generation = s.generation)
    (begun : s.after operation = (known.beginRebuild branch).session) : s.Fetches operation := by
  have fetches : known.fetches = true := by rw [Session.fetches, limit, ← Session.fetches, fetches]
  refine .begins branch begins ?_ ?_
  · rw [begun, beginRebuild, ← asked, if_pos fetches]
    rfl
  · rw [begun, ← generation]
    rfl

/- What changes the known branches only begins nothing. -/
theorem Fetches.ofKept (branches : List Branch)
    (kept : s.after operation = { s with branches := branches })
    (nothing : ∀ branch, ¬ s.Begins operation branch) : s.Fetches operation :=
  .rests nothing (by rw [kept]) (by rw [kept])

theorem selectFetches (fetches : s.fetches = true) (name : Json) :
    s.Fetches (.event (.select name)) := by
  cases found : s.branch? name with
  | some b =>
    obtain ⟨rfl, listed⟩ := branchNamed found
    refine .ofBegun (.select listed) fetches { s with current := some b.id } rfl rfl rfl ?_
    simp only [after, step, effect, Session.select, found]
  | none =>
    refine .ofKept s.branches (selectUnknown found).1 ?_
    intro branch begins
    cases begins with
    | select listed => exact branchListed listed found

theorem refreshFetches (fetches : s.fetches = true) : s.Fetches (.event .refresh) := by
  cases selected : s.current with
  | some branch =>
    refine .ofBegun (.refresh selected) fetches s rfl rfl rfl ?_
    simp only [after, step, effect, Session.refresh, selected]
  | none =>
    refine .ofKept s.branches (congrArg Effect.session (refreshUnselected selected)) ?_
    intro branch begins
    cases begins with
    | refresh other =>
      rw [selected] at other
      cases other

theorem loadFetches (fetches : s.fetches = true) (listing : Except Fault Json) :
    s.Fetches (.event (.load listing)) := by
  have loaded : s.after (.event (.load listing)) =
      (selectFirst { s with branches := (branchesOf listing).1 }).session := rfl
  cases selected : s.current with
  | some branch =>
    refine .ofKept (branchesOf listing).1 (by rw [loaded, selectFirst, selected]) ?_
    intro branch begins
    cases begins with
    | first unselected =>
      rw [selected] at unselected
      cases unselected
  | none =>
    cases listed : (branchesOf listing).1 with
    | cons first rest =>
      refine .ofBegun (.first selected listed) fetches
        { s with branches := first :: rest, current := some first.id } rfl rfl rfl ?_
      rw [loaded, listed, selectFirstListed (s := { s with branches := first :: rest }) selected rfl]
    | nil =>
      refine .ofKept [] (by rw [loaded, listed, selectFirstNone rfl]) ?_
      intro branch begins
      cases begins with
      | first _ other =>
        rw [listed] at other
        cases other

theorem receiveFetches (generation : Nat) (kind : Kind) (outcome : Outcome) :
    s.Fetches (.event (.fetched generation kind outcome)) := by
  have kept : (s.receive generation kind outcome).session.asked = s.asked ∧
      (s.receive generation kind outcome).session.generation = s.generation := by
    unfold receive settle
    split
    · exact ⟨rfl, rfl⟩
    · dsimp only
      split
      · split <;> exact ⟨rfl, rfl⟩
      · exact ⟨rfl, rfl⟩
  refine .rests (fun branch begins => ?_) kept.1 kept.2
  cases begins

theorem operationFetches (fetches : s.fetches = true) (operation : Operation) :
    s.Fetches operation := by
  cases operation with
  | event event =>
    cases event with
    | load listing => exact loadFetches fetches listing
    | select name => exact selectFetches fetches name
    | refresh => exact refreshFetches fetches
    | fetched generation kind outcome => exact receiveFetches generation kind outcome
    | setMode value =>
      refine .rests (fun branch begins => ?_) (by rw [after, stepMode]) (by rw [after, stepMode])
      cases begins
    | setText text =>
      refine .rests (fun branch begins => ?_) rfl rfl
      cases begins
  | goTo | search | tool =>
    refine .rests (fun branch begins => ?_) rfl rfl
    cases begins

theorem stepAsked (fetches : s.fetches = true) (event : Event) :
    (s.step event).asked = s.asked ++ (s.effect event).begun.toList.flatMap Rebuild.asks := by
  unfold step
  cases s.effectTurn event with
  | stays _ _ session begun _ _ | hears _ _ _ _ session begun _
  | resolves _ _ _ _ _ _ session begun _ =>
    rw [session, begun, Option.toList_none, List.flatMap_nil, List.append_nil]
  | begins branches branch session begun _ _ =>
    have fetches : Session.fetches { s with branches := branches, current := some branch } = true :=
      fetches
    rw [session, begun, beginRebuild, if_pos fetches, Option.toList_some, List.flatMap_singleton]

theorem stateFetches {limit : Option Amount} (unbarred : Outcome.barred? limit = none)
    (events : List Event) : (state limit events).fetches = true := by
  rw [fetches, stateLimit, unbarred]
  rfl

theorem rebuildsAsked {limit : Option Amount} (unbarred : Outcome.barred? limit = none)
    (events : List Event) :
    (state limit events).asked = (rebuilds limit events).flatMap Rebuild.asks := by
  induction events using List.reverseRecOn with
  | nil => rfl
  | append_singleton events event ih =>
    have heard (r : Rebuild) : ((state limit events).hear event r).asks = r.asks := by
      rw [Rebuild.asks, ((state limit events).hearKeeps event r).2, Rebuild.asks]
    rw [stateLast, stepAsked (stateFetches unbarred events), ih, rebuildsLast, note,
      List.flatMap_append, List.flatMap_map]
    simp only [heard]

theorem asksLength (known : List Rebuild) : (known.flatMap Rebuild.asks).length = 6 * known.length := by
  induction known with
  | nil => rfl
  | cons r rest ih =>
    have six : r.asks.length = 6 := rfl
    rw [List.flatMap_cons, List.length_append, ih, List.length_cons, six]
    omega

theorem afterAllEvents (s : Session) (operations : List Operation) :
    s.afterAll operations = s.run (operations.filterMap Operation.event?) := by
  induction operations generalizing s with
  | nil => rfl
  | cons operation rest ih =>
    cases operation with
    | event event => exact ih (s.step event)
    | goTo | search | tool => exact ih s

/- A limit under which fetches begin: there is none, or there is time left, and not too much of it. -/
def Measured (limit : Option Amount) : Prop :=
  ∀ amount, limit = some amount → amount.spent = false ∧ amount.boundless = false

theorem measuredUnbarred {limit : Option Amount} (measured : Measured limit) :
    Outcome.barred? limit = none := by
  cases limit with
  | none => rfl
  | some amount =>
    obtain ⟨unspent, bounded⟩ := measured amount rfl
    simp [Outcome.barred?, unspent, bounded]

/- The account of the fetches, for the session that any operations lead to. The rebuilds that were begun
are those of its generations, each on a branch, and `each` says which fetches they began. -/
structure Accounted (limit : Option Amount) (operations : List Operation) (s : Session) : Prop where
  numbered : (rebuilds limit (operations.filterMap Operation.event?)).map Rebuild.generation =
    List.range' 1 s.generation
  each : s.asked = (rebuilds limit (operations.filterMap Operation.event?)).flatMap fun r =>
    Kind.all.map (Fetch.mk r.branch)
  total : s.asked.length = 6 * s.generation
  grows : ∀ operation, s.Fetches operation

theorem fetchesAccounted (limit : Option Amount) (measured : Measured limit)
    (operations : List Operation) :
    Accounted limit operations ((fresh limit).afterAll operations) := by
  have unbarred := measuredUnbarred measured
  have same : (fresh limit).afterAll operations =
      state limit (operations.filterMap Operation.event?) := afterAllEvents _ operations
  rw [same]
  have numbered := (stateTied limit (operations.filterMap Operation.event?)).numbered
  have asked := rebuildsAsked unbarred (operations.filterMap Operation.event?)
  refine ⟨numbered, asked, ?_, operationFetches (stateFetches unbarred _)⟩
  have begun := congrArg List.length numbered
  rw [List.length_map, List.length_range'] at begun
  rw [asked, asksLength, begun]

/- The limit is five seconds, and a second branch is selected after the first one. -/
theorem fetchesAccountedMidSwitch :
    let limit : Option Amount := some (.whole 5)
    let operations := midSwitch.map Operation.event
    let s := (fresh limit).afterAll operations
    Measured limit ∧ s.generation = 2 ∧ s.asked.length = 12 ∧ Accounted limit operations s := by
  intro limit operations s
  have measured : Measured limit := by
    intro amount given
    obtain rfl := Option.some.inj given
    decide +kernel
  have accounted := fetchesAccounted limit measured operations
  have begun : s.generation = 2 := by decide +kernel
  exact ⟨measured, begun, by rw [accounted.total, begun], accounted⟩

/- A limit that is positive, and too much to be measured: a rebuild is begun, and none of its fetches. -/
theorem unmeasuredUnfetched :
    let limit : Amount := .whole (2 ^ 1024)
    let s := (fresh (some limit)).afterAll
      [.event (.load (.ok (.arr [.obj [("id", .str "a")]])))]
    limit.spent = false ∧ s.generation = 1 ∧ s.asked.length ≠ 6 * s.generation := by
  decide +kernel

end Session

end PolicySearch
