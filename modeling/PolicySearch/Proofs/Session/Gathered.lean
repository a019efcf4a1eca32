import Mathlib.Data.List.Basic
import PolicySearch.Proofs.Session.Provenance
/-! A rebuild among everything else that happens to a session. Its six fetches may be reported in any
order, between reports of other rebuilds: nothing is said of it or comes of it before the last of
them, and what comes of it then does not depend on the order. -/
namespace PolicySearch

namespace Outcome

/- The fetch brought no list. -/
def lost : Outcome → Bool
  | answered (.arr _) => false
  | _ => true

theorem lostIff {outcome : Outcome} :
    outcome.lost = true ↔ ∀ items, outcome ≠ .answered (.arr items) := by
  unfold lost
  split
  · rename_i items
    exact ⟨nofun, fun never => absurd rfl (never items)⟩
  · rename_i other
    exact ⟨fun _ => other, fun _ => rfl⟩

theorem lostItems {outcome : Outcome} (lost : outcome.lost = true) : outcome.items = [] := by
  rcases Session.bringsItems outcome with listed | ⟨nothing, _⟩
  · exact absurd listed (lostIff.1 lost _)
  · exact nothing

end Outcome

def Log.warnings (log : Log) : Log := log.filter (·.level == .warning)

namespace Rebuild

/- The rebuild after these reports of its own fetches, one after another. -/
def gather (limit : Option Amount) (r : Rebuild) (reports : List (Kind × Outcome)) : Rebuild :=
  reports.foldl (fun r report => r.receive report.1 ((Session.fresh limit).effective report.2)) r

theorem gatherAppend (limit : Option Amount) (r : Rebuild) (first second : List (Kind × Outcome)) :
    r.gather limit (first ++ second) = (r.gather limit first).gather limit second :=
  List.foldl_append

theorem gatherKeeps (limit : Option Amount) (r : Rebuild) (reports : List (Kind × Outcome)) :
    (r.gather limit reports).generation = r.generation ∧
      (r.gather limit reports).branch = r.branch := by
  induction reports generalizing r with
  | nil => exact ⟨rfl, rfl⟩
  | cons report rest ih =>
    obtain ⟨generation, branch⟩ :=
      r.receiveKeeps report.1 ((Session.fresh limit).effective report.2)
    obtain ⟨sameGeneration, sameBranch⟩ :=
      ih (r.receive report.1 ((Session.fresh limit).effective report.2))
    exact ⟨sameGeneration.trans generation, sameBranch.trans branch⟩

/- Of each kind the rebuild has what it had, or else the first that was reported of it. -/
theorem gatherOutcome (limit : Option Amount) (r : Rebuild) (reports : List (Kind × Outcome))
    (kind : Kind) :
    (r.gather limit reports).outcome? kind =
      (r.outcome? kind).or ((reports.lookup kind).map (Session.fresh limit).effective) := by
  induction reports generalizing r with
  | nil => simp only [gather, List.foldl_nil, List.lookup_nil, Option.map_none, Option.or_none]
  | cons report rest ih =>
    obtain ⟨other, outcome⟩ := report
    have step : r.gather limit ((other, outcome) :: rest) =
        (r.receive other ((Session.fresh limit).effective outcome)).gather limit rest := rfl
    rw [step, ih, List.lookup_cons]
    by_cases same : kind = other
    · subst same
      rw [receiveSelf]
      cases known : r.outcome? kind <;> simp
    · rw [receiveOther _ same, beq_eq_false_iff_ne.2 same]

/- While nothing is reported of one kind, it waits. -/
theorem gatherPending (limit : Option Amount) (generation : Nat) (branch : String)
    {reports : List (Kind × Outcome)} {kind : Kind} (absent : ∀ report ∈ reports, report.1 ≠ kind) :
    (gather limit { generation := generation, branch := branch } reports).complete = false := by
  have missing : reports.lookup kind = none := by
    refine List.lookup_eq_none_iff.2 fun report inside => ?_
    exact bne_iff_ne.2 (absent report inside).symm
  refine Bool.eq_false_iff.2 fun complete => ?_
  have known := completeIff.1 complete kind
  rw [gatherOutcome, missing] at known
  cases known

end Rebuild

/- The reports of these kinds in this order, each with its own outcome. -/
def Kind.reported (outcome : Kind → Outcome) (order : List Kind) : List (Kind × Outcome) :=
  order.map fun kind => (kind, outcome kind)

/- With a report of each kind all is known, whatever the order. -/
theorem Rebuild.gatherAll (limit : Option Amount) (generation : Nat) (branch : String)
    (outcome : Kind → Outcome) {order : List Kind} (all : order.Perm Kind.all) (kind : Kind) :
    (gather limit { generation := generation, branch := branch }
      (Kind.reported outcome order)).outcome? kind =
        some ((Session.fresh limit).effective (outcome kind)) := by
  have listed : kind ∈ order := all.mem_iff.2 (Kind.memberOfAll kind)
  rw [gatherOutcome, Kind.reported, List.lookup_graph outcome listed]
  rfl

/- What is said of a kind whose fetch brought no list. -/
inductive Warned (limit : Option Amount) (branch : String) (kind : Kind) :
    Outcome → LogEntry → Prop where
  | failed (fault : Fault) :
    Warned limit branch kind (.failed fault) ⟨.warning, Rebuild.origin,
      "Failed to fetch " ++ kind.word ++ " on branch " ++ Text.quoted branch ++ ": " ++
        Rebuild.faultText limit fault⟩
  | misshapen (payload : Json) (shape : ∀ items, payload ≠ .arr items) :
    Warned limit branch kind (.answered payload) ⟨.warning, Rebuild.origin,
      "Unexpected " ++ kind.word ++ " payload on branch " ++ Text.quoted branch ++ ": " ++
        payload.typeName ++ ", treating as empty"⟩

theorem complaintOfLost (limit : Option Amount) (branch : String) (kind : Kind) {outcome : Outcome}
    (lost : outcome.lost = true) :
    ∃ text, Rebuild.complaint? limit branch kind outcome = some text ∧
      Warned limit branch kind outcome ⟨.warning, Rebuild.origin, text⟩ := by
  cases outcome with
  | failed fault => exact ⟨_, rfl, .failed fault⟩
  | answered payload =>
    have shape : ∀ items, payload ≠ .arr items := by
      rintro items rfl
      cases lost
    refine ⟨_, ?_, .misshapen payload shape⟩
    cases payload with
    | arr items => exact absurd rfl (shape items)
    | _ => rfl

theorem complaintOfKept (limit : Option Amount) (branch : String) (kind : Kind) {outcome : Outcome}
    (kept : outcome.lost = false) : Rebuild.complaint? limit branch kind outcome = none := by
  unfold Outcome.lost at kept
  split at kept
  · rfl
  · cases kept

theorem warnedInOrder (limit : Option Amount) (branch : String) (outcome : Kind → Outcome)
    (kinds : List Kind) :
    List.Forall₂ (fun kind => Warned limit branch kind (outcome kind))
      (kinds.filter fun kind => (outcome kind).lost)
      (kinds.filterMap fun kind =>
        (Rebuild.complaint? limit branch kind (outcome kind)).map
          (LogEntry.mk .warning Rebuild.origin)) := by
  induction kinds with
  | nil => exact .nil
  | cons kind rest ih =>
    cases lost : (outcome kind).lost with
    | true =>
      obtain ⟨text, said, warned⟩ := complaintOfLost limit branch kind lost
      simp only [List.filter_cons, List.filterMap_cons, lost, said, Option.map_some, if_true]
      exact .cons warned ih
    | false =>
      have silent := complaintOfKept limit branch kind lost
      simp only [List.filter_cons, List.filterMap_cons, lost, silent, Option.map_none]
      exact ih

namespace Session

variable {s : Session} {known : List Rebuild} {r : Rebuild} {limit : Option Amount}

/- What the event reports of the fetches of this rebuild. -/
def report? (generation : Nat) : Event → Option (Kind × Outcome)
  | .fetched reported kind outcome => if generation = reported then some (kind, outcome) else none
  | _ => none

def reports (generation : Nat) (events : List Event) : List (Kind × Outcome) :=
  events.filterMap (report? generation)

theorem reportedOnly {generation : Nat} {event : Event} {kind : Kind} {outcome : Outcome}
    (reported : report? generation event = some (kind, outcome)) :
    event = .fetched generation kind outcome := by
  unfold report? at reported
  split at reported
  · split at reported
    · rename_i same
      cases reported
      rw [same]
    · cases reported
  · cases reported

theorem hearReport (s : Session) (event : Event) (r : Rebuild) :
    s.hear event r = r.gather s.limit (report? r.generation event).toList := by
  cases event with
  | fetched generation kind outcome =>
    simp only [hear, report?]
    split <;> rfl
  | _ => rfl

theorem heardAlong (member : r ∈ known) (events : List Event) :
    r.gather s.limit (reports r.generation events) ∈ s.chronicle known events := by
  induction events generalizing s known r with
  | nil => exact member
  | cons event rest ih =>
    have heard : s.hear event r ∈ s.note event known :=
      List.mem_append_left _ (List.mem_map_of_mem member)
    have later := ih (s := s.step event) heard
    have split : reports r.generation (event :: rest) =
        (report? r.generation event).toList ++ reports r.generation rest := by
      cases reported : report? r.generation event <;> simp [reports, reported]
    rw [limitKept, (s.hearKeeps event r).1, hearReport, ← Rebuild.gatherAppend, ← split] at later
    exact later

theorem chronicleAppend (s : Session) (known : List Rebuild) (first second : List Event) :
    s.chronicle known (first ++ second) =
      (s.run first).chronicle (s.chronicle known first) second := by
  induction first generalizing s known with
  | nil => rfl
  | cons event rest ih => exact ih (s.step event) (s.note event known)

/- A rebuild keeps what is reported of it after it was begun. -/
theorem gatheredAlong {before : List Event} {event : Event} {generation : Nat} {branch : String}
    (begun : ((state limit before).effect event).begun =
      some { generation := generation, branch := branch }) (after : List Event) :
    Rebuild.gather limit { generation := generation, branch := branch } (reports generation after) ∈
      rebuilds limit (before ++ [event] ++ after) := by
  have started : { generation := generation, branch := branch } ∈
      rebuilds limit (before ++ [event]) := by
    rw [rebuildsLast, note, begun]
    exact List.mem_append_right _ (List.mem_singleton_self _)
  have heard := heardAlong (s := state limit (before ++ [event])) started after
  rw [stateLimit] at heard
  rw [rebuilds, chronicleAppend]
  exact heard

theorem Tied.receiveHeld (tied : Tied s known) (member : r ∈ s.inFlight) (kind : Kind)
    (outcome : Outcome) :
    s.receive r.generation kind outcome =
      if (r.receive kind (s.effective outcome)).complete then
        settle { s with inFlight := without r.generation s.inFlight }
          (r.receive kind (s.effective outcome))
      else
        { session := { s with inFlight := replace (r.receive kind (s.effective outcome)) s.inFlight } } := by
  have found : s.inFlight.find? (·.generation == r.generation) = some r := by
    cases first : s.inFlight.find? (·.generation == r.generation) with
    | none => exact absurd (beq_self_eq_true _) (List.find?_eq_none.1 first r member)
    | some old =>
      have same : old.generation = r.generation := by simpa using List.find?_some first
      have inside := (tied.inFlightIff.1 (List.mem_of_find?_eq_some first)).1
      rw [tied.sameRebuild inside (tied.inFlightIff.1 member).1 same]
  rw [receive, found]

theorem complaintsWarn (limit : Option Amount) (r : Rebuild) :
    (r.report limit).warnings = r.complaints limit := by
  have warning : ∀ entry ∈ r.complaints limit, (entry.level == Level.warning) = true := by
    intro entry inside
    obtain ⟨kind, _, said⟩ := List.mem_filterMap.1 inside
    obtain ⟨text, _, rfl⟩ := Option.map_eq_some_iff.1 said
    rfl
  rw [Rebuild.report, Log.warnings, List.filter_append, List.filter_eq_self.2 warning]
  exact List.append_nil _

theorem settleSays (s : Session) (r : Rebuild) :
    (s.settle r).log.warnings = r.complaints s.limit := by
  unfold settle
  split
  · exact complaintsWarn s.limit r
  · rw [Log.warnings, List.filter_append, ← Log.warnings, complaintsWarn]
    exact List.append_nil _

theorem settleEnds (s : Session) (r : Rebuild) :
    ∃ installed, (s.settle r).settled = some (r.generation, installed) ∧
      (installed = true → (s.settle r).session.index = r.index) := by
  unfold settle
  split
  · exact ⟨true, rfl, fun _ => rfl⟩
  · exact ⟨false, rfl, nofun⟩

/- The rebuild is over: its index, built from these payloads, is installed or left, and there is
one warning for each kind that brought no list, in order, and no other. -/
structure Ended (limit : Option Amount) (generation : Nat) (branch : String)
    (outcome : Kind → Outcome) (payloads : Payloads) (e : Effect) : Prop where
  settled : ∃ installed, e.settled = some (generation, installed) ∧
    (installed = true → e.session.index = Index.build (some branch) payloads)
  warned : List.Forall₂
    (fun kind => Warned limit branch kind ((fresh limit).effective (outcome kind)))
    (Kind.all.filter fun kind => ((fresh limit).effective (outcome kind)).lost) e.log.warnings

/- Nothing is said of the rebuild and nothing comes of it. -/
def Quiet (limit : Option Amount) (start : List Event) (generation : Nat) (after : List Event) :
    Prop :=
  ∀ first event rest, after = first ++ event :: rest →
    (report? generation event).isSome = true →
      ((state limit (start ++ first)).effect event).log = [] ∧
        ((state limit (start ++ first)).effect event).settled = none

/- What becomes of a rebuild while these events follow its start. -/
structure Gathered (limit : Option Amount) (start after : List Event) (generation : Nat)
    (branch : String) (outcome : Kind → Outcome) (payloads : Payloads) : Prop where
  built : ∃ r ∈ rebuilds limit (start ++ after), r.generation = generation ∧ r.complete = true ∧
    r.index = Index.build (some branch) payloads
  ended : ∃ early last late, after = early ++ last :: late ∧ Quiet limit start generation early ∧
    Ended limit generation branch outcome payloads ((state limit (start ++ early)).effect last) ∧
    reports generation late = []

/- When each kind is reported once, one report is the last, of a kind that none before it is of. -/
theorem lastReport {generation : Nat} {after : List Event} {outcome : Kind → Outcome}
    {order : List Kind} (all : order.Perm Kind.all)
    (told : reports generation after = Kind.reported outcome order) :
    ∃ early kind late others, after = early ++ .fetched generation kind (outcome kind) :: late ∧
      (others ++ [kind]).Perm Kind.all ∧ kind ∉ others ∧
      reports generation early = Kind.reported outcome others ∧ reports generation late = [] := by
  have some : order ≠ [] := by
    rintro rfl
    exact absurd all.length_eq (by decide)
  obtain ⟨others, kind, rfl⟩ : ∃ others kind, order = others ++ [kind] :=
    ⟨order.dropLast, order.getLast some, (List.dropLast_append_getLast some).symm⟩
  have apart : kind ∉ others := by
    have distinct := List.nodup_append.1 (all.nodup_iff.2 Kind.allDistinct)
    exact fun inside => distinct.2.2 kind inside kind (List.mem_singleton_self kind) rfl
  rw [Kind.reported, List.map_append] at told
  obtain ⟨first, rest, rfl, toldFirst, toldRest⟩ := List.filterMap_eq_append_iff.1 told
  obtain ⟨between, last, late, rfl, silent, said, none⟩ := List.filterMap_eq_cons_iff.1 toldRest
  obtain rfl := reportedOnly said
  refine ⟨first ++ between, kind, late, others, by rw [List.append_assoc], all, apart, ?_, none⟩
  rw [reports, List.filterMap_append, List.filterMap_eq_nil_iff.2 silent, List.append_nil]
  exact toldFirst

section Begun

variable {before : List Event} {event : Event} {generation : Nat} {branch : String}
variable (begun : ((state limit before).effect event).begun =
  some { generation := generation, branch := branch })

include begun

theorem heldUntil {early : List Event} {kind : Kind}
    (absent : ∀ report ∈ reports generation early, report.1 ≠ kind) :
    Rebuild.gather limit { generation := generation, branch := branch } (reports generation early) ∈
      (state limit (before ++ [event] ++ early)).inFlight :=
  (stateTied limit _).inFlightIff.2 ⟨gatheredAlong begun early,
    Rebuild.gatherPending limit generation branch absent⟩

theorem builtAfter {after : List Event} {outcome : Kind → Outcome} {order : List Kind}
    (all : order.Perm Kind.all) (told : reports generation after = Kind.reported outcome order) :
    ∃ r ∈ rebuilds limit (before ++ [event] ++ after), r.generation = generation ∧
      r.branch = branch ∧ ∀ kind, r.outcome? kind = some ((fresh limit).effective (outcome kind)) := by
  have kept := Rebuild.gatherKeeps limit { generation := generation, branch := branch }
    (Kind.reported outcome order)
  exact ⟨_, told ▸ gatheredAlong begun after, kept.1, kept.2,
    Rebuild.gatherAll limit generation branch outcome all⟩

/- While it waits for one kind, the rebuild hears the next report of its own, and no other does. -/
theorem heardNext {early : List Event} {kind : Kind}
    (absent : ∀ report ∈ reports generation early, report.1 ≠ kind) (next : Kind)
    (outcome : Outcome) :
    let s := state limit (before ++ [event] ++ early)
    let heard := Rebuild.gather limit { generation := generation, branch := branch }
      (reports generation early ++ [(next, outcome)])
    s.receive generation next outcome =
      if heard.complete then settle { s with inFlight := without generation s.inFlight } heard
      else { session := { s with inFlight := replace heard s.inFlight } } := by
  have held := (stateTied limit _).receiveHeld (heldUntil begun absent) next outcome
  have effective : (state limit (before ++ [event] ++ early)).effective outcome =
      (fresh limit).effective outcome := by
    rw [Session.effective, stateLimit]
    rfl
  rw [(Rebuild.gatherKeeps limit _ _).1, effective] at held
  rw [Rebuild.gatherAppend]
  exact held

theorem quietUntil {early : List Event} {kind : Kind}
    (absent : ∀ report ∈ reports generation early, report.1 ≠ kind) :
    Quiet limit (before ++ [event]) generation early := by
  intro first event rest split reported
  obtain ⟨⟨other, outcome⟩, said⟩ := Option.isSome_iff_exists.1 reported
  obtain rfl := reportedOnly said
  have parts : reports generation early =
      reports generation first ++ [(other, outcome)] ++ reports generation rest := by
    rw [split, reports, List.filterMap_append, List.filterMap_cons_some said, List.append_assoc]
    rfl
  have unheard : ∀ report ∈ reports generation first ++ [(other, outcome)], report.1 ≠ kind :=
    fun report inside => absent report (parts ▸ List.mem_append_left _ inside)
  have pending := Rebuild.gatherPending limit generation branch unheard
  have heard := heardNext begun (fun report inside => unheard report (List.mem_append_left _ inside))
    other outcome
  simp only [pending] at heard
  rw [effect, heard]
  exact ⟨rfl, rfl⟩

theorem endedAtLast {early : List Event} {outcome : Kind → Outcome} {others : List Kind}
    {kind : Kind} (all : (others ++ [kind]).Perm Kind.all) (apart : kind ∉ others)
    (told : reports generation early = Kind.reported outcome others) :
    Quiet limit (before ++ [event]) generation early ∧
      Ended limit generation branch outcome
        (fun kind => ((fresh limit).effective (outcome kind)).items)
        ((state limit (before ++ [event] ++ early)).effect
          (.fetched generation kind (outcome kind))) := by
  have absent : ∀ report ∈ reports generation early, report.1 ≠ kind := by
    rw [told]
    rintro report inside rfl
    obtain ⟨other, member, rfl⟩ := List.mem_map.1 inside
    exact apart member
  have heard := heardNext begun absent kind (outcome kind)
  have order : reports generation early ++ [(kind, outcome kind)] =
      Kind.reported outcome (others ++ [kind]) := by
    rw [told, Kind.reported, Kind.reported, List.map_append]
    rfl
  have known := Rebuild.gatherAll limit generation branch outcome all
  have kept := Rebuild.gatherKeeps limit { generation := generation, branch := branch }
    (Kind.reported outcome (others ++ [kind]))
  have complete := Rebuild.completeIff.2 fun kind => by rw [known kind]; rfl
  simp only [order, complete, if_true] at heard
  rw [effect, heard]
  obtain ⟨installed, settled, index⟩ := settleEnds _ _
  refine ⟨quietUntil begun absent, ?_, ?_⟩
  · refine ⟨installed, by rw [settled, kept.1], fun yes => ?_⟩
    rw [index yes, Rebuild.indexKnown known, kept.2]
  · rw [settleSays, Rebuild.complaintsKnown known, kept.2]
    have same := stateLimit limit (before ++ [event] ++ early)
    simp only [same]
    exact warnedInOrder limit branch _ Kind.all

end Begun

theorem gathersInAnyOrder (limit : Option Amount) (before : List Event) (event : Event)
    (generation : Nat) (branch : String) (outcome : Kind → Outcome)
    (begun : ((state limit before).effect event).begun =
      some { generation := generation, branch := branch }) :
    ∃ payloads : Payloads,
      (∀ kind, Brings ((fresh limit).effective (outcome kind)) (payloads kind)) ∧
      ∀ after order, order.Perm Kind.all →
        reports generation after = Kind.reported outcome order →
          Gathered limit (before ++ [event]) after generation branch outcome payloads := by
  refine ⟨fun kind => ((fresh limit).effective (outcome kind)).items,
    fun kind => bringsItems _, fun after order all told => ⟨?_, ?_⟩⟩
  · obtain ⟨r, member, same, branch, known⟩ := builtAfter begun all told
    refine ⟨r, member, same, Rebuild.completeIff.2 fun kind => by rw [known kind]; rfl, ?_⟩
    rw [Rebuild.indexKnown known, branch]
  · obtain ⟨early, kind, late, others, split, allButOne, apart, toldEarly, none⟩ :=
      lastReport all told
    obtain ⟨quiet, ended⟩ := endedAtLast begun allButOne apart toldEarly
    exact ⟨early, _, late, split, quiet, ended, none⟩

/- Two lists and an object come in, one fetch fails, and two are not answered in time. -/
def mixed : Kind → Outcome
  | .aclPolicies => .answered (.arr [.obj [("id", .str "deny")]])
  | .wafPolicies => .answered (.arr [])
  | .tagRules => .answered (.obj [])
  | .urlMaps => .failed ⟨.fetch, some "gone"⟩
  | .flowControl | .rateLimits => .timedOut

theorem gathersBackwards :
    let listing : Event := .load (.ok (.arr [.obj [("id", .str "a")]]))
    ((state none []).effect listing).begun = some { generation := 1, branch := "a" } ∧
      ∃ payloads, (∀ kind, Brings (mixed kind) (payloads kind)) ∧ Gathered none [listing]
        (Kind.all.reverse.map fun kind => .fetched 1 kind (mixed kind)) 1 "a" mixed payloads := by
  have begun : ((state none []).effect (.load (.ok (.arr [.obj [("id", .str "a")]])))).begun =
      some { generation := 1, branch := "a" } := by decide +kernel
  obtain ⟨payloads, brings, gathered⟩ := gathersInAnyOrder none [] _ 1 "a" mixed begun
  exact ⟨begun, payloads, brings, gathered _ Kind.all.reverse (List.reverse_perm _) rfl⟩

end Session

end PolicySearch
