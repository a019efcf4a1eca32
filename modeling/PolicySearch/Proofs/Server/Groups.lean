import PolicySearch.Proofs.Server.Start
/-! Calls that come together are a run: each of them comes, and then the rebuild in flight is
reported whole and the switch is handed on, until no call waits. Such a run ends with every call
answered. -/
namespace PolicySearch

theorem Session.receiveBranches {s : Session} {branch : String}
    (ours : ∀ r ∈ s.inFlight, r.branch = branch) (generation : Nat) (kind : Kind)
    (outcome : Outcome) :
    ∀ r ∈ (s.receive generation kind outcome).session.inFlight, r.branch = branch := by
  unfold receive
  split
  · exact ours
  · rename_i old found
    have heard := ours old (List.mem_of_find?_eq_some found)
    dsimp only
    split
    · unfold settle
      split <;> exact fun r member => ours r (List.mem_filter.1 member).1
    · intro r member
      obtain ⟨other, inside, rfl⟩ := List.mem_map.1 member
      split
      · exact (old.receiveKeeps kind _).2.trans heard
      · exact ours other inside

namespace Server

variable {server : Server}

theorem Free.ofRested (orderly : Orderly server) (rested : server.session.inFlight = []) :
    Free server := by
  rcases orderly.phase with free | ⟨holder, r, held⟩
  · exact free
  · rw [held.single] at rested
    cases rested

theorem receiveFrame (server : Server) (generation : Nat) (kind : Kind) (outcome : Outcome) :
    (server.receive generation kind outcome).server.session =
        (server.session.receive generation kind outcome).session ∧
      (server.receive generation kind outcome).server.waiting = server.waiting ∧
      (server.receive generation kind outcome).begun = none := by
  unfold receive
  dsimp only
  split
  · split <;> exact ⟨rfl, rfl, rfl⟩
  · exact ⟨rfl, rfl, rfl⟩

theorem resumeTail (unheld : server.holder = none) :
    server.resume.server.waiting = server.waiting.tail := by
  unfold resume
  cases queue : server.waiting with
  | nil => rw [unheld]; exact queue
  | cons w rest =>
    rw [unheld]
    dsimp only [take]
    split <;> rfl

theorem arrivalsOf (tickets : List Ticket) : arrivals (tickets.map .arrive) = tickets := by
  induction tickets with
  | nil => rfl
  | cons ticket rest ih =>
    rw [List.map_cons, arrivalsCons, ih]
    rfl

theorem waitingFew (orderly : Orderly server) (unpending : server.pending = [])
    (events : List ServerEvent) :
    (server.run events).waiting.length ≤ (arrivals events).length := by
  have accounted := (runAccounted orderly events).length_eq
  rw [unpending, List.append_nil] at accounted
  simp only [pending, List.length_append, List.length_map] at accounted
  omega

end Server

namespace Service
open Server

variable {web : Web} {service : Service} {round : Round} {events : List ServerEvent}
  {calls : List ToolCall}

/- A round is where events lead to from a service. -/
structure Follows (web : Web) (service : Service) (events : List ServerEvent) (round : Round) :
    Prop where
  client : round.service.client = service.client
  server : round.service.server = service.server.run events
  answers : round.answers = service.server.answers events
  faithful : Faithful (service.client.backend web) service.server events

/- What is in flight is what the round has begun, and nothing is heard of it yet. -/
structure Fresh (round : Round) : Prop where
  flight : round.service.server.session.inFlight = round.begun.toList
  unheard : ∀ r, round.begun = some r → r.outcomes = []

theorem Follows.note (follows : Follows web service events round) (event : ServerEvent)
    (honest : Honest (service.client.backend web) round.service.server event) :
    Follows web service (events ++ [event])
      (note round (round.service.server.serve event)) where
  client := follows.client
  server := by
    rw [runLast, ← follows.server]
    rfl
  answers := by
    rw [answersAppend, ← follows.server, ← follows.answers, Server.answers, Server.answers,
      List.append_nil]
    rfl
  faithful := faithfulAppend.2 ⟨follows.faithful, follows.server ▸ honest, trivial⟩

theorem Follows.orderly (follows : Follows web service events round)
    (rested : service.Rested web) : Orderly round.service.server :=
  follows.server ▸ rested.orderly.run events

theorem Follows.sourced (follows : Follows web service events round)
    (rested : service.Rested web) :
    Sourced (service.client.backend web) round.service.server :=
  follows.server ▸ rested.sourced.run rested.orderly follows.faithful

theorem Fresh.note (fresh : Fresh round) (orderly : Orderly round.service.server)
    (event : ServerEvent)
    (unreported : ∀ generation kind outcome, event ≠ .fetched generation kind outcome) :
    Fresh (note round (round.service.server.serve event)) := by
  unfold Service.note
  cases serveTurn orderly event with
  | idle _ _ same begun _ | atOnce _ _ _ _ same begun _ | waits _ _ _ _ _ same begun _
  | refuses _ _ _ _ same begun _ =>
    rw [same, begun]
    exact ⟨fresh.flight, fresh.unheard⟩
  | switches w known free _ _ same begun _ =>
    rw [same, begun]
    refine ⟨?_, ?_⟩
    · simp [Session.beginRebuild, free.rested]
    · intro r first
      obtain rfl := Option.some.inj first
      rfl
  | hears _ _ _ _ _ reported _ _ _ _ | ends _ _ _ _ _ reported _ _ _ _ =>
    exact absurd reported (unreported _ _ _)

theorem arrivalsFollow (rested : service.Rested web) (tickets : List Ticket)
    (follows : Follows web service events round) (fresh : Fresh round) :
    Follows web service (events ++ tickets.map .arrive) (tickets.foldl arrive round) ∧
      Fresh (tickets.foldl arrive round) := by
  induction tickets generalizing events round with
  | nil =>
    rw [List.map_nil, List.append_nil]
    exact ⟨follows, fresh⟩
  | cons ticket rest ih =>
    rw [List.map_cons, List.append_cons]
    exact ih (follows.note (.arrive ticket) trivial)
      (fresh.note (follows.orderly rested) (.arrive ticket) fun _ _ _ => nofun)

def reported (web : Web) (service : Service) (generation : Nat) (branch : String) (round : Round)
    (kind : Kind) : Round :=
  note round
    (round.service.server.receive generation kind (service.client.backend web branch kind))

theorem reportedFrame (web : Web) (service : Service) (generation : Nat) (branch : String)
    (kinds : List Kind) (round : Round) :
    (kinds.foldl (reported web service generation branch) round).service.server.session =
        kinds.foldl (Session.report (service.client.backend web branch) generation)
          round.service.server.session ∧
      (kinds.foldl (reported web service generation branch) round).service.server.waiting =
        round.service.server.waiting ∧
      (kinds.foldl (reported web service generation branch) round).begun = round.begun ∧
      (kinds.foldl (reported web service generation branch) round).service.trail.asked =
        round.service.trail.asked := by
  induction kinds generalizing round with
  | nil => exact ⟨rfl, rfl, rfl, rfl⟩
  | cons kind rest ih =>
    obtain ⟨session, waiting, begun⟩ := receiveFrame round.service.server generation kind
      (service.client.backend web branch kind)
    obtain ⟨sessions, waitings, begins, asked⟩ :=
      ih (reported web service generation branch round kind)
    refine ⟨?_, waitings.trans waiting, begins.trans ?_, asked⟩
    · rw [List.foldl_cons, List.foldl_cons, Session.report, ← session]
      exact sessions
    · rw [reported, note, begun]
      rfl

/- The kinds that are left of a rebuild are reported one after another, as the service holds them. -/
theorem reportsFollow (generation : Nat) {branch : String} (kinds : List Kind)
    (follows : Follows web service events round)
    (ours : ∀ r ∈ round.service.server.session.inFlight, r.branch = branch) :
    Follows web service
      (events ++ kinds.map fun kind =>
        .fetched generation kind (service.client.backend web branch kind))
      (kinds.foldl (reported web service generation branch) round) := by
  induction kinds generalizing events round with
  | nil =>
    rw [List.map_nil, List.append_nil]
    exact follows
  | cons kind rest ih =>
    have honest : Honest (service.client.backend web) round.service.server
        (.fetched generation kind (service.client.backend web branch kind)) := by
      intro r member _
      rw [ours r member]
    rw [List.map_cons, List.append_cons]
    refine ih (follows.note _ honest) ?_
    rw [reported, note, (receiveFrame _ generation kind _).1]
    exact Session.receiveBranches ours generation kind _

/- The round after the requests for a rebuild, of which nothing is reported yet. -/
def requested (web : Web) (round : Round) (r : Rebuild) : Round :=
  { round with
    service :=
      { round.service with
        trail := (round.service.client.gather web round.service.trail true r.branch).2 }
    begun := none }

theorem settleReports (rested : service.Rested web) (follows : Follows web service events round)
    {r : Rebuild} (begun : round.begun = some r) :
    settle web round =
      Kind.all.foldl (reported web service r.generation r.branch) (requested web round r) := by
  have fetches : round.service.server.session.fetches = true := by
    simp [Session.fetches, (follows.sourced rested).unbarred]
  simp only [settle, begun, fetches, requested]
  rw [follows.client, Client.plainGather rested.plain, List.foldl_map]
  rfl

theorem Fresh.single (fresh : Fresh round) {r : Rebuild} (begun : round.begun = some r) :
    round.service.server.session.inFlight =
      [{ generation := r.generation, branch := r.branch }] := by
  rw [fresh.flight, begun]
  have unheard := fresh.unheard r begun
  cases r
  cases unheard
  rfl

/- A rebuild that is begun is made whole. -/
theorem settleWhole (rested : service.Rested web) (follows : Follows web service events round)
    (fresh : Fresh round) {r : Rebuild} (begun : round.begun = some r) :
    (settle web round).service.server.session =
      { round.service.server.session with
        index := (service.client.backend web).index r.branch
        inFlight := [] } := by
  have single := fresh.single begun
  rw [settleReports rested follows begun, (reportedFrame _ _ _ _ _ _).1]
  rcases (follows.orderly rested).phase with free | ⟨holder, other, held⟩
  · rw [free.rested] at single
    cases single
  · obtain rfl := (List.cons.inj (single.symm.trans held.single)).1
    exact Session.reportWhole _ single held.newest held.selected (follows.sourced rested).unbarred

/- What there is to be fetched is fetched whole, and nothing is in flight then. -/
theorem settleFollows (rested : service.Rested web) (follows : Follows web service events round)
    (fresh : Fresh round) :
    ∃ reports, arrivals reports = [] ∧
      Follows web service (events ++ reports) (settle web round) ∧
      (settle web round).service.server.session.inFlight = [] ∧
      (settle web round).service.server.waiting = round.service.server.waiting ∧
      (settle web round).begun = none := by
  cases begun : round.begun with
  | none =>
    have settled : settle web round = round := by rw [settle, begun]
    rw [settled]
    refine ⟨[], rfl, ?_, ?_, rfl, begun⟩
    · rwa [List.append_nil]
    · rw [fresh.flight, begun]
      rfl
  | some r =>
    have whole := settleWhole rested follows fresh begun
    rw [settleReports rested follows begun] at whole ⊢
    obtain ⟨_, waiting, none, _⟩ :=
      reportedFrame web service r.generation r.branch Kind.all (requested web round r)
    refine ⟨_, ?_, reportsFollow r.generation Kind.all ?_ ?_, by rw [whole], waiting, none⟩
    · rfl
    · exact ⟨follows.client, follows.server, follows.answers, follows.faithful⟩
    · intro heard member
      have own : heard ∈ [{ generation := r.generation, branch := r.branch }] :=
        fresh.single begun ▸ member
      rw [List.mem_singleton.1 own]

/- Each time that the switch is handed on, one call less waits for it. -/
theorem drainFollows (rested : service.Rested web) (calls : Nat)
    (follows : Follows web service events round) (fresh : Fresh round)
    (few : round.service.server.waiting.length ≤ calls) :
    ∃ more, arrivals more = [] ∧
      Follows web service (events ++ more) (drain web calls round) ∧
      (drain web calls round).service.server.session.inFlight = [] ∧
      (drain web calls round).service.server.waiting = [] := by
  induction calls generalizing events round with
  | zero =>
    obtain ⟨reports, calm, settled, flight, waiting, _⟩ := settleFollows rested follows fresh
    refine ⟨reports, calm, settled, flight, ?_⟩
    exact waiting.trans (List.length_eq_zero_iff.1 (Nat.le_zero.1 few))
  | succ calls ih =>
    obtain ⟨reports, calm, settled, flight, waiting, begun⟩ := settleFollows rested follows fresh
    have free := Free.ofRested (settled.orderly rested) flight
    have unstarted : Fresh (settle web round) := ⟨by rw [flight, begun]; rfl, by rw [begun]; nofun⟩
    have resumed := settled.note .resume trivial
    have started := unstarted.note (settled.orderly rested) .resume fun _ _ _ => nofun
    have tail : (settle web round).service.server.resume.server.waiting =
        round.service.server.waiting.tail := by
      rw [resumeTail free.unheld, waiting]
    have fewer : (settle web round).service.server.resume.server.waiting.length ≤ calls := by
      rw [tail, List.length_tail]
      omega
    obtain ⟨more, quiet, drained, rest, empty⟩ := ih resumed started fewer
    refine ⟨reports ++ [.resume] ++ more, ?_, ?_, rest, empty⟩
    · rw [arrivalsAppend, arrivalsAppend, calm, quiet]
      rfl
    · rw [← List.append_assoc, ← List.append_assoc]
      exact drained

/- Calls with their places in the group as their numbers. -/
def tickets (calls : List ToolCall) : List Ticket :=
  calls.zipIdx.map fun (call, number) => Ticket.mk number call

/- A group of calls as a run of the server from one rest to the next. -/
structure Played (web : Web) (service : Service) (calls : List ToolCall)
    (events : List ServerEvent) : Prop where
  faithful : Faithful (service.client.backend web) service.server events
  came : arrivals events = tickets calls
  server : (service.answerAll web calls).1.server = service.server.run events
  client : (service.answerAll web calls).1.client = service.client
  rested : (service.answerAll web calls).1.Rested web
  answered : (service.answerAll web calls).2 =
    (tickets calls).filterMap fun ticket => (service.server.answers events).lookup ticket.number

theorem Follows.rested (follows : Follows web service events round) (before : service.Rested web)
    (flight : round.service.server.session.inFlight = [])
    (idle : round.service.server.waiting = []) : round.service.Rested web where
  plain := follows.client ▸ before.plain
  orderly := follows.orderly before
  free := Free.ofRested (follows.orderly before) flight
  idle := idle
  sourced := follows.client ▸ follows.sourced before

theorem groupPlayed (rested : service.Rested web) (calls : List ToolCall) :
    ∃ events, Played web service calls events := by
  have start : Follows web service [] { service := service } := ⟨rfl, rfl, rfl, trivial⟩
  have fresh : Fresh { service := service } := ⟨rested.free.rested, nofun⟩
  obtain ⟨arrived, begun⟩ := arrivalsFollow rested (tickets calls) start fresh
  have few := waitingFew rested.orderly rested.unpending ((tickets calls).map .arrive)
  have count : (tickets calls).length = calls.length := by simp [tickets]
  rw [arrivalsOf, count] at few
  rw [List.nil_append] at arrived
  obtain ⟨more, quiet, drained, flight, idle⟩ :=
    drainFollows rested calls.length arrived begun (arrived.server ▸ few)
  refine ⟨_, drained.faithful, ?_, drained.server, drained.client,
    drained.rested rested flight idle, ?_⟩
  · rw [arrivalsAppend, arrivalsOf, quiet, List.append_nil]
  · rw [← drained.answers]
    rfl

/- A service after some groups of calls, one after another. -/
def after (service : Service) (web : Web) (groups : List (List ToolCall)) : Service :=
  groups.foldl (fun service calls => (service.answerAll web calls).1) service

/- Groups of calls as one run. -/
structure PlayedAll (web : Web) (service : Service) (groups : List (List ToolCall))
    (events : List ServerEvent) : Prop where
  faithful : Faithful (service.client.backend web) service.server events
  came : arrivals events = groups.flatMap tickets
  server : (service.after web groups).server = service.server.run events
  client : (service.after web groups).client = service.client
  rested : (service.after web groups).Rested web

theorem groupsPlayed (rested : service.Rested web) (groups : List (List ToolCall)) :
    ∃ events, PlayedAll web service groups events := by
  induction groups generalizing service with
  | nil => exact ⟨[], trivial, rfl, rfl, rfl, rested⟩
  | cons calls rest ih =>
    obtain ⟨events, played⟩ := groupPlayed rested calls
    obtain ⟨more, later⟩ := ih played.rested
    have faithful := later.faithful
    rw [played.client, played.server] at faithful
    refine ⟨events ++ more, faithfulAppend.2 ⟨played.faithful, faithful⟩, ?_, ?_, ?_, later.rested⟩
    · rw [arrivalsAppend, played.came, later.came, List.flatMap_cons]
    · rw [runAppend, ← played.server]
      exact later.server
    · rw [← played.client]
      exact later.client

end Service

end PolicySearch
