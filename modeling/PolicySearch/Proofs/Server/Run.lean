import PolicySearch.Proofs.Server.Turn
/-! Runs of a server: any calls, at any time, with the fetches of the rebuild in flight reported in
any order. A run keeps a server in order, every call that came is answered once or still pending,
and the branch that is selected is the one for which the switch was taken last. -/
namespace PolicySearch.Server

def run (server : Server) (events : List ServerEvent) : Server := events.foldl step server

/- All calls that come, and all answers that are given, in their order. -/
def arrivals (events : List ServerEvent) : List Ticket := events.filterMap ServerEvent.ticket?

def answers (server : Server) : List ServerEvent → List (Nat × ToolAnswer)
  | [] => []
  | event :: rest => (server.serve event).answers ++ (server.step event).answers rest

/- The calls that are not answered yet: the one that has the switch, and those that wait for it. -/
def pending (server : Server) : List Ticket :=
  (server.holder.map Holder.ticket).toList ++ server.waiting.map Waiter.ticket

/- The calls that took the switch with a branch of the listing, in their order. -/
def switched (server : Server) (event : ServerEvent) : List Waiter :=
  ((server.next? event).filter fun w => (server.session.branch? w.branch).isSome).toList

def switches (server : Server) : List ServerEvent → List Waiter
  | [] => []
  | event :: rest => server.switched event ++ (server.step event).switches rest

theorem runAppend (server : Server) (first second : List ServerEvent) :
    server.run (first ++ second) = (server.run first).run second := List.foldl_append

theorem runLast (server : Server) (events : List ServerEvent) (event : ServerEvent) :
    server.run (events ++ [event]) = (server.run events).step event := server.runAppend events [event]

theorem answersAppend (server : Server) (first second : List ServerEvent) :
    server.answers (first ++ second) = server.answers first ++ (server.run first).answers second := by
  induction first generalizing server with
  | nil => rfl
  | cons event rest ih =>
    rw [List.cons_append, answers, ih, ← List.append_assoc]
    rfl

theorem arrivalsCons (event : ServerEvent) (rest : List ServerEvent) :
    arrivals (event :: rest) = event.ticket?.toList ++ arrivals rest := by
  cases event <;> rfl

theorem arrivalsAppend (first second : List ServerEvent) :
    arrivals (first ++ second) = arrivals first ++ arrivals second := List.filterMap_append

variable {server : Server} {event : ServerEvent} {w : Waiter} {holder : Holder} {r : Rebuild}

theorem wantedNamed {call : ToolCall} {branch : Json} (wanted : server.wanted? call = some branch) :
    call.branch? = some branch := (Option.filter_eq_some_iff.1 wanted).1

/- What is handed the switch has just come while nobody waited, or waited first. -/
theorem nextQueue (granted : server.next? event = some w) :
    event.ticket?.toList ++ server.waiting.map Waiter.ticket =
      w.ticket :: server.waiting.tail.map Waiter.ticket := by
  cases event with
  | arrive ticket =>
    simp only [next?] at granted
    split at granted
    · rename_i vacant
      obtain ⟨branch, _, rfl⟩ := Option.map_eq_some_iff.1 granted
      simp only [Bool.and_eq_true, List.isEmpty_iff] at vacant
      rw [vacant.2]
      rfl
    · cases granted
  | resume =>
    simp only [next?] at granted
    split at granted
    · cases queue : server.waiting with
      | nil =>
        rw [queue] at granted
        cases granted
      | cons first rest =>
        rw [queue] at granted
        cases granted
        rfl
    · cases granted
  | fetched => cases granted

theorem Free.taken (free : Free server) {ticket : Ticket} {name : String}
    (named : ticket.call.branch? = some (.str name)) (waiting : List Waiter) :
    Held
      { session := ({ server.session with current := some name }.beginRebuild name).session
        holder := some ⟨ticket, server.session.generation + 1⟩
        waiting := waiting }
      ⟨ticket, server.session.generation + 1⟩
      { generation := server.session.generation + 1, branch := name } where
  holds := rfl
  single := by simp only [Session.beginRebuild, free.rested, List.nil_append]
  pending := rfl
  awaited := rfl
  newest := rfl
  selected := rfl
  named := named

theorem Held.heard (held : Held server holder r) {kind : Kind} {outcome : Outcome}
    (pending : (r.receive kind (server.session.effective outcome)).complete = false) :
    Held
      { server with
        session :=
          { server.session with
            inFlight := [r.receive kind (server.session.effective outcome)] } }
      holder (r.receive kind (server.session.effective outcome)) := by
  obtain ⟨generation, branch⟩ := r.receiveKeeps kind (server.session.effective outcome)
  exact {
    holds := held.holds
    single := rfl
    pending := pending
    awaited := held.awaited.trans generation.symm
    newest := generation.trans held.newest
    selected := held.selected.trans (congrArg some branch.symm)
    named := held.named.trans (by rw [branch]) }

theorem Held.ended (held : Held server holder r) (kind : Kind) (outcome : Outcome) :
    Free
      { server with
        session :=
          { server.session with
            index := (r.receive kind (server.session.effective outcome)).index
            inFlight := [] }
        holder := none } where
  unheld := rfl
  rested := rfl
  current :=
    (congrArg some (r.receiveKeeps kind _).2).trans held.selected.symm

namespace Orderly

theorem nextNamed (orderly : Orderly server) (granted : server.next? event = some w) :
    w.ticket.call.branch? = some w.branch := by
  cases event with
  | arrive ticket =>
    simp only [next?] at granted
    split at granted
    · obtain ⟨branch, wanted, rfl⟩ := Option.map_eq_some_iff.1 granted
      exact wantedNamed wanted
    · cases granted
  | resume =>
    simp only [next?] at granted
    split at granted
    · exact orderly.queue w (List.mem_of_mem_head? granted)
    · cases granted
  | fetched => cases granted

theorem requeued (orderly : Orderly server) {waiting : List Waiter}
    (queue : ∀ w ∈ waiting, w.ticket.call.branch? = some w.branch) :
    Orderly { server with waiting := waiting } where
  phase := orderly.phase.imp (fun free => ⟨free.unheld, free.rested, free.current⟩)
    fun ⟨holder, r, held⟩ => ⟨holder, r, held.holds, held.single, held.pending, held.awaited,
      held.newest, held.selected, held.named⟩
  queue := queue
  listed := orderly.listed

theorem tailNamed (orderly : Orderly server) :
    ∀ w ∈ server.waiting.tail, w.ticket.call.branch? = some w.branch :=
  fun w member => orderly.queue w (List.mem_of_mem_tail member)

theorem step (orderly : Orderly server) (event : ServerEvent) : Orderly (server.step event) := by
  unfold Server.step
  cases serveTurn orderly event with
  | idle _ _ same _ _ | atOnce _ _ _ _ same _ _ => rwa [same]
  | waits ticket branch _ _ wanted same _ _ =>
    rw [same]
    refine orderly.requeued fun w member => ?_
    rcases List.mem_append.1 member with before | last
    · exact orderly.queue w before
    · obtain rfl := List.mem_singleton.1 last
      exact wantedNamed wanted
  | refuses w _ _ _ same _ _ =>
    rw [same]
    exact orderly.requeued orderly.tailNamed
  | switches w known free granted found same _ _ =>
    rw [same]
    have spelled := (Session.branchNamed found).1
    have named := orderly.nextNamed granted
    rw [spelled] at found named
    refine ⟨.inr ⟨_, _, free.taken named _⟩, orderly.tailNamed, fun name selected => ?_⟩
    obtain rfl := Option.some.inj selected
    exact Option.isSome_of_eq_some found
  | hears holder r kind outcome held _ pending same _ _ =>
    rw [same]
    exact ⟨.inr ⟨_, _, held.heard pending⟩, orderly.queue, orderly.listed⟩
  | ends holder r kind outcome held _ _ same _ _ =>
    rw [same]
    exact ⟨.inl (held.ended kind outcome), orderly.queue, orderly.listed⟩

theorem run (orderly : Orderly server) (events : List ServerEvent) : Orderly (server.run events) := by
  induction events generalizing server with
  | nil => exact orderly
  | cons event rest ih => exact ih (orderly.step event)

end Orderly

theorem Free.pending (free : Free server) :
    server.pending = server.waiting.map Waiter.ticket := by
  rw [Server.pending, free.unheld]
  rfl

theorem pendingQueued (w : Waiter) :
    ({ server with waiting := server.waiting ++ [w] } : Server).pending =
      server.pending ++ [w.ticket] := by
  rw [pending, List.map_append, ← List.append_assoc]
  rfl

/- Each call that comes is answered at this event, or from now on pending. -/
theorem stepAccounted (orderly : Orderly server) (event : ServerEvent) :
    ((server.serve event).answers.map Prod.fst ++
        (server.step event).pending.map Ticket.number).Perm
      ((event.ticket?.toList ++ server.pending).map Ticket.number) := by
  unfold step
  cases serveTurn orderly event with
  | idle calm _ same _ answers =>
    rw [answers, same, calm]
    exact .refl _
  | atOnce ticket arrived _ _ same _ answers =>
    rw [answers, same, arrived]
    exact .refl _
  | waits ticket branch arrived _ _ same _ answers =>
    rw [answers, same, pendingQueued, arrived]
    exact List.perm_append_comm.map Ticket.number
  | refuses w free granted _ same _ answers =>
    rw [answers, same, free.pending, nextQueue granted]
    simp only [pending, free.unheld]
    exact .refl _
  | switches w _ free granted _ same _ answers =>
    rw [answers, same, free.pending, nextQueue granted]
    exact .refl _
  | hears _ _ _ _ _ reported _ same _ answers =>
    rw [answers, same, reported]
    exact .refl _
  | ends holder r _ _ held reported _ same _ answers =>
    rw [answers, same, reported]
    simp only [pending, held.holds]
    exact .refl _

theorem runAccounted (orderly : Orderly server) (events : List ServerEvent) :
    ((server.answers events).map Prod.fst ++
        (server.run events).pending.map Ticket.number).Perm
      ((arrivals events ++ server.pending).map Ticket.number) := by
  induction events generalizing server with
  | nil => exact .refl _
  | cons event rest ih =>
    have now := stepAccounted orderly event
    have later := ih (orderly.step event)
    rw [List.perm_iff_count] at now later ⊢
    intro number
    have now := now number
    have later := later number
    simp only [run, List.foldl_cons, answers, arrivalsCons, List.map_append, List.count_append] at *
    omega

theorem stepPending (orderly : Orderly server) (event : ServerEvent) :
    ∀ ticket ∈ (server.step event).pending, ticket ∈ event.ticket?.toList ++ server.pending := by
  unfold step
  intro ticket member
  cases serveTurn orderly event with
  | idle _ _ same _ _ | atOnce _ _ _ _ same _ _ | hears _ _ _ _ _ _ _ same _ _ =>
    rw [same] at member
    exact List.mem_append_right _ member
  | waits last branch arrived _ _ same _ _ =>
    rw [same, pendingQueued] at member
    rw [arrived]
    exact List.mem_append.2 (List.mem_append.1 member).symm
  | refuses w free granted _ same _ _ =>
    rw [same] at member
    rw [free.pending, nextQueue granted]
    simp only [pending, free.unheld] at member
    exact List.mem_cons_of_mem _ member
  | switches w _ free granted _ same _ _ =>
    rw [same] at member
    rw [free.pending, nextQueue granted]
    exact member
  | ends holder r _ _ held _ _ same _ _ =>
    rw [same] at member
    refine List.mem_append_right _ (List.mem_append_right _ ?_)
    exact member

theorem cameNow (rest : List ServerEvent) {ticket : Ticket}
    (now : ticket ∈ event.ticket?.toList ++ server.pending) :
    ticket ∈ arrivals (event :: rest) ++ server.pending := by
  rw [arrivalsCons, List.append_assoc]
  rcases List.mem_append.1 now with new | old
  · exact List.mem_append_left _ new
  · exact List.mem_append_right _ (List.mem_append_right _ old)

theorem cameSince (orderly : Orderly server) {rest : List ServerEvent} {ticket : Ticket}
    (later : ticket ∈ arrivals rest ++ (server.step event).pending) :
    ticket ∈ arrivals (event :: rest) ++ server.pending := by
  rcases List.mem_append.1 later with since | before
  · rw [arrivalsCons, List.append_assoc]
    exact List.mem_append_right _ (List.mem_append_left _ since)
  · exact cameNow rest (stepPending orderly event ticket before)

/- Whatever is pending has come at some time. -/
theorem runPending (orderly : Orderly server) (events : List ServerEvent) :
    ∀ ticket ∈ (server.run events).pending, ticket ∈ arrivals events ++ server.pending := by
  induction events generalizing server with
  | nil => exact fun ticket member => member
  | cons event rest ih =>
    exact fun ticket member => cameSince orderly (ih (orderly.step event) ticket member)

theorem stepSelected (orderly : Orderly server) (event : ServerEvent) :
    (server.step event).session.current.map Json.str =
      ((server.switched event).getLast?.map Waiter.branch).or
        (server.session.current.map Json.str) := by
  unfold step switched
  cases serveTurn orderly event with
  | idle _ ungranted same _ _ | atOnce _ _ ungranted _ same _ _
  | waits _ _ _ ungranted _ same _ _ =>
    rw [same, ungranted]
    rfl
  | refuses w _ granted unknown same _ _ =>
    rw [same, granted]
    simp [Option.filter, unknown]
  | switches w known _ granted found same _ _ =>
    rw [same, granted]
    simpa [Option.filter, found, Session.beginRebuild] using (Session.branchNamed found).1.symm
  | hears _ _ _ _ _ reported _ same _ _ | ends _ _ _ _ _ reported _ same _ _ =>
    rw [same, reported]
    rfl

theorem runSelected (orderly : Orderly server) (events : List ServerEvent) :
    (server.run events).session.current.map Json.str =
      ((server.switches events).getLast?.map Waiter.branch).or
        (server.session.current.map Json.str) := by
  induction events generalizing server with
  | nil => rfl
  | cons event rest ih =>
    have later := ih (orderly.step event)
    rw [stepSelected orderly event] at later
    rw [switches, List.getLast?_append, Option.map_or, Option.or_assoc]
    exact later

/- A rebuild is begun when a call takes the switch with a branch of the listing, and is of it. -/
theorem stepBegun (orderly : Orderly server) (event : ServerEvent) :
    (server.serve event).begun.map (fun r => Json.str r.branch) =
      (server.switched event).head?.map Waiter.branch := by
  unfold switched
  cases serveTurn orderly event with
  | idle _ ungranted _ begun _ | atOnce _ _ ungranted _ _ begun _ | waits _ _ _ ungranted _ _ begun _ =>
    rw [begun, ungranted]
    rfl
  | refuses w _ granted unknown _ begun _ =>
    rw [begun, granted]
    simp [Option.filter, unknown]
  | switches w known _ granted found _ begun _ =>
    rw [begun, granted]
    simpa [Option.filter, found] using (Session.branchNamed found).1.symm
  | hears _ _ _ _ _ reported _ _ begun _ | ends _ _ _ _ _ reported _ _ begun _ =>
    rw [begun, reported]
    rfl

theorem stepHolder (orderly : Orderly server) (event : ServerEvent) :
    ∀ w ∈ server.switched event, (server.step event).holder.map Holder.ticket = some w.ticket := by
  intro w member
  obtain ⟨granted, listed⟩ := Option.filter_eq_some_iff.1 (Option.mem_toList.1 member)
  unfold step
  cases serveTurn orderly event with
  | idle _ ungranted _ _ _ | atOnce _ _ ungranted _ _ _ _ | waits _ _ _ ungranted _ _ _ _ =>
    rw [ungranted] at granted
    cases granted
  | refuses other _ taken unknown _ _ _ =>
    cases Option.some.inj (taken.symm.trans granted)
    rw [unknown] at listed
    cases listed
  | switches other known _ taken _ same _ _ =>
    cases Option.some.inj (taken.symm.trans granted)
    rw [same]
    rfl
  | hears _ _ _ _ _ reported _ _ _ _ | ends _ _ _ _ _ reported _ _ _ _ =>
    rw [reported] at granted
    cases granted

theorem stepSwitches (orderly : Orderly server) (event : ServerEvent) :
    ∀ w ∈ server.switched event,
      w.ticket ∈ event.ticket?.toList ++ server.pending ∧ w.ticket.call.branch? = some w.branch := by
  intro w member
  have granted := (Option.filter_eq_some_iff.1 (Option.mem_toList.1 member)).1
  refine ⟨?_, orderly.nextNamed granted⟩
  have first : w.ticket ∈ event.ticket?.toList ++ server.waiting.map Waiter.ticket := by
    rw [nextQueue granted]
    exact List.mem_cons_self
  rcases List.mem_append.1 first with now | waited
  · exact List.mem_append_left _ now
  · exact List.mem_append_right _ (List.mem_append_right _ waited)

theorem runSwitches (orderly : Orderly server) (events : List ServerEvent) :
    ∀ w ∈ server.switches events,
      w.ticket ∈ arrivals events ++ server.pending ∧ w.ticket.call.branch? = some w.branch := by
  induction events generalizing server with
  | nil => nofun
  | cons event rest ih =>
    intro w member
    rcases List.mem_append.1 member with now | later
    · obtain ⟨came, named⟩ := stepSwitches orderly event w now
      exact ⟨cameNow rest came, named⟩
    · obtain ⟨came, named⟩ := ih (orderly.step event) w later
      exact ⟨cameSince orderly came, named⟩

theorem stepBranches (orderly : Orderly server) (event : ServerEvent) :
    (server.step event).session.branches = server.session.branches := by
  unfold step
  cases serveTurn orderly event with
  | idle _ _ same _ _ | atOnce _ _ _ _ same _ _ | waits _ _ _ _ _ same _ _
  | refuses _ _ _ _ same _ _ | hears _ _ _ _ _ _ _ same _ _ | ends _ _ _ _ _ _ _ same _ _ =>
    rw [same]
  | switches _ _ _ _ _ same _ _ =>
    rw [same]
    rfl

theorem runBranches (orderly : Orderly server) (events : List ServerEvent) :
    (server.run events).session.branches = server.session.branches := by
  induction events generalizing server with
  | nil => rfl
  | cons event rest ih => exact (ih (orderly.step event)).trans (stepBranches orderly event)

/- A branch that is in the listing once is in it all the time. -/
theorem runListed (orderly : Orderly server) (events : List ServerEvent) (branch : Json) :
    (server.run events).session.branch? branch = server.session.branch? branch := by
  rw [Session.branch?, Session.branch?, runBranches orderly]

end PolicySearch.Server
