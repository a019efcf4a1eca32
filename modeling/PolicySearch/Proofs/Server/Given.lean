import PolicySearch.Proofs.Server.Run
/-! How a call comes by its answer. A call that goes on is answered from the session as it is at that
moment; and if it names a branch, that branch is selected then, and indexed too unless the call came
while another one was switching to it. -/
namespace PolicySearch.Server

variable {server : Server} {event : ServerEvent} {number : Nat} {answer : ToolAnswer}

/- The call comes while the branch that it names is selected already, and another call that has the
switch waits for the rebuild of it. -/
def Early (server : Server) (event : ServerEvent) (ticket : Ticket) (name : String) : Prop :=
  event = .arrive ticket ∧ server.session.current = some name ∧
    ∃ holder r, server.holder = some holder ∧
      holder.ticket.call.branch? = some (.str name) ∧
      server.session.inFlight = [r] ∧ r.branch = name

/- The three ways. The call names a branch that is not in the listing, and is refused; or it names
none; or it names the branch that is selected, and has switched to it or found it so. -/
inductive Given (server : Server) (event : ServerEvent) (ticket : Ticket) (answer : ToolAnswer) :
    Prop where
  | refused (branch : Json) (named : ticket.call.branch? = some branch)
      (unknown : server.session.branch? branch = none)
      (answered : answer = ticket.call.refuse branch server.session)
  | unnamed (named : ticket.call.branch? = none)
      (answered : answer = ticket.call.answer (server.step event).session)
  | proceeds (name : String) (named : ticket.call.branch? = some (.str name))
      (selected : (server.step event).session.current = some name)
      (ready : Free (server.step event) ∨ Early server event ticket name)
      (answered : answer = ticket.call.answer (server.step event).session)

/- A call for a branch of the listing is not refused and goes on. -/
theorem Given.goesOn {ticket : Ticket} {name : String} (given : Given server event ticket answer)
    (named : ticket.call.branch? = some (.str name))
    (listed : (server.session.branch? (.str name)).isSome = true) :
    answer = ticket.call.answer (server.step event).session ∧
      (server.step event).session.current = some name ∧
      (Free (server.step event) ∨ Early server event ticket name) := by
  cases given with
  | refused branch own unknown answered =>
    cases Option.some.inj (named.symm.trans own)
    rw [unknown] at listed
    cases listed
  | unnamed unnamed =>
    rw [named] at unnamed
    cases unnamed
  | proceeds other own selected ready answered =>
    cases Option.some.inj (named.symm.trans own)
    exact ⟨answered, selected, ready⟩

theorem unwantedSelected {call : ToolCall} {branch : Json} (unwanted : server.wanted? call = none)
    (named : call.branch? = some branch) :
    ∃ name, branch = .str name ∧ server.session.current = some name := by
  rw [wanted?, named] at unwanted
  have same : server.session.current.map Json.str = some branch := by
    simpa [Option.filter] using unwanted
  obtain ⟨name, selected, spelled⟩ := Option.map_eq_some_iff.1 same
  exact ⟨name, spelled.symm, selected⟩

theorem givenAtOnce (orderly : Orderly server) {ticket : Ticket}
    (unwanted : server.wanted? ticket.call = none)
    (kept : server.step (.arrive ticket) = server) :
    Given server (.arrive ticket) ticket (ticket.call.answer server.session) := by
  cases named : ticket.call.branch? with
  | none => exact .unnamed named (by rw [kept])
  | some branch =>
    obtain ⟨name, rfl, selected⟩ := unwantedSelected unwanted named
    refine .proceeds name named (kept.symm ▸ selected) ?_ (by rw [kept])
    rcases orderly.phase with free | ⟨holder, r, held⟩
    · exact .inl (kept.symm ▸ free)
    · have rebuilt := Option.some.inj (held.selected.symm.trans selected)
      exact .inr ⟨rfl, selected, holder, r, held.holds, rebuilt ▸ held.named, held.single, rebuilt⟩

theorem stepGiven (orderly : Orderly server)
    (member : (number, answer) ∈ (server.serve event).answers) :
    ∃ ticket ∈ event.ticket?.toList ++ server.pending, ticket.number = number ∧
      Given server event ticket answer := by
  cases serveTurn orderly event with
  | idle _ _ _ _ answers | waits _ _ _ _ _ _ _ answers | switches _ _ _ _ _ _ _ answers
  | hears _ _ _ _ _ _ _ _ _ answers =>
    rw [answers] at member
    cases member
  | atOnce ticket arrived _ unwanted same _ answers =>
    subst arrived
    rw [answers] at member
    cases List.mem_singleton.1 member
    exact ⟨ticket, List.mem_cons_self, rfl, givenAtOnce orderly unwanted same⟩
  | refuses w free granted unknown _ _ answers =>
    rw [answers] at member
    cases List.mem_singleton.1 member
    rw [free.pending, nextQueue granted]
    exact ⟨w.ticket, List.mem_cons_self, rfl,
      .refused w.branch (orderly.nextNamed granted) unknown rfl⟩
  | ends holder r kind outcome held _ _ same _ answers =>
    rw [answers] at member
    cases List.mem_singleton.1 member
    have inside : holder.ticket ∈ server.pending := by
      rw [pending, held.holds]
      exact List.mem_cons_self
    have ended : Free (server.step event) := by
      rw [Server.step, same]
      exact held.ended kind outcome
    have selected : (server.step event).session.current = some r.branch := by
      rw [Server.step, same]
      exact held.selected
    exact ⟨holder.ticket, List.mem_append_right _ inside, rfl,
      .proceeds r.branch held.named selected (.inl ended) rfl⟩

/- Each answer of a run was given at some event of it, to a call that had come. -/
theorem runGiven (orderly : Orderly server) {events : List ServerEvent}
    (member : (number, answer) ∈ server.answers events) :
    ∃ before event after, events = before ++ event :: after ∧
      ∃ ticket ∈ arrivals (before ++ [event]) ++ server.pending, ticket.number = number ∧
        Given (server.run before) event ticket answer := by
  induction events generalizing server with
  | nil => cases member
  | cons first rest ih =>
    rcases List.mem_append.1 member with now | later
    · obtain ⟨ticket, came, numbered, given⟩ := stepGiven orderly now
      exact ⟨[], first, rest, rfl, ticket, cameNow [] came, numbered, given⟩
    · obtain ⟨before, event, after, rfl, ticket, came, numbered, given⟩ :=
        ih (orderly.step first) later
      exact ⟨first :: before, event, after, rfl, ticket, cameSince orderly came, numbered, given⟩

end PolicySearch.Server
