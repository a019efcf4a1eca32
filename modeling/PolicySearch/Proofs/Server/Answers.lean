import Mathlib.Data.List.Forall2
import PolicySearch.Proofs.Server.Groups
/-! The answers to calls that come together, in the order of the calls. Each call has one, and it was
given at some event of their run. -/
namespace PolicySearch.Service
open Server

variable {web : Web} {service : Service} {events : List ServerEvent} {calls : List ToolCall}

theorem ticketsOf (calls : List ToolCall) : (tickets calls).map Ticket.call = calls := by
  rw [tickets, List.map_map]
  exact List.zipIdx_map_fst 0 calls

theorem ticketsAt {ticket : Ticket} :
    ticket ∈ tickets calls ↔ calls[ticket.number]? = some ticket.call := by
  constructor
  · intro member
    obtain ⟨⟨call, number⟩, inside, rfl⟩ := List.mem_map.1 member
    exact List.mem_zipIdx_iff_getElem?.1 inside
  · intro found
    exact List.mem_map.2 ⟨(ticket.call, ticket.number), List.mem_zipIdx_iff_getElem?.2 found, rfl⟩

theorem ticketsSame {ticket other : Ticket} (member : ticket ∈ tickets calls)
    (also : other ∈ tickets calls) (numbered : other.number = ticket.number) : other = ticket := by
  rw [ticketsAt] at member also
  rw [numbered, member] at also
  cases ticket
  cases other
  cases numbered
  cases also
  rfl

theorem Played.found (played : Played web service calls events) (rested : service.Rested web)
    {ticket : Ticket} (member : ticket ∈ tickets calls) :
    ∃ answer, (service.server.answers events).lookup ticket.number = some answer ∧
      (ticket.number, answer) ∈ service.server.answers events := by
  have accounted := runAccounted rested.orderly events
  rw [← played.server, played.rested.unpending, rested.unpending, played.came, List.map_nil,
    List.append_nil, List.append_nil] at accounted
  have numbered := accounted.mem_iff.2 (List.mem_map_of_mem member)
  obtain ⟨⟨number, first⟩, given, same⟩ := List.mem_map.1 numbered
  have some := List.lookup_isSome_iff.2 ⟨(number, first), given, beq_iff_eq.2 same.symm⟩
  obtain ⟨answer, found⟩ := Option.isSome_iff_exists.1 some
  obtain ⟨before, after, split, _⟩ := List.lookup_eq_some_iff.1 found
  exact ⟨answer, found, split ▸ List.mem_append_right _ List.mem_cons_self⟩

theorem answersOf {R : ToolCall → ToolAnswer → Prop} {answer? : Ticket → Option ToolAnswer}
    (tickets : List Ticket)
    (found : ∀ ticket ∈ tickets, ∃ answer, answer? ticket = some answer ∧ R ticket.call answer) :
    List.Forall₂ R (tickets.map Ticket.call) (tickets.filterMap answer?) := by
  induction tickets with
  | nil => exact .nil
  | cons ticket rest ih =>
    obtain ⟨answer, given, related⟩ := found ticket List.mem_cons_self
    rw [List.map_cons, List.filterMap_cons_some given]
    exact .cons related (ih fun other member => found other (List.mem_cons_of_mem _ member))

/- What holds of whatever is given in a group holds of its answers in their order. -/
theorem Played.each {R : ToolCall → ToolAnswer → Prop} (played : Played web service calls events)
    (rested : service.Rested web)
    (right : ∀ before event after, events = before ++ event :: after →
      ∀ ticket ∈ tickets calls, ∀ answer,
        Given (service.server.run before) event ticket answer → R ticket.call answer) :
    List.Forall₂ R calls (service.answerAll web calls).2 := by
  have found : ∀ ticket ∈ tickets calls, ∃ answer,
      (service.server.answers events).lookup ticket.number = some answer ∧
        R ticket.call answer := by
    intro ticket member
    obtain ⟨answer, found, answered⟩ := played.found rested member
    obtain ⟨before, event, after, same, other, came, numbered, given⟩ := givenTo rested answered
    rw [played.came] at came
    obtain rfl := ticketsSame member came numbered
    exact ⟨answer, found, right before event after same other member answer given⟩
  have all := answersOf (tickets calls) found
  rw [ticketsOf] at all
  rwa [played.answered]

/- A call that comes alone has one answer. -/
theorem answerAlone {P : ToolAnswer → Prop} {call : ToolCall} (rested : service.Rested web)
    (right : ∀ before event after answer,
      Faithful (service.client.backend web) service.server (before ++ event :: after) →
        arrivals (before ++ event :: after) = [⟨0, call⟩] →
          Given (service.server.run before) event ⟨0, call⟩ answer → P answer) :
    ∃ answer, (service.answerAll web [call]).2 = [answer] ∧ P answer := by
  obtain ⟨events, played⟩ := groupPlayed rested [call]
  have each : List.Forall₂ (fun _ answer => P answer) [call] (service.answerAll web [call]).2 := by
    refine played.each rested fun before event after same ticket member answer given => ?_
    subst same
    obtain rfl := List.mem_singleton.1 member
    exact right before event after answer played.faithful played.came given
  obtain ⟨answer, rest, holds, none, same⟩ := List.forall₂_cons_left_iff.1 each
  rw [List.forall₂_nil_left_iff.1 none] at same
  exact ⟨answer, same, holds⟩

end PolicySearch.Service
