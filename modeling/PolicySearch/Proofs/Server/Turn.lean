import PolicySearch.Proofs.Session.Alone
import PolicySearch.Server.Basic
/-! A server in order, and what one event can do to it, said once. Either no call has the switch,
nothing is in flight and the index is of the selected branch; or one call has the switch, and waits
for the only rebuild in flight. -/
namespace PolicySearch

def ServerEvent.ticket? : ServerEvent → Option Ticket
  | .arrive ticket => some ticket
  | .resume | .fetched .. => none

namespace Server

variable {server : Server} {event : ServerEvent} {holder : Holder} {r : Rebuild}

/- No call has the switch. -/
structure Free (server : Server) : Prop where
  unheld : server.holder = none
  rested : server.session.inFlight = []
  current : server.session.index.branch = server.session.current

/- A call has the switch: the rebuild that it waits for is of the branch that it names, is the newest
and is alone in flight. -/
structure Held (server : Server) (holder : Holder) (r : Rebuild) : Prop where
  holds : server.holder = some holder
  single : server.session.inFlight = [r]
  pending : r.complete = false
  awaited : holder.generation = r.generation
  newest : r.generation = server.session.generation
  selected : server.session.current = some r.branch
  named : holder.ticket.call.branch? = some (.str r.branch)

structure Orderly (server : Server) : Prop where
  phase : Free server ∨ ∃ holder r, Held server holder r
  queue : ∀ w ∈ server.waiting, w.ticket.call.branch? = some w.branch
  listed : ∀ name, server.session.current = some name →
    (server.session.branch? (.str name)).isSome = true

/- The call that is handed the switch: one that wants it when nobody has it or waits for it, else the
first that waits. -/
def next? (server : Server) : ServerEvent → Option Waiter
  | .arrive ticket =>
    if server.holder.isNone && server.waiting.isEmpty then
      (server.wanted? ticket.call).map (Waiter.mk ticket)
    else none
  | .resume => if server.holder.isNone then server.waiting.head? else none
  | .fetched .. => none

/- What an event can do to a server in order. Nothing; or a call comes, and is answered at once or
waits; or a call is handed the switch, and is refused or begins a rebuild of its branch; or the
rebuild in flight hears of a fetch, and waits for another or ends, and then its call is answered. -/
inductive Turn (server : Server) (event : ServerEvent) (served : Served) : Prop where
  | idle (calm : event.ticket? = none) (ungranted : server.next? event = none)
      (same : served.server = server) (begun : served.begun = none) (answers : served.answers = [])
  | atOnce (ticket : Ticket) (arrived : event = .arrive ticket)
      (ungranted : server.next? event = none) (unwanted : server.wanted? ticket.call = none)
      (same : served.server = server) (begun : served.begun = none)
      (answers : served.answers = [(ticket.number, ticket.call.answer server.session)])
  | waits (ticket : Ticket) (branch : Json) (arrived : event = .arrive ticket)
      (ungranted : server.next? event = none) (wanted : server.wanted? ticket.call = some branch)
      (same : served.server = { server with waiting := server.waiting ++ [⟨ticket, branch⟩] })
      (begun : served.begun = none) (answers : served.answers = [])
  | refuses (w : Waiter) (free : Free server) (granted : server.next? event = some w)
      (unknown : server.session.branch? w.branch = none)
      (same : served.server = { server with waiting := server.waiting.tail })
      (begun : served.begun = none)
      (answers : served.answers =
        [(w.ticket.number, w.ticket.call.refuse w.branch server.session)])
  | switches (w : Waiter) (known : Branch) (free : Free server)
      (granted : server.next? event = some w)
      (found : server.session.branch? w.branch = some known)
      (same : served.server =
        { session := ({ server.session with current := some known.id }.beginRebuild known.id).session
          holder := some ⟨w.ticket, server.session.generation + 1⟩
          waiting := server.waiting.tail })
      (begun : served.begun =
        some { generation := server.session.generation + 1, branch := known.id })
      (answers : served.answers = [])
  | hears (holder : Holder) (r : Rebuild) (kind : Kind) (outcome : Outcome)
      (held : Held server holder r) (reported : event = .fetched r.generation kind outcome)
      (pending : (r.receive kind (server.session.effective outcome)).complete = false)
      (same : served.server =
        { server with
          session :=
            { server.session with
              inFlight := [r.receive kind (server.session.effective outcome)] } })
      (begun : served.begun = none) (answers : served.answers = [])
  | ends (holder : Holder) (r : Rebuild) (kind : Kind) (outcome : Outcome)
      (held : Held server holder r) (reported : event = .fetched r.generation kind outcome)
      (complete : (r.receive kind (server.session.effective outcome)).complete = true)
      (same : served.server =
        { server with
          session :=
            { server.session with
              index := (r.receive kind (server.session.effective outcome)).index
              inFlight := [] }
          holder := none })
      (begun : served.begun = none)
      (answers : served.answers =
        [(holder.ticket.number, holder.ticket.call.answer served.server.session)])

theorem Free.ofUnheld (orderly : Orderly server) (unheld : server.holder = none) : Free server := by
  rcases orderly.phase with free | ⟨holder, r, held⟩
  · exact free
  · rw [held.holds] at unheld
    cases unheld

theorem takeTurn (free : Free server) {w : Waiter} (granted : server.next? event = some w) :
    Turn server event ({ server with waiting := server.waiting.tail }.take w) := by
  unfold take
  cases found : server.session.branch? w.branch with
  | none =>
    rw [if_neg (by simp)]
    exact .refuses w free granted found rfl rfl rfl
  | some known =>
    rw [if_pos (by simp)]
    simp only [Session.select, found]
    exact .switches w known free granted found rfl rfl rfl

theorem arriveTurn (orderly : Orderly server) (ticket : Ticket) :
    Turn server (.arrive ticket) (server.arrive ticket) := by
  unfold arrive
  cases wanted : server.wanted? ticket.call with
  | none => exact .atOnce ticket rfl (by simp [next?, wanted]) wanted rfl rfl rfl
  | some branch =>
    by_cases vacant : (server.holder.isNone && server.waiting.isEmpty) = true
    · have granted : server.next? (.arrive ticket) = some ⟨ticket, branch⟩ := by
        simp only [next?, if_pos vacant, wanted, Option.map_some]
      simp only [Bool.and_eq_true, Option.isNone_iff_eq_none, List.isEmpty_iff] at vacant
      have turn := takeTurn (Free.ofUnheld orderly vacant.1) granted
      have alone : { server with waiting := server.waiting.tail } = server := by
        rw [vacant.2, List.tail_nil, ← vacant.2]
      rw [alone] at turn
      simpa [vacant] using turn
    · have ungranted : server.next? (.arrive ticket) = none := by
        simp only [next?, if_neg vacant]
      simp only [if_neg vacant]
      exact .waits ticket branch rfl ungranted wanted rfl rfl rfl

theorem resumeTurn (orderly : Orderly server) : Turn server .resume server.resume := by
  unfold resume
  cases unheld : server.holder with
  | some holder => exact .idle rfl (by simp [next?, unheld]) rfl rfl rfl
  | none =>
    cases queue : server.waiting with
    | nil => exact .idle rfl (by simp [next?, queue]) rfl rfl rfl
    | cons w rest =>
      have granted : server.next? .resume = some w := by simp [next?, unheld, queue]
      have turn := takeTurn (Free.ofUnheld orderly unheld) granted
      rwa [queue, List.tail_cons, unheld] at turn

/- A report is of no rebuild in flight, or of the one that a call waits for; and the end of that one
installs its index. -/
theorem Orderly.received (orderly : Orderly server) (generation : Nat) (kind : Kind)
    (outcome : Outcome) :
    server.session.receive generation kind outcome = { session := server.session } ∨
      ∃ holder r, Held server holder r ∧ generation = r.generation ∧
        ((r.receive kind (server.session.effective outcome)).complete = false ∧
            server.session.receive generation kind outcome =
              { session :=
                  { server.session with
                    inFlight := [r.receive kind (server.session.effective outcome)] } } ∨
          (r.receive kind (server.session.effective outcome)).complete = true ∧
            server.session.receive generation kind outcome =
              { session :=
                  { server.session with
                    index := (r.receive kind (server.session.effective outcome)).index
                    inFlight := [] }
                log :=
                  (r.receive kind (server.session.effective outcome)).report server.session.limit
                settled := some (r.generation, true) }) := by
  rcases orderly.phase with free | ⟨holder, r, held⟩
  · refine .inl (Session.receiveUnheard kind outcome fun r member => ?_)
    rw [free.rested] at member
    cases member
  · by_cases own : r.generation = generation
    · subst own
      refine .inr ⟨holder, r, held, rfl, ?_⟩
      cases heard : (r.receive kind (server.session.effective outcome)).complete with
      | false => exact .inl ⟨rfl, Session.receivePending held.single heard⟩
      | true =>
        exact .inr ⟨rfl, Session.receiveLast held.single held.newest held.selected heard⟩
    · refine .inl (Session.receiveUnheard kind outcome fun other member => ?_)
      rw [held.single, List.mem_singleton] at member
      exact member ▸ own

theorem receiveTurn (orderly : Orderly server) (generation : Nat) (kind : Kind)
    (outcome : Outcome) :
    Turn server (.fetched generation kind outcome) (server.receive generation kind outcome) := by
  rcases orderly.received generation kind outcome with
    unheard | ⟨holder, r, held, rfl, ⟨pending, heard⟩ | ⟨complete, last⟩⟩
  · simp only [receive, unheard]
    exact .idle rfl rfl rfl rfl rfl
  · simp only [receive, heard]
    exact .hears holder r kind outcome held rfl pending rfl rfl rfl
  · simp only [receive, last, held.holds, if_pos held.awaited]
    exact .ends holder r kind outcome held rfl complete rfl rfl rfl

theorem serveTurn (orderly : Orderly server) (event : ServerEvent) :
    Turn server event (server.serve event) := by
  cases event with
  | arrive ticket => exact arriveTurn orderly ticket
  | resume => exact resumeTurn orderly
  | fetched generation kind outcome => exact receiveTurn orderly generation kind outcome

end Server

end PolicySearch
