import PolicySearch.Proofs.Server.Groups
/-! Switches are made one after another. Only one rebuild is in flight at a time, none is made in
vain, and when no call is pending the index is of the selected branch. -/
namespace PolicySearch

namespace Server

variable {server : Server}

theorem Orderly.single (orderly : Orderly server) : server.session.inFlight.length ≤ 1 := by
  rcases orderly.phase with free | ⟨holder, r, held⟩
  · rw [free.rested]
    exact Nat.zero_le 1
  · rw [held.single]
    exact Nat.le_refl 1

theorem Orderly.installed (orderly : Orderly server) {generation : Nat} {kind : Kind}
    {outcome : Outcome} {ended : Nat} {installed : Bool}
    (settled : (server.session.receive generation kind outcome).settled = some (ended, installed)) :
    installed = true := by
  rcases orderly.received generation kind outcome with
    unheard | ⟨holder, r, held, _, ⟨_, heard⟩ | ⟨_, last⟩⟩
  · rw [unheard] at settled
    cases settled
  · rw [heard] at settled
    cases settled
  · rw [last] at settled
    cases settled
    rfl

theorem Orderly.current (orderly : Orderly server) (done : server.pending = []) :
    server.session.isCurrent = true := by
  rcases orderly.phase with free | ⟨holder, r, held⟩
  · exact beq_iff_eq.2 free.current
  · rw [pending, held.holds] at done
    cases done

end Server

namespace Service
open Server

/- What holds of every run of a server: any calls at any time, the fetches in flight reported in any
order. The calls that took the switch with a branch of the listing are those that have it while a
rebuild of that branch is made. Groups of calls are such a run, at the end of which no call is
pending. -/
structure Serialised (web : Web) (service : Service) : Prop where
  single : ∀ events, (service.server.run events).session.inFlight.length ≤ 1
  installed : ∀ events generation kind outcome ended installed,
    ((service.server.run events).session.receive generation kind outcome).settled =
      some (ended, installed) → installed = true
  current : ∀ events, (service.server.run events).pending = [] →
    (service.server.run events).session.isCurrent = true
  selected : ∀ events, (service.server.run events).session.current.map Json.str =
    ((service.server.switches events).getLast?.map Waiter.branch).or
      (service.server.session.current.map Json.str)
  began : ∀ events event,
    ((service.server.run events).serve event).begun.map (fun r => Json.str r.branch) =
      ((service.server.run events).switched event).head?.map Waiter.branch
  held : ∀ events event, ∀ w ∈ (service.server.run events).switched event,
    ((service.server.run events).step event).holder.map Holder.ticket = some w.ticket
  came : ∀ events, ∀ w ∈ service.server.switches events,
    w.ticket ∈ arrivals events ∧ w.ticket.call.branch? = some w.branch
  groups : ∀ groups, ∃ events, arrivals events = groups.flatMap tickets ∧
    (service.after web groups).server = service.server.run events ∧
    (service.after web groups).server.pending = []

theorem switchesSerialised {web : Web} {settings : Settings} {service : Service}
    (started : Service.start web settings = .ok service) : Serialised web service := by
  have rested := startRested started
  have orderly := rested.orderly
  refine {
    single := fun events => (orderly.run events).single
    installed := fun events _ _ _ _ _ settled => (orderly.run events).installed settled
    current := fun events done => (orderly.run events).current done
    selected := runSelected orderly
    began := fun events => stepBegun (orderly.run events)
    held := fun events => stepHolder (orderly.run events)
    came := ?_
    groups := ?_ }
  · intro events w member
    have came := runSwitches orderly events w member
    rwa [rested.unpending, List.append_nil] at came
  · intro groups
    obtain ⟨events, played⟩ := groupsPlayed rested groups
    exact ⟨events, played.came, played.server, played.rested.unpending⟩

theorem switchedThrice : ∃ service, Service.start twoBranches {} = .ok service ∧
    Serialised twoBranches service ∧
    (service.after twoBranches
      [[.search {} (.str "dev"), .search {} (.str "master")],
        [.search {} (.str "none"), .search {} (.str "dev")]]).server.session.current =
      some "dev" := by
  have started : Service.start twoBranches {} = .ok _ := rfl
  exact ⟨_, started, switchesSerialised started, by decide +kernel⟩

end Service

end PolicySearch
