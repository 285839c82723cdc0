import DnsHijacker.DnsRelay.RelayPicker
import DnsHijacker.ResolverProxy.Failover

/-!
# Fairness

The relays of `dns_relay` and the targets of `resolver_proxy` are taken in turn by the same atomic
counter.  However the calls of the tasks interleave, each of them is first equally often.
-/

namespace DnsHijacker.ResolverProxy

open DnsHijacker.Library
open DnsHijacker.DnsRelay

variable {ObfsKey : Type}

/-- The picker when its counter has this value. -/
def TargetPicker.atTicket (picker : TargetPicker ObfsKey) (ticket : UInt64) :
    TargetPicker ObfsKey :=
  { picker with cursor := ticket }

/-- The number of the target that is tried first with a ticket. -/
def TargetPicker.slot (picker : TargetPicker ObfsKey) (ticket : UInt64) :
    Fin picker.targets.length :=
  Tickets.slot (List.length_pos_of_ne_nil picker.nonempty) ticket

theorem TargetPicker.head_order_atTicket {picker : TargetPicker ObfsKey}
    (turns : picker.strategy = .roundRobin) (ticket : UInt64) :
    (picker.atTicket ticket).order.head? = some (picker.slot ticket) := by
  have strategy : (picker.atTicket ticket).strategy = .roundRobin := turns
  have inside : (picker.slot ticket).val < (List.finRange picker.targets.length).length := by
    rw [List.length_finRange]
    exact (picker.slot ticket).isLt
  rw [TargetPicker.order, strategy]
  calc
    _ = ((List.finRange picker.targets.length).drop (picker.slot ticket)).head? := by
      apply List.head?_append_of_ne_nil
      rw [ne_eq, List.drop_eq_nil_iff]
      exact Nat.not_le.mpr inside
    _ = some (picker.slot ticket) := by
      rw [List.head?_drop, List.getElem?_eq_getElem inside, List.getElem_finRange]
      rfl

/-- A call lists the targets from that of its ticket on and leaves the next ticket. -/
theorem TargetPicker.tryOrder_atTicket {picker : TargetPicker ObfsKey}
    (turns : picker.strategy = .roundRobin) (ticket : UInt64) :
    (picker.atTicket ticket).tryOrder =
      ((picker.atTicket ticket).order.map picker.targets.get, picker.atTicket (ticket + 1)) := by
  apply Prod.ext
  · exact (picker.atTicket ticket).tryOrder_eq
  · rcases picker with ⟨targets, strategy, cursor, nonempty⟩
    cases turns
    rfl

/-- In every run that makes at most `2 ^ 64` calls, calls in progress included, each relay is
picked and each target is tried first its fair share of them; every target is always listed once. -/
theorem pickers_fair {RelayInstance Task : Type} [DecidableEq Task]
    (relays : RelayPicker RelayInstance) (targets : TargetPicker ObfsKey)
    (turns : targets.strategy = .roundRobin) {trace : List (TicketEvent Task)}
    {state : Tickets Task} (ran : run Tickets.next .fresh trace = some state)
    (few : state.calls.length ≤ 2 ^ 64) :
    (∀ number : Fin relays.instances.length,
      Tickets.FairShare state.calls.length relays.instances.length
        (state.calls.countP fun call => relays.slot call.2 = number)) ∧
    (∀ number : Fin targets.targets.length,
      Tickets.FairShare state.calls.length targets.targets.length
        (state.calls.countP fun call => targets.slot call.2 = number)) ∧
    ∀ ticket,
      (relays.atTicket ticket).pick =
        (relays.instances.get (relays.slot ticket), relays.atTicket (ticket + 1)) ∧
      (targets.atTicket ticket).tryOrder =
        ((targets.atTicket ticket).order.map targets.targets.get,
          targets.atTicket (ticket + 1)) ∧
      (targets.atTicket ticket).order.head? = some (targets.slot ticket) ∧
      (targets.atTicket ticket).order.Perm (List.finRange targets.targets.length) :=
  have drawn := Tickets.drawn_of_run ran
  ⟨drawn.fairShare_slot few relays.length_pos, drawn.fairShare_slot few _, fun ticket =>
    ⟨relays.pick_atTicket ticket, TargetPicker.tryOrder_atTicket turns ticket,
      TargetPicker.head_order_atTicket turns ticket, (targets.atTicket ticket).order_perm⟩⟩

/-- Two relays; both targets in turn. -/
def twoRelays : RelayPicker Bool where
  instances := [false, true]
  lastIdx := 0
  nonempty := List.cons_ne_nil _ _

def inTurn : TargetPicker UInt8 :=
  { obfsThenPlain with strategy := .roundRobin }

/-- Three tasks, of which the second returns first. -/
def overlapping : List (TicketEvent Nat) :=
  [.fetchAdd 0, .fetchAdd 1, .finish 1, .fetchAdd 2, .finish 0]

theorem pickers_fair_overlapping :
    run Tickets.next .fresh overlapping = some ⟨3, [(2, 2)], [(0, 0), (1, 1)]⟩ ∧
      Tickets.FairShare 3 2
        ([((2 : Nat), (2 : UInt64)), (0, 0), (1, 1)].countP fun call =>
          twoRelays.slot call.2 = ⟨0, Nat.zero_lt_succ 1⟩) := by
  have ran : run Tickets.next .fresh overlapping = some ⟨3, [(2, 2)], [(0, 0), (1, 1)]⟩ := rfl
  exact ⟨ran, (pickers_fair twoRelays inTurn rfl ran (by decide)).1 ⟨0, Nat.zero_lt_succ 1⟩⟩

end DnsHijacker.ResolverProxy
