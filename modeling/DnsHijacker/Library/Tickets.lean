import DnsHijacker.Library.Run
import Mathlib.Algebra.Order.Floor.Div
import Mathlib.Data.Int.CardIntervalMod

/-!
# Tickets from a shared counter

Tasks draw tickets from an atomic counter of 64 bits that wraps around.  A call first draws its
ticket, which is the only step that touches shared state, and later returns; calls of different
tasks interleave in any way.  Up to the first wrap every ticket is drawn once, so the tickets of
each residue are drawn equally often.
-/

namespace DnsHijacker.Library

universe u

/-- The counter, the calls that hold a ticket, and the calls that have returned. -/
structure Tickets (Task : Type u) where
  counter : UInt64
  held : List (Task × UInt64)
  returned : List (Task × UInt64)

/-- What a task does next. -/
inductive TicketEvent (Task : Type u) where
  | fetchAdd (task : Task)
  | finish (task : Task)

namespace Tickets

variable {Task : Type u}

/-- No ticket is drawn yet. -/
def fresh : Tickets Task :=
  ⟨0, [], []⟩

/-- A task has at most one call at a time. -/
def next [DecidableEq Task] (state : Tickets Task) : TicketEvent Task → Option (Tickets Task)
  | .fetchAdd task =>
      if task ∈ state.held.map Prod.fst then none
      else
        some { state with
          counter := state.counter + 1
          held := (task, state.counter) :: state.held }
  | .finish task =>
      (state.held.find? (·.1 = task)).map fun call =>
        { state with
          held := state.held.erase call
          returned := call :: state.returned }

/-- All calls made, those in progress included. -/
def calls (state : Tickets Task) : List (Task × UInt64) :=
  state.held ++ state.returned

/-- Whatever the tasks did, the tickets drawn are the first ones. -/
structure Drawn (state : Tickets Task) : Prop where
  counter : state.counter = UInt64.ofNat state.calls.length
  tickets : (state.calls.map Prod.snd).Perm ((List.range state.calls.length).map UInt64.ofNat)

theorem drawn_fresh : Drawn (fresh : Tickets Task) :=
  ⟨rfl, .refl _⟩

/-- One more ticket is drawn. -/
theorem Drawn.fetchAdd {state : Tickets Task} (drawn : state.Drawn) (task : Task) :
    Drawn { state with counter := state.counter + 1, held := (task, state.counter) :: state.held } := by
  have more : calls { state with
      counter := state.counter + 1
      held := (task, state.counter) :: state.held } = (task, state.counter) :: state.calls := rfl
  constructor
  · rw [more, List.length_cons, UInt64.ofNat_add, ← drawn.counter]
    rfl
  · rw [more, List.length_cons, List.range_succ, List.map_append, List.map_cons, List.map_cons,
      ← drawn.counter]
    exact (drawn.tickets.cons _).trans (List.perm_append_singleton _ _).symm

/-- A call that returns keeps its ticket. -/
theorem Drawn.finish [DecidableEq Task] {state : Tickets Task} (drawn : state.Drawn) {call : Task × UInt64}
    (mem : call ∈ state.held) :
    Drawn { state with held := state.held.erase call, returned := call :: state.returned } := by
  have same : state.calls.Perm (calls { state with
      held := state.held.erase call
      returned := call :: state.returned }) :=
    ((List.perm_cons_erase mem).append_right _).trans List.perm_middle.symm
  constructor
  · rw [← same.length_eq]
    exact drawn.counter
  · rw [← same.length_eq]
    exact (same.map Prod.snd).symm.trans drawn.tickets

theorem Drawn.next [DecidableEq Task] {state after : Tickets Task} {event : TicketEvent Task} (drawn : state.Drawn)
    (step : state.next event = some after) : after.Drawn := by
  cases event with
  | fetchAdd task =>
      rw [Tickets.next] at step
      split at step
      · cases step
      · cases step
        exact drawn.fetchAdd task
  | finish task =>
      obtain ⟨call, found, rfl⟩ := Option.map_eq_some_iff.mp step
      exact drawn.finish (List.mem_of_find?_eq_some found)

theorem drawn_of_run [DecidableEq Task] {trace : List (TicketEvent Task)} {state : Tickets Task}
    (ran : run next fresh trace = some state) : state.Drawn :=
  run_invariant drawn_fresh (fun _ _ _ drawn step => drawn.next step) ran

/-! ## Residues -/

/-- One of `parts` equal shares of `total`, up to rounding. -/
def FairShare (total parts share : Nat) : Prop :=
  share = total / parts ∨ share = total ⌈/⌉ parts

instance (total parts share : Nat) : Decidable (FairShare total parts share) :=
  decidable_of_iff (share = total / parts ∨ share = (total + parts - 1) / parts) (by
    rw [FairShare, Nat.ceilDiv_eq_add_pred_div])

theorem countP_range (p : Nat → Prop) [DecidablePred p] (n : Nat) :
    (List.range n).countP (p ·) = n.count p := by
  induction n with
  | zero => rfl
  | succ n ih =>
      rw [List.range_succ, List.countP_append, ih, Nat.count_succ, List.countP_singleton]
      simp

theorem fairShare_count_modEq {parts : Nat} (positive : 0 < parts) (total residue : Nat) :
    FairShare total parts (total.count (· ≡ residue [MOD parts])) := by
  rw [Nat.count_modEq_card total positive]
  by_cases extra : residue % parts < total % parts
  · right
    have below := Nat.mod_lt total positive
    have split : total + parts - 1 = parts * (total / parts + 1) + (total % parts - 1) := by
      have whole := Nat.div_add_mod total parts
      rw [Nat.mul_add, Nat.mul_one]
      omega
    rw [if_pos extra, Nat.ceilDiv_eq_add_pred_div, split, Nat.mul_add_div positive,
      Nat.div_eq_of_lt (by omega : total % parts - 1 < parts), Nat.add_zero]
  · left
    rw [if_neg extra, Nat.add_zero]

/-- Up to the first wrap, each residue gets its share of the calls. -/
theorem Drawn.fairShare {state : Tickets Task} (drawn : state.Drawn)
    (few : state.calls.length ≤ 2 ^ 64) {parts residue : Nat} (inside : residue < parts) :
    FairShare state.calls.length parts
      (state.calls.countP fun call => call.2.toNat % parts = residue) := by
  have exact : ∀ n ∈ List.range state.calls.length, (UInt64.ofNat n).toNat = n := by
    intro n mem
    rw [UInt64.toNat_ofNat']
    exact Nat.mod_eq_of_lt ((List.mem_range.mp mem).trans_le few)
  have counted : (state.calls.countP fun call => call.2.toNat % parts = residue) =
      state.calls.length.count (· ≡ residue [MOD parts]) := by
    calc
      (state.calls.countP fun call => call.2.toNat % parts = residue)
        = (state.calls.map Prod.snd).countP (fun ticket => ticket.toNat % parts = residue) := by
          rw [List.countP_map]
          rfl
      _ = ((List.range state.calls.length).map UInt64.ofNat).countP
            (fun ticket => ticket.toNat % parts = residue) := drawn.tickets.countP_eq _
      _ = (List.range state.calls.length).countP (· ≡ residue [MOD parts]) := by
          rw [List.countP_map]
          apply List.countP_congr
          intro n mem
          simp [exact n mem, Nat.ModEq, Nat.mod_eq_of_lt inside]
      _ = state.calls.length.count (· ≡ residue [MOD parts]) := countP_range _ _
  rw [counted]
  exact fairShare_count_modEq (Nat.zero_lt_of_lt inside) _ _

/-- The part that a ticket falls to. -/
def slot {parts : Nat} (positive : 0 < parts) (ticket : UInt64) : Fin parts :=
  ⟨ticket.toNat % parts, Nat.mod_lt _ positive⟩

theorem Drawn.fairShare_slot {state : Tickets Task} (drawn : state.Drawn)
    (few : state.calls.length ≤ 2 ^ 64) {parts : Nat} (positive : 0 < parts)
    (number : Fin parts) :
    FairShare state.calls.length parts
      (state.calls.countP fun call => slot positive call.2 = number) := by
  have share := drawn.fairShare few number.isLt
  have same : (fun call : Task × UInt64 => decide (slot positive call.2 = number)) =
      fun call => decide (call.2.toNat % parts = number) := by
    funext call
    rw [decide_eq_decide, Fin.ext_iff, slot]
  rwa [same]

end Tickets

end DnsHijacker.Library
