import Mathlib.Computability.StateTransition
import Mathlib.Data.Finset.Card

/-!
# Walks of a partial step function

A partial step function `next : σ → Option σ` moves a position until it is
undefined.  When only finitely many positions have a successor, the walk from a
position ends exactly when it never meets a position that lies on a cycle, and
the number of positions with a successor bounds its length.
-/

namespace DnsHijacker.Library.Walk

open StateTransition

universe u

variable {σ : Type u}

/-- The position after exactly `n` steps; `none` once the walk has ended. -/
def advance (next : σ → Option σ) : Nat → σ → Option σ
  | 0, position => some position
  | n + 1, position => (next position).bind (advance next n)

@[simp]
theorem advance_zero (next : σ → Option σ) (position : σ) :
    advance next 0 position = some position :=
  rfl

theorem advance_succ (next : σ → Option σ) (n : Nat) (position : σ) :
    advance next (n + 1) position = (next position).bind (advance next n) :=
  rfl

/-- Walks split at an arbitrary sum of step counts. -/
theorem advance_add (next : σ → Option σ) (m n : Nat) (position : σ) :
    advance next (m + n) position =
      (advance next m position).bind (advance next n) := by
  induction m generalizing position with
  | zero => simp
  | succ m ih =>
      rw [Nat.succ_add, advance_succ, advance_succ]
      cases next position with
      | none => rfl
      | some target => exact ih target

/-- A walk that has ended stays ended. -/
theorem advance_eq_none_mono {next : σ → Option σ} {m n : Nat} {position : σ}
    (ended : advance next m position = none) (le : m ≤ n) :
    advance next n position = none := by
  obtain ⟨k, rfl⟩ := Nat.exists_eq_add_of_le le
  rw [advance_add, ended]
  rfl

theorem reaches_of_advance {next : σ → Option σ} {n : Nat} {source target : σ}
    (walked : advance next n source = some target) : Reaches next source target := by
  induction n generalizing source with
  | zero =>
      cases walked
      exact .refl
  | succ n ih =>
      obtain ⟨middle, step, rest⟩ := Option.bind_eq_some_iff.mp walked
      exact .head step (ih rest)

theorem reaches₁_of_advance_succ {next : σ → Option σ} {n : Nat} {source target : σ}
    (walked : advance next (n + 1) source = some target) : Reaches₁ next source target := by
  obtain ⟨middle, step, rest⟩ := Option.bind_eq_some_iff.mp walked
  exact .head' step (reaches_of_advance rest)

theorem exists_advance_of_reaches {next : σ → Option σ} {source target : σ}
    (reaches : Reaches next source target) : ∃ n, advance next n source = some target := by
  induction reaches using Relation.ReflTransGen.head_induction_on with
  | refl => exact ⟨0, rfl⟩
  | head step _ ih =>
      obtain ⟨n, walked⟩ := ih
      refine ⟨n + 1, ?_⟩
      rw [advance_succ, Option.mem_def.mp step]
      exact walked

theorem exists_advance_succ_of_reaches₁ {next : σ → Option σ} {source target : σ}
    (reaches : Reaches₁ next source target) :
    ∃ n, advance next (n + 1) source = some target := by
  obtain ⟨middle, step, rest⟩ := Relation.TransGen.head'_iff.mp reaches
  obtain ⟨n, walked⟩ := exists_advance_of_reaches rest
  refine ⟨n, ?_⟩
  rw [advance_succ, Option.mem_def.mp step]
  exact walked

/-- The walk from `start` ends after finitely many steps. -/
def Ends (next : σ → Option σ) (start : σ) : Prop :=
  ∃ n, advance next n start = none

/-- The walk from `start` meets a position that it can come back to. -/
def MeetsCycle (next : σ → Option σ) (start : σ) : Prop :=
  ∃ position, Reaches next start position ∧ Reaches₁ next position position

theorem advance_mul_of_cycle {next : σ → Option σ} {period : Nat} {position : σ}
    (cycle : advance next period position = some position) (rounds : Nat) :
    advance next (period * rounds) position = some position := by
  induction rounds with
  | zero => rfl
  | succ rounds ih =>
      rw [Nat.mul_succ, advance_add, ih]
      exact cycle

/-- A walk that meets a cycle goes round it for ever. -/
theorem MeetsCycle.not_ends {next : σ → Option σ} {start : σ}
    (meets : MeetsCycle next start) : ¬ Ends next start := by
  rintro ⟨n, ended⟩
  obtain ⟨position, reaches, back⟩ := meets
  obtain ⟨lead, led⟩ := exists_advance_of_reaches reaches
  obtain ⟨period, cycle⟩ := exists_advance_succ_of_reaches₁ back
  have again : advance next (lead + (period + 1) * n) start = some position := by
    rw [advance_add, led]
    exact advance_mul_of_cycle cycle n
  have late : n ≤ lead + (period + 1) * n :=
    Nat.le_add_left_of_le (Nat.le_mul_of_pos_left n period.succ_pos)
  rw [advance_eq_none_mono ended late] at again
  contradiction

/-- With finitely many positions that have a successor, a walk longer than
their number has visited one of them twice. -/
theorem advance_card_eq_none [DecidableEq σ] {next : σ → Option σ} {live : Finset σ}
    (mem_live : ∀ position, next position ≠ none → position ∈ live) {start : σ}
    (acyclic : ¬ MeetsCycle next start) : advance next (live.card + 1) start = none := by
  by_contra running
  have visited : ∀ i, i ∈ Finset.range (live.card + 1) →
      ∃ position, advance next i start = some position ∧ position ∈ live := by
    intro i iMem
    have later : advance next (i + 1) start ≠ none := fun ended =>
      running (advance_eq_none_mono ended (Finset.mem_range.mp iMem))
    rw [advance_add] at later
    cases here : advance next i start with
    | none => simp [here] at later
    | some position =>
        refine ⟨position, rfl, mem_live position fun stuck => later ?_⟩
        simp [here, advance_succ, stuck]
  have : Nonempty σ := ⟨start⟩
  choose! position walked memLive using visited
  obtain ⟨i, iMem, j, jMem, ne, same⟩ :=
    Finset.exists_ne_map_eq_of_card_lt_of_maps_to
      (by simp : live.card < (Finset.range (live.card + 1)).card) memLive
  wlog lt : i < j generalizing i j
  · exact this j jMem i iMem ne.symm same.symm (by omega)
  obtain ⟨gap, rfl⟩ := Nat.exists_eq_add_of_lt lt
  refine acyclic ⟨position i, reaches_of_advance (walked i iMem), ?_⟩
  have split : advance next (gap + 1) (position i) = some (position i) := by
    have whole := walked (i + gap + 1) jMem
    rw [Nat.add_assoc, advance_add, walked i iMem, ← Nat.add_assoc, ← same] at whole
    exact whole
  exact reaches₁_of_advance_succ split

/-- Walks over finitely many live positions end exactly when they meet no
cycle. -/
theorem ends_iff_not_meetsCycle [DecidableEq σ] {next : σ → Option σ} {live : Finset σ}
    (mem_live : ∀ position, next position ≠ none → position ∈ live) (start : σ) :
    Ends next start ↔ ¬ MeetsCycle next start :=
  ⟨fun ends meets => meets.not_ends ends,
    fun acyclic => ⟨live.card + 1, advance_card_eq_none mem_live acyclic⟩⟩

/-- The number of live positions is a sufficient step budget. -/
theorem ends_iff_advance_card [DecidableEq σ] {next : σ → Option σ} {live : Finset σ}
    (mem_live : ∀ position, next position ≠ none → position ∈ live) (start : σ) :
    Ends next start ↔ advance next (live.card + 1) start = none :=
  ⟨fun ends => advance_card_eq_none mem_live
      ((ends_iff_not_meetsCycle mem_live start).mp ends),
    fun ended => ⟨_, ended⟩⟩

end DnsHijacker.Library.Walk
