import Mathlib.Algebra.BigOperators.Group.List.Basic
import Mathlib.Data.List.Perm.Basic

/-!
# Lists whose elements change one at a time

A list of tasks in which the task at one place goes on, or leaves.  Sums over the tasks change by
what that task had and has, and a property of all tasks needs a proof for that task only.
-/

namespace DnsHijacker.Library

universe u v

variable {α : Type u} {slots : List α} {place : Nat} {old : α}

theorem perm_of_getElem? (found : slots[place]? = some old) :
    slots.Perm (old :: slots.eraseIdx place) := by
  obtain ⟨inside, rfl⟩ := List.getElem?_eq_some_iff.mp found
  exact (List.getElem_cons_eraseIdx_perm inside).symm

theorem set_perm_of_getElem? (found : slots[place]? = some old) (new : α) :
    (slots.set place new).Perm (new :: slots.eraseIdx place) :=
  List.set_perm_cons_eraseIdx (List.getElem?_eq_some_iff.mp found).1 new

section

variable {M : Type v} [AddCommMonoid M]

/-- What all tasks have together. -/
def total (weight : α → M) (slots : List α) : M :=
  (slots.map weight).sum

@[simp]
theorem total_nil (weight : α → M) : total weight [] = 0 :=
  rfl

theorem total_cons (weight : α → M) (new : α) (slots : List α) :
    total weight (new :: slots) = weight new + total weight slots := by
  rw [total, List.map_cons, List.sum_cons, total]

theorem total_append (weight : α → M) (first second : List α) :
    total weight (first ++ second) = total weight first + total weight second := by
  rw [total, List.map_append, List.sum_append, total, total]

theorem total_concat (weight : α → M) (slots : List α) (new : α) :
    total weight (slots ++ [new]) = weight new + total weight slots := by
  rw [total_append, total_cons, total_nil, add_zero, add_comm]

theorem total_add (weight other : α → M) (slots : List α) :
    total (fun slot => weight slot + other slot) slots = total weight slots + total other slots :=
  List.sum_map_add

theorem total_of_getElem? (weight : α → M) (found : slots[place]? = some old) :
    total weight slots = weight old + total weight (slots.eraseIdx place) :=
  ((perm_of_getElem? found).map weight).sum_eq

theorem total_set (weight : α → M) (found : slots[place]? = some old) (new : α) :
    total weight (slots.set place new) = weight new + total weight (slots.eraseIdx place) :=
  ((set_perm_of_getElem? found new).map weight).sum_eq

end

theorem total_le_length {weight : α → Nat} (each : ∀ slot ∈ slots, weight slot ≤ 1) :
    total weight slots ≤ slots.length := by
  induction slots with
  | nil => exact Nat.le_refl 0
  | cons slot slots ih =>
      rw [List.forall_mem_cons] at each
      rw [total_cons, List.length_cons, Nat.add_comm]
      exact Nat.add_le_add (ih each.2) each.1

/-- A property of all tasks after one of them went on. -/
theorem forall_mem_set {P : α → Prop} (each : ∀ slot ∈ slots, P slot) {new : α} (here : P new) :
    ∀ slot ∈ slots.set place new, P slot := by
  intro slot mem
  rcases List.mem_or_eq_of_mem_set mem with old | rfl
  · exact each slot old
  · exact here

theorem forall_mem_eraseIdx {P : α → Prop} (each : ∀ slot ∈ slots, P slot) :
    ∀ slot ∈ slots.eraseIdx place, P slot :=
  fun slot mem => each slot (List.mem_of_mem_eraseIdx mem)

end DnsHijacker.Library
