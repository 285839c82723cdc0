import Mathlib.Data.List.Basic

/-!
# Lists that take an element once

An element is put at the end of a list unless it is in it.  What a list of elements leaves
is each of them once, in the order in which they came first.
-/

namespace DnsHijacker.Library

universe u

variable {α : Type u} [DecidableEq α]

/-- The list with the element. -/
def keepNew (kept : List α) (item : α) : List α :=
  if item ∈ kept then kept else kept ++ [item]

/-- The list with all elements. -/
def firstSeen (kept items : List α) : List α :=
  items.foldl keepNew kept

@[simp]
theorem firstSeen_nil (kept : List α) : firstSeen kept [] = kept :=
  rfl

@[simp]
theorem firstSeen_cons (kept : List α) (item : α) (items : List α) :
    firstSeen kept (item :: items) = firstSeen (keepNew kept item) items :=
  rfl

theorem firstSeen_append (kept first second : List α) :
    firstSeen kept (first ++ second) = firstSeen (firstSeen kept first) second :=
  List.foldl_append

@[simp]
theorem mem_keepNew {kept : List α} {item other : α} :
    other ∈ keepNew kept item ↔ other ∈ kept ∨ other = item := by
  rw [keepNew]
  split
  · rename_i known
    constructor
    · exact .inl
    · rintro (mem | rfl)
      · exact mem
      · exact known
  · rw [List.mem_append, List.mem_singleton]

theorem mem_firstSeen {kept items : List α} {other : α} :
    other ∈ firstSeen kept items ↔ other ∈ kept ∨ other ∈ items := by
  induction items generalizing kept with
  | nil => simp
  | cons item items ih => rw [firstSeen_cons, ih, mem_keepNew, List.mem_cons, or_assoc]

theorem nodup_keepNew {kept : List α} (nodup : kept.Nodup) (item : α) :
    (keepNew kept item).Nodup := by
  rw [keepNew]
  split
  · exact nodup
  · rename_i new
    rw [List.nodup_append]
    refine ⟨nodup, List.pairwise_singleton _ _, fun x mem y last => ?_⟩
    rw [List.mem_singleton.mp last]
    exact fun same => new (same ▸ mem)

/-- Every element is there once. -/
theorem nodup_firstSeen {kept : List α} (nodup : kept.Nodup) (items : List α) :
    (firstSeen kept items).Nodup := by
  induction items generalizing kept with
  | nil => exact nodup
  | cons item items ih => exact ih (nodup_keepNew nodup item)

theorem map_keepNew {β : Type u} [DecidableEq β] {f : α → β} (injective : Function.Injective f)
    (kept : List α) (item : α) : (keepNew kept item).map f = keepNew (kept.map f) (f item) := by
  have known : f item ∈ kept.map f ↔ item ∈ kept := List.mem_map_of_injective injective
  by_cases mem : item ∈ kept
  · rw [keepNew, keepNew, if_pos mem, if_pos (known.mpr mem)]
  · rw [keepNew, keepNew, if_neg mem, if_neg (mt known.mp mem), List.map_append, List.map_singleton]

/-- Elements may be renamed before or after. -/
theorem map_firstSeen {β : Type u} [DecidableEq β] {f : α → β} (injective : Function.Injective f)
    (kept items : List α) : (firstSeen kept items).map f = firstSeen (kept.map f) (items.map f) := by
  induction items generalizing kept with
  | nil => rfl
  | cons item items ih =>
      rw [List.map_cons, firstSeen_cons, firstSeen_cons, ih, map_keepNew injective]

/-- The place at which the element comes first. -/
def firstIndex (items : List α) (item : α) : Nat :=
  items.idxOf item

theorem firstIndex_lt {items : List α} {item : α} (mem : item ∈ items) :
    firstIndex items item < items.length :=
  List.idxOf_lt_length_of_mem mem

/-- If the elements come one after the other, the list is in the order of the times at which
they came first. -/
theorem pairwise_firstSeen {time : α → Nat} (start : Nat) {kept items : List α}
    (old : kept.Pairwise fun x y => time x < time y) (before : ∀ x ∈ kept, time x < start)
    (new : ∀ x ∈ items, x ∉ kept → time x = start + firstIndex items x) :
    (firstSeen kept items).Pairwise fun x y => time x < time y := by
  induction items generalizing kept start with
  | nil => exact old
  | cons item items ih =>
      rw [firstSeen_cons]
      have here : item ∉ kept → time item = start := by
        intro absent
        rw [new item List.mem_cons_self absent, firstIndex, List.idxOf_cons_self, Nat.add_zero]
      apply ih (start + 1)
      · rw [keepNew]
        split
        · exact old
        · rename_i absent
          rw [List.pairwise_append]
          refine ⟨old, List.pairwise_singleton _ _, fun x mem y last => ?_⟩
          rw [List.mem_singleton.mp last, here absent]
          exact before x mem
      · intro x mem
        by_cases known : x ∈ kept
        · exact Nat.lt_succ_of_lt (before x known)
        · obtain rfl := (mem_keepNew.mp mem).resolve_left known
          rw [here known]
          exact Nat.lt_succ_self start
      · intro x mem absent
        rw [mem_keepNew, not_or] at absent
        rw [new x (List.mem_cons_of_mem _ mem) absent.1, firstIndex,
          List.idxOf_cons_ne _ (Ne.symm absent.2), firstIndex]
        omega

theorem pairwise_firstIndex (items : List α) :
    (firstSeen [] items).Pairwise fun x y => firstIndex items x < firstIndex items y :=
  pairwise_firstSeen 0 .nil (fun _ mem => nomatch mem)
    fun _ _ _ => (Nat.zero_add _).symm

end DnsHijacker.Library
