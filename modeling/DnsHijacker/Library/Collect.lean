import Mathlib.Data.List.Forall2

/-!
# Collecting results

A list of items is gone through in order; the outputs are collected, and the first error ends it.
-/

namespace DnsHijacker.Library

variable {α β ε : Type} {f : α → Except ε β} {list : List α}

/-- All items are accepted, and the outputs are theirs, in the same order. -/
theorem mapM_eq_ok_iff {outputs : List β} :
    list.mapM f = .ok outputs ↔ List.Forall₂ (fun item output => f item = .ok output) list outputs := by
  induction list generalizing outputs with
  | nil =>
      rw [List.mapM_nil, List.forall₂_nil_left_iff]
      exact ⟨fun same => (Except.ok.inj same).symm, fun same => congrArg Except.ok same.symm⟩
  | cons item rest ih =>
      rw [List.mapM_cons, List.forall₂_cons_left_iff]
      cases here : f item with
      | error err => simp [bind, Except.bind]
      | ok output =>
          cases later : rest.mapM f with
          | error err =>
              have failed : ∀ outputs, ¬ List.Forall₂ (fun item output => f item = .ok output)
                  rest outputs := fun outputs all => by
                rw [← ih, later] at all
                contradiction
              simp [bind, Except.bind, failed]
          | ok outputs' =>
              simp only [bind, Except.bind, pure, Except.pure, Except.ok.injEq]
              constructor
              · rintro rfl
                exact ⟨output, outputs', rfl, ih.mp later, rfl⟩
              · rintro ⟨_, others, rfl, all, rfl⟩
                rw [← ih, later] at all
                rw [Except.ok.inj all]

/-- The error is that of the first item that is not accepted. -/
theorem mapM_eq_error_iff {err : ε} :
    list.mapM f = .error err ↔
      ∃ before item after, list = before ++ item :: after ∧
        (∀ other ∈ before, ∃ output, f other = .ok output) ∧ f item = .error err := by
  induction list with
  | nil => simp [pure, Except.pure]
  | cons item rest ih =>
      rw [List.mapM_cons]
      cases here : f item with
      | error other =>
          simp only [bind, Except.bind, Except.error.injEq]
          constructor
          · rintro rfl
            exact ⟨[], item, rest, rfl, fun _ mem => absurd mem List.not_mem_nil, here⟩
          · rintro ⟨before, failing, after, split, accepted, failed⟩
            cases before with
            | nil =>
                cases split
                exact Except.error.inj (here.symm.trans failed)
            | cons first before =>
                cases split
                obtain ⟨output, accepted⟩ := accepted item List.mem_cons_self
                cases here.symm.trans accepted
      | ok output =>
          have later : (do let later ← rest.mapM f; pure (output :: later)) = Except.error err ↔
              rest.mapM f = .error err := by
            cases rest.mapM f <;> simp [bind, Except.bind, pure, Except.pure]
          simp only [bind, Except.bind] at later ⊢
          rw [later, ih]
          constructor
          · rintro ⟨before, failing, after, rfl, accepted, failed⟩
            exact ⟨item :: before, failing, after, rfl,
              List.forall_mem_cons.mpr ⟨⟨output, here⟩, accepted⟩, failed⟩
          · rintro ⟨before, failing, after, split, accepted, failed⟩
            cases before with
            | nil =>
                cases split
                cases here.symm.trans failed
            | cons first before =>
                cases split
                exact ⟨before, failing, after, rfl, (List.forall_mem_cons.mp accepted).2, failed⟩

/-- Every output is the one of an item. -/
theorem exists_of_mem_outputs {R : α → β → Prop} {outputs : List β}
    (collected : List.Forall₂ R list outputs) {output : β} (mem : output ∈ outputs) :
    ∃ item ∈ list, R item output := by
  induction collected with
  | nil => exact absurd mem List.not_mem_nil
  | cons here _ ih =>
      rcases List.mem_cons.mp mem with rfl | later
      · exact ⟨_, List.mem_cons_self, here⟩
      · obtain ⟨item, itemMem, related⟩ := ih later
        exact ⟨item, List.mem_cons_of_mem _ itemMem, related⟩

/-- Every item has an output. -/
theorem exists_of_mem_items {R : α → β → Prop} {outputs : List β}
    (collected : List.Forall₂ R list outputs) {item : α} (mem : item ∈ list) :
    ∃ output ∈ outputs, R item output :=
  exists_of_mem_outputs collected.flip mem

end DnsHijacker.Library
