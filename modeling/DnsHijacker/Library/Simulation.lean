import DnsHijacker.Library.Run

/-!
# One machine does what another can do

A relation between the states of two machines is a simulation if every step of
the first is matched by a trace of the second, which may be empty, and the states
after both are related again.  Which traces may stand for an event is part of the
simulation, so the traces of a whole run keep the order of its events.
-/

namespace DnsHijacker.Library

universe u v w x

variable {σ : Type u} {α : Type v} {τ : Type w} {β : Type x}

/-- The traces of the second machine stand for the events of a run of the first, each in the state
its event happens in. -/
inductive Matches (next : σ → α → Option σ) (stands : σ → α → List β → Prop) :
    σ → List α → List (List β) → Prop
  | nil {state : σ} : Matches next stands state [] []
  | cons {state middle : σ} {event : α} {block : List β} {trace : List α} {blocks : List (List β)}
      (here : stands state event block) (step : next state event = some middle)
      (rest : Matches next stands middle trace blocks) :
      Matches next stands state (event :: trace) (block :: blocks)

/-- Every step from related states is matched by a trace that may stand for its event. -/
structure Simulation (next : σ → α → Option σ) (other : τ → β → Option τ)
    (stands : σ → α → List β → Prop) (R : σ → τ → Prop) : Prop where
  step : ∀ {state after : σ} {image : τ} {event : α}, R state image →
    next state event = some after → ∃ block imageAfter, stands state event block ∧
      run other image block = some imageAfter ∧ R after imageAfter

namespace Simulation

variable {next : σ → α → Option σ} {other : τ → β → Option τ} {stands : σ → α → List β → Prop}
  {R : σ → τ → Prop} {start final : σ} {image : τ} {trace : List α}

/-- Every run is matched by a run that takes the events in the same order. -/
theorem exists_run (simulation : Simulation next other stands R) (related : R start image)
    (ran : run next start trace = some final) :
    ∃ blocks imageFinal, Matches next stands start trace blocks ∧
      run other image blocks.flatten = some imageFinal ∧ R final imageFinal := by
  induction trace generalizing start image with
  | nil =>
      cases ran
      exact ⟨[], image, .nil, rfl, related⟩
  | cons event trace ih =>
      obtain ⟨middle, step, rest⟩ := run_cons_eq_some_iff.mp ran
      obtain ⟨block, imageMiddle, here, matched, relatedMiddle⟩ := simulation.step related step
      obtain ⟨blocks, imageFinal, later, ranRest, relatedFinal⟩ := ih relatedMiddle rest
      refine ⟨block :: blocks, imageFinal, .cons here step later, ?_, relatedFinal⟩
      rw [List.flatten_cons, run_append, matched]
      exact ranRest

/-- What every run of the second machine makes true is true of a state that is
related to the state after every run of the first. -/
theorem invariant (simulation : Simulation next other stands R) {I : τ → Prop} (init : I image)
    (preserved : ∀ state event after, I state → other state event = some after → I after)
    (related : R start image) (ran : run next start trace = some final) :
    ∃ imageFinal, R final imageFinal ∧ I imageFinal := by
  obtain ⟨_, imageFinal, _, ranImage, relatedFinal⟩ := simulation.exists_run related ran
  exact ⟨imageFinal, relatedFinal, run_invariant init preserved ranImage⟩

end Simulation

/-- A step that nothing stands for. -/
theorem exists_stutter {other : τ → β → Option τ} {stands : σ → α → List β → Prop}
    {R : σ → τ → Prop} {state after : σ} {image : τ} {event : α}
    (nothing : stands state event []) (related : R after image) :
    ∃ block imageAfter, stands state event block ∧ run other image block = some imageAfter ∧
      R after imageAfter :=
  ⟨[], image, nothing, rfl, related⟩

/-- A step that one step of the other machine stands for. -/
theorem exists_single {other : τ → β → Option τ} {stands : σ → α → List β → Prop}
    {R : σ → τ → Prop} {state after : σ} {image imageAfter : τ} {event : α} {label : β}
    (one : stands state event [label]) (step : other image label = some imageAfter)
    (related : R after imageAfter) :
    ∃ block imageAfter, stands state event block ∧ run other image block = some imageAfter ∧
      R after imageAfter :=
  ⟨[label], imageAfter, one, run_cons_eq_some_iff.mpr ⟨imageAfter, step, rfl⟩, related⟩

end DnsHijacker.Library
