import Mathlib.Data.List.Induction

/-!
# Runs of an executable labelled machine

A machine is a step function `next : σ → α → Option σ`: `next s a = none` says
that the event `a` cannot happen in state `s`.  Every source of nondeterminism
(scheduling, the network, the clock) is part of the event, so a trace
determines the state it leads to and a concrete run can be evaluated.
-/

namespace DnsHijacker.Library

universe u v

variable {σ : Type u} {α : Type v}

/-- The state after all events of a trace, if each of them could happen. -/
def run (next : σ → α → Option σ) : σ → List α → Option σ
  | state, [] => some state
  | state, event :: trace => (next state event).bind (run next · trace)

@[simp]
theorem run_nil (next : σ → α → Option σ) (state : σ) : run next state [] = some state :=
  rfl

theorem run_cons_eq_some_iff {next : σ → α → Option σ} {state final : σ} {event : α}
    {trace : List α} :
    run next state (event :: trace) = some final ↔
      ∃ middle, next state event = some middle ∧ run next middle trace = some final :=
  Option.bind_eq_some_iff

theorem run_append (next : σ → α → Option σ) (state : σ) (first second : List α) :
    run next state (first ++ second) = (run next state first).bind (run next · second) := by
  induction first generalizing state with
  | nil => rfl
  | cons event first ih =>
      simp only [List.cons_append, run, Option.bind_assoc]
      cases next state event with
      | none => rfl
      | some middle => exact ih middle

theorem run_concat_eq_some_iff {next : σ → α → Option σ} {state final : σ} {event : α}
    {trace : List α} :
    run next state (trace ++ [event]) = some final ↔
      ∃ middle, run next state trace = some middle ∧ next middle event = some final := by
  rw [run_append, Option.bind_eq_some_iff]
  refine exists_congr fun middle => and_congr_right fun _ => ?_
  simp [run]

/-- Every event of the trace meets `guard` in the state it happens in. -/
def Along (next : σ → α → Option σ) (guard : σ → α → Prop) : σ → List α → Prop
  | _, [] => True
  | state, event :: trace =>
      guard state event ∧ ∀ middle, next state event = some middle → Along next guard middle trace

@[simp]
theorem along_nil (next : σ → α → Option σ) (guard : σ → α → Prop) (state : σ) :
    Along next guard state [] :=
  trivial

theorem along_cons {next : σ → α → Option σ} {guard : σ → α → Prop} {state : σ} {event : α}
    {trace : List α} :
    Along next guard state (event :: trace) ↔
      guard state event ∧
        ∀ middle, next state event = some middle → Along next guard middle trace :=
  Iff.rfl

/-- Along a concrete trace a decidable guard can be evaluated. -/
instance decidableAlong (next : σ → α → Option σ) (guard : σ → α → Prop)
    [∀ state event, Decidable (guard state event)] :
    ∀ state trace, Decidable (Along next guard state trace)
  | _, [] => .isTrue trivial
  | state, event :: trace =>
      match step : next state event with
      | none =>
          decidable_of_iff (guard state event)
            (by rw [along_cons, step]; exact (and_iff_left fun _ reached => nomatch reached).symm)
      | some middle =>
          have := decidableAlong next guard middle trace
          decidable_of_iff (guard state event ∧ Along next guard middle trace)
            (by rw [along_cons, step]; exact and_congr_right' (by simp))

/-- A step that meets the guard, before a trace whose steps all do. -/
theorem along_of_step {next : σ → α → Option σ} {guard : σ → α → Prop} {state middle : σ}
    {event : α} {trace : List α} (here : guard state event) (step : next state event = some middle)
    (later : Along next guard middle trace) : Along next guard state (event :: trace) := by
  constructor
  · exact here
  · intro other otherStep
    rw [step] at otherStep
    cases otherStep
    exact later

theorem along_append {next : σ → α → Option σ} {guard : σ → α → Prop} {state : σ}
    {first second : List α} :
    Along next guard state (first ++ second) ↔
      Along next guard state first ∧
        ∀ middle, run next state first = some middle → Along next guard middle second := by
  induction first generalizing state with
  | nil => simp
  | cons event first ih =>
      simp only [List.cons_append, along_cons, run_cons_eq_some_iff, ih, and_assoc]
      refine and_congr_right fun _ => ⟨fun rest => ?_, ?_⟩
      · exact ⟨fun middle step => (rest middle step).1,
          fun last ⟨middle, step, ran⟩ => (rest middle step).2 last ran⟩
      · rintro ⟨here, later⟩ middle step
        exact ⟨here middle step, fun last ran => later last ⟨middle, step, ran⟩⟩

theorem along_concat {next : σ → α → Option σ} {guard : σ → α → Prop} {state : σ} {trace : List α}
    {event : α} :
    Along next guard state (trace ++ [event]) ↔
      Along next guard state trace ∧
        ∀ middle, run next state trace = some middle → guard middle event := by
  rw [along_append]
  apply and_congr_right
  intro _
  constructor
  · intro last middle ran
    exact (last middle ran).1
  · intro last middle ran
    exact ⟨last middle ran, fun _ _ => trivial⟩

theorem along_and {next : σ → α → Option σ} {guard other : σ → α → Prop} {state : σ}
    {trace : List α} :
    Along next (fun state event => guard state event ∧ other state event) state trace ↔
      Along next guard state trace ∧ Along next other state trace := by
  induction trace generalizing state with
  | nil => simp
  | cons event trace ih =>
      simp only [along_cons, ih, forall_and]
      exact and_and_and_comm

/-- An invariant that may also speak of the events so far: it holds at the start
and each step that meets the guard extends it. -/
theorem run_history_invariant {next : σ → α → Option σ} {guard : σ → α → Prop}
    {I : List α → σ → Prop} {start : σ} (init : I [] start)
    (preserved : ∀ trace state event after, I trace state → guard state event →
      next state event = some after → I (trace ++ [event]) after)
    {trace : List α} {final : σ} (along : Along next guard start trace)
    (ran : run next start trace = some final) : I trace final := by
  induction trace using List.reverseRecOn generalizing final with
  | nil =>
      cases ran
      exact init
  | append_singleton trace event ih =>
      obtain ⟨middle, before, step⟩ := run_concat_eq_some_iff.mp ran
      obtain ⟨alongBefore, alongLast⟩ := along_concat.mp along
      exact preserved trace middle event final (ih alongBefore before)
        (alongLast middle before) step

/-- An invariant kept by every step that meets the guard holds after every run
whose steps all meet it. -/
theorem run_invariant_along {next : σ → α → Option σ} {guard : σ → α → Prop} {I : σ → Prop}
    {start : σ} (init : I start)
    (preserved : ∀ state event after, I state → guard state event →
      next state event = some after → I after)
    {trace : List α} {final : σ} (along : Along next guard start trace)
    (ran : run next start trace = some final) : I final :=
  run_history_invariant (I := fun _ state => I state) init
    (fun _ => preserved) along ran

theorem along_true (next : σ → α → Option σ) (state : σ) (trace : List α) :
    Along next (fun _ _ => True) state trace := by
  induction trace generalizing state with
  | nil => trivial
  | cons event trace ih => exact ⟨trivial, fun middle _ => ih middle⟩

/-- An invariant kept by every step holds after every run. -/
theorem run_invariant {next : σ → α → Option σ} {I : σ → Prop} {start : σ} (init : I start)
    (preserved : ∀ state event after, I state → next state event = some after → I after)
    {trace : List α} {final : σ} (ran : run next start trace = some final) : I final :=
  run_invariant_along init (fun state event after inv _ => preserved state event after inv)
    (along_true next start trace) ran

/-- Two guards that an invariant makes the same are met along the same runs. -/
theorem along_congr {next : σ → α → Option σ} {guard other : σ → α → Prop} {I : σ → Prop}
    {start : σ} (init : I start)
    (preserved : ∀ state event after, I state → next state event = some after → I after)
    (same : ∀ state event, I state → (guard state event ↔ other state event)) (trace : List α) :
    Along next guard start trace ↔ Along next other start trace := by
  induction trace generalizing start with
  | nil => simp
  | cons event trace ih =>
      rw [along_cons, along_cons, same start event init]
      apply and_congr_right
      intro _
      constructor
      · intro later middle step
        exact (ih (preserved start event middle init step)).mp (later middle step)
      · intro later middle step
        exact (ih (preserved start event middle init step)).mpr (later middle step)

/-- If, under an invariant and along a run that meets an assumption, a step keeps
a property exactly when it meets the guard, then the run ends with the property
exactly when all its steps meet the guard. -/
theorem along_iff_assuming {next : σ → α → Option σ} {assumed guard : σ → α → Prop}
    {I P : σ → Prop} {start : σ} (init : I start) (initially : P start)
    (preserved : ∀ state event after, I state → assumed state event →
      next state event = some after → I after)
    (exact : ∀ state event after, I state → assumed state event → next state event = some after →
      (P after ↔ P state ∧ guard state event))
    {trace : List α} {final : σ} (along : Along next assumed start trace)
    (ran : run next start trace = some final) :
    P final ↔ Along next guard start trace := by
  induction trace using List.reverseRecOn generalizing final with
  | nil =>
      cases ran
      exact iff_of_true initially trivial
  | append_singleton trace event ih =>
      rcases run_concat_eq_some_iff.mp ran with ⟨middle, before, step⟩
      rcases along_concat.mp along with ⟨alongBefore, alongLast⟩
      have here := alongLast middle before
      rw [exact middle event final (run_invariant_along init preserved alongBefore before) here step,
        ih alongBefore before, along_concat]
      apply and_congr_right
      intro _
      constructor
      · intro last other reached
        rw [before] at reached
        cases reached
        exact last
      · intro last
        exact last middle before

/-- If, under an invariant, a step keeps a property exactly when it meets the
guard, then a run ends with the property exactly when all its steps meet the
guard. -/
theorem along_iff {next : σ → α → Option σ} {guard : σ → α → Prop} {I P : σ → Prop} {start : σ}
    (init : I start) (initially : P start)
    (preserved : ∀ state event after, I state → next state event = some after → I after)
    (exact : ∀ state event after, I state → next state event = some after →
      (P after ↔ P state ∧ guard state event))
    {trace : List α} {final : σ} (ran : run next start trace = some final) :
    P final ↔ Along next guard start trace :=
  along_iff_assuming init initially (fun state event after inv _ => preserved state event after inv)
    (fun state event after inv _ => exact state event after inv) (along_true next start trace) ran

/-- Every state of the run has the property. -/
def Throughout (next : σ → α → Option σ) (P : σ → Prop) : σ → List α → Prop
  | state, [] => P state
  | state, event :: trace =>
      P state ∧ ∀ middle, next state event = some middle → Throughout next P middle trace

/-- The last state of a run is one of its states. -/
theorem Throughout.final {next : σ → α → Option σ} {P : σ → Prop} {start final : σ}
    {trace : List α} (throughout : Throughout next P start trace)
    (ran : run next start trace = some final) : P final := by
  induction trace generalizing start with
  | nil =>
      cases ran
      exact throughout
  | cons event trace ih =>
      rcases run_cons_eq_some_iff.mp ran with ⟨middle, step, rest⟩
      exact ih (throughout.2 middle step) rest

/-- What a property makes each step meet is met along a run whose states all have it. -/
theorem Throughout.along {next : σ → α → Option σ} {guard : σ → α → Prop} {P : σ → Prop}
    (each : ∀ state event after, P state → next state event = some after → guard state event)
    {start final : σ} {trace : List α} (throughout : Throughout next P start trace)
    (ran : run next start trace = some final) : Along next guard start trace := by
  induction trace generalizing start with
  | nil => trivial
  | cons event trace ih =>
      rcases run_cons_eq_some_iff.mp ran with ⟨middle, step, rest⟩
      exact along_of_step (each start event middle throughout.1 step) step
        (ih (throughout.2 middle step) rest)

/-- An assumption about all events of a trace. -/
theorem along_of_forall_mem {next : σ → α → Option σ} {assumed : α → Prop} {trace : List α}
    (each : ∀ event ∈ trace, assumed event) (state : σ) :
    Along next (fun _ event => assumed event) state trace := by
  induction trace generalizing state with
  | nil => trivial
  | cons event trace ih =>
      rw [List.forall_mem_cons] at each
      exact ⟨each.1, fun middle _ => ih each.2 middle⟩

/-- If, under an invariant and along a run that meets an assumption, a step from a
state with a property keeps it exactly when it meets the guard, then all states of
the run have the property exactly when all its steps meet the guard. -/
theorem throughout_iff {next : σ → α → Option σ} {assumed guard : σ → α → Prop} {I P : σ → Prop}
    {start : σ} (init : I start) (initially : P start)
    (preserved : ∀ state event after, I state → assumed state event →
      next state event = some after → I after)
    (exact : ∀ state event after, I state → P state → assumed state event →
      next state event = some after → (P after ↔ guard state event))
    {trace : List α} {final : σ} (along : Along next assumed start trace)
    (ran : run next start trace = some final) :
    Throughout next P start trace ↔ Along next guard start trace := by
  induction trace generalizing start with
  | nil => exact iff_of_true initially trivial
  | cons event trace ih =>
      rcases run_cons_eq_some_iff.mp ran with ⟨middle, step, rest⟩
      have inv := preserved start event middle init along.1 step
      have same := exact start event middle init initially along.1 step
      rw [Throughout, along_cons, and_iff_right initially]
      constructor
      · intro later
        have here : P middle := by
          cases trace with
          | nil => exact later middle step
          | cons event trace => exact (later middle step).1
        refine ⟨same.mp here, fun other reached => ?_⟩
        rw [step] at reached
        cases reached
        exact (ih inv here (along.2 middle step) rest).mp (later middle step)
      · rintro ⟨met, later⟩ other reached
        rw [step] at reached
        cases reached
        exact (ih inv (same.mpr met) (along.2 middle step) rest).mpr (later middle step)

/-- If, under an invariant and along steps that meet a guard, each step that counts leaves less to do
and no other leaves more, then a run has at most as many that count as there is to do. -/
theorem countP_add_le_of_run {next : σ → α → Option σ} {guard : σ → α → Prop} {counts : α → Bool}
    {I : σ → Prop} {work : σ → Nat} {start final : σ} {trace : List α} (init : I start)
    (preserved : ∀ state event after, I state → next state event = some after → I after)
    (less : ∀ state event after, I state → guard state event → next state event = some after →
      work after + (if counts event then 1 else 0) ≤ work state)
    (along : Along next guard start trace) (ran : run next start trace = some final) :
    trace.countP counts + work final ≤ work start := by
  induction trace generalizing start with
  | nil =>
      cases ran
      exact Nat.le_of_eq (Nat.zero_add _)
  | cons event trace ih =>
      obtain ⟨middle, step, rest⟩ := run_cons_eq_some_iff.mp ran
      have first := less start event middle init along.1 step
      have later := ih (preserved start event middle init step) (along.2 middle step) rest
      rw [List.countP_cons]
      omega

/-- If, under an invariant, every step leaves less to do, a run has at most as many steps as there
is to do. -/
theorem length_add_le_of_run {next : σ → α → Option σ} {I : σ → Prop} {work : σ → Nat}
    {start final : σ} {trace : List α} (init : I start)
    (preserved : ∀ state event after, I state → next state event = some after → I after)
    (less : ∀ state event after, I state → next state event = some after →
      work after < work state)
    (ran : run next start trace = some final) : trace.length + work final ≤ work start := by
  have counted : trace.countP (fun _ => true) + work final ≤ work start :=
    countP_add_le_of_run init preserved
      (fun state event after inv _ step => less state event after inv step)
      (along_true next start trace) ran
  rwa [List.countP_true] at counted

end DnsHijacker.Library
