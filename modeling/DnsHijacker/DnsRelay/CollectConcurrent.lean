import DnsHijacker.Library.Run
import DnsHijacker.Library.Slots
import DnsHijacker.Rust.Bytes
import Mathlib.Algebra.Order.Group.Multiset
import Mathlib.Tactic.Abel

/-!
# Many tasks, a few at a time

`collect_concurrent` spawns a task for each item and then takes the tasks out of the set as they
finish.  A task waits for a permit of the semaphore before it awaits the future of its item, and
gives the permit back when it is through.  Which task goes on next is up to the scheduler.
-/

namespace DnsHijacker.DnsRelay.CollectConcurrent

open DnsHijacker.Library
open DnsHijacker.Rust

variable {T R : Type}

/-! ## The tasks -/

/-- `Semaphore` -/
structure Semaphore where
  available : Nat
  closed : Bool

namespace Semaphore

/-- `Semaphore::MAX_PERMITS` is `usize::MAX >> 3`. -/
def maxPermits : Nat :=
  (2 ^ 64 - 1) >>> 3

/-- `Semaphore::new` panics if there are too many permits. -/
def new (permits : Nat) : Exec Semaphore :=
  if permits ≤ maxPermits then .ok ⟨permits, false⟩ else .error .panic

end Semaphore

/-- `JoinError`; no task is aborted. -/
inductive JoinError where
  | panic

/-- Where a task of the set is. -/
inductive Phase (T R : Type) where
  | waiting (item : T)
  /-- It holds a permit and awaits the future of its item. -/
  | running (item : T)
  | finished (joined : Except JoinError (Option R))

/-- The items that are not spawned yet, the set of tasks, and what was taken out of it.  The
program does not keep the items whose futures panicked; they are written down here for the
statements below. -/
structure State (T R : Type) where
  items : List T
  sem : Semaphore
  set : List (Phase T R)
  out : List R
  panicked : List T
  result : Option (List R)

/-- `collect_concurrent` when it is called -/
def start (items : List T) (limit : Nat) : Exec (State T R) := do
  let sem ← Semaphore.new (max limit 1)
  return { items, sem, set := [], out := [], panicked := [], result := none }

/-- What happens next, to the task at a place of the set or to the caller. -/
inductive Event where
  | spawn
  | acquire (task : Nat)
  | finish (task : Nat)
  | panic (task : Nat)
  | joinNext (task : Nat)
  | ret
  deriving DecidableEq

/-- What is pushed for a task that is joined. -/
def pushJoined (out : List R) : Except JoinError (Option R) → List R
  | .ok (some value) => out ++ [value]
  | .ok none => out
  | .error _ => out

/-- One event.  The tasks run while the caller still spawns; it joins them once all are spawned. -/
def next (f : T → R) (state : State T R) : Event → Option (State T R)
  | .spawn =>
      match state.items with
      | [] => none
      | item :: items => some { state with items, set := state.set ++ [.waiting item] }
  | .acquire task =>
      match state.set[task]? with
      | some (.waiting item) =>
          if state.sem.closed then
            some { state with set := state.set.set task (.finished (.ok none)) }
          else if state.sem.available = 0 then none
          else
            some { state with
              sem := { state.sem with available := state.sem.available - 1 }
              set := state.set.set task (.running item) }
      | _ => none
  | .finish task =>
      match state.set[task]? with
      | some (.running item) =>
          some { state with
            sem := { state.sem with available := state.sem.available + 1 }
            set := state.set.set task (.finished (.ok (some (f item)))) }
      | _ => none
  | .panic task =>
      match state.set[task]? with
      | some (.running item) =>
          some { state with
            sem := { state.sem with available := state.sem.available + 1 }
            set := state.set.set task (.finished (.error .panic))
            panicked := item :: state.panicked }
      | _ => none
  | .joinNext task =>
      match state.items, state.set[task]? with
      | [], some (.finished joined) =>
          some { state with
            set := state.set.eraseIdx task
            out := pushJoined state.out joined }
      | _, _ => none
  | .ret =>
      match state.items, state.set, state.result with
      | [], [], none => some { state with result := some state.out }
      | _, _, _ => none

/-! ## What a step can do -/

section

variable {f : T → R} {state after : State T R} {task : Nat}

theorem start_eq_ok_iff {items : List T} {limit : Nat} :
    start items limit = .ok state ↔
      limit ≤ Semaphore.maxPermits ∧ state = ⟨items, ⟨max limit 1, false⟩, [], [], [], none⟩ := by
  have small : max limit 1 ≤ Semaphore.maxPermits ↔ limit ≤ Semaphore.maxPermits := by
    rw [Nat.max_le, and_iff_left (by decide)]
  rw [start, Semaphore.new, ← small]
  by_cases enough : max limit 1 ≤ Semaphore.maxPermits
  · rw [if_pos enough, and_iff_right enough]
    exact ⟨fun same => (Except.ok.inj same).symm, fun same => congrArg Except.ok same.symm⟩
  · rw [if_neg enough]
    exact iff_of_false (by rintro ⟨⟩) fun both => enough both.1

theorem next_spawn (step : next f state .spawn = some after) :
    ∃ item items, state.items = item :: items ∧
      after = { state with items, set := state.set ++ [.waiting item] } := by
  cases found : state.items with
  | nil => simp [next, found] at step
  | cons item items => exact ⟨item, items, rfl, by simpa [next, found] using step.symm⟩

theorem next_acquire (opened : state.sem.closed = false)
    (step : next f state (.acquire task) = some after) :
    ∃ item, state.set[task]? = some (.waiting item) ∧ 0 < state.sem.available ∧
      after = { state with
        sem := { state.sem with available := state.sem.available - 1 }
        set := state.set.set task (.running item) } := by
  rw [next] at step
  split at step
  · rename_i item found
    rw [opened] at step
    by_cases none : state.sem.available = 0
    · simp [none] at step
    · exact ⟨item, found, Nat.pos_of_ne_zero none, by simpa [none] using step.symm⟩
  · contradiction

theorem next_finish (step : next f state (.finish task) = some after) :
    ∃ item, state.set[task]? = some (.running item) ∧
      after = { state with
        sem := { state.sem with available := state.sem.available + 1 }
        set := state.set.set task (.finished (.ok (some (f item)))) } := by
  rw [next] at step
  split at step
  · rename_i item found
    exact ⟨item, found, (Option.some.inj step).symm⟩
  · contradiction

theorem next_panic (step : next f state (.panic task) = some after) :
    ∃ item, state.set[task]? = some (.running item) ∧
      after = { state with
        sem := { state.sem with available := state.sem.available + 1 }
        set := state.set.set task (.finished (.error .panic))
        panicked := item :: state.panicked } := by
  rw [next] at step
  split at step
  · rename_i item found
    exact ⟨item, found, (Option.some.inj step).symm⟩
  · contradiction

theorem next_joinNext (step : next f state (.joinNext task) = some after) :
    ∃ joined, state.items = [] ∧ state.set[task]? = some (.finished joined) ∧
      after = { state with
        set := state.set.eraseIdx task
        out := pushJoined state.out joined } := by
  rw [next] at step
  split at step
  · rename_i joined spawned found
    exact ⟨joined, spawned, found, (Option.some.inj step).symm⟩
  · contradiction

theorem next_ret (step : next f state .ret = some after) :
    state.items = [] ∧ state.set = [] ∧ state.result = none ∧
      after = { state with result := some state.out } := by
  rw [next] at step
  split at step
  · rename_i spawned joined running
    exact ⟨spawned, joined, running, (Option.some.inj step).symm⟩
  · contradiction

end

/-! ## Sums over the tasks -/

/-- How many permits a task holds. -/
def Phase.permits : Phase T R → Nat
  | .running _ => 1
  | _ => 0

/-- How many tasks hold a permit and await the future of their item. -/
def inFlight (set : List (Phase T R)) : Nat :=
  total Phase.permits set

/-- How many steps there are to the end of a task, its way out of the set included. -/
def Phase.steps : Phase T R → Nat
  | .waiting _ => 3
  | .running _ => 2
  | .finished _ => 1

/-- The value a task has or will have, unless it panics. -/
def Phase.value (f : T → R) : Phase T R → Multiset R
  | .waiting item => {f item}
  | .running item => {f item}
  | .finished (.ok (some value)) => {value}
  | .finished (.ok none) => 0
  | .finished (.error _) => 0

/-! ## What every schedule keeps -/

variable {f : T → R} {items : List T} {limit : Nat}

/-- The values that were pushed, those that are still to come, and those that a panic took. -/
def State.values (f : T → R) (state : State T R) : Multiset R :=
  (state.out : Multiset R) + total (Phase.value f) state.set + (state.items.map f : Multiset R) +
    (state.panicked.map f : Multiset R)

/-- The permits are with the semaphore or with a task that runs, and no value is lost or there
twice. -/
structure Accounted (f : T → R) (items : List T) (limit : Nat) (state : State T R) : Prop where
  opened : state.sem.closed = false
  permits : state.sem.available + inFlight state.set = max limit 1
  values : state.values f = (items.map f : Multiset R)
  returned : ∀ result, state.result = some result →
    state.items = [] ∧ state.set = [] ∧ result = state.out

theorem accounted_start {begun : State T R} (called : start items limit = .ok begun) :
    Accounted f items limit begun := by
  obtain ⟨_, rfl⟩ := start_eq_ok_iff.mp called
  exact ⟨rfl, rfl, by simp [State.values], by simp⟩

theorem values_pushJoined (f : T → R) (out : List R) (joined : Except JoinError (Option R)) :
    (pushJoined out joined : Multiset R) = out + (Phase.finished joined : Phase T R).value f := by
  rcases joined with _ | _ | value <;> simp [pushJoined, Phase.value, ← Multiset.coe_add]

/-- A task that goes on takes a permit or gives it back. -/
theorem inFlight_set {set : List (Phase T R)} {task : Nat} {old : Phase T R}
    (found : set[task]? = some old) (new : Phase T R) :
    inFlight (set.set task new) + old.permits = inFlight set + new.permits := by
  rw [inFlight, inFlight, total_set _ found, total_of_getElem? _ found]
  omega

/-- While there is a task the call has not returned. -/
theorem Accounted.result_eq_none {state : State T R} {task : Nat} {phase : Phase T R}
    (accounted : Accounted f items limit state) (found : state.set[task]? = some phase) :
    state.result = none := by
  cases ended : state.result with
  | none => rfl
  | some result => simp [(accounted.returned result ended).2.1] at found

theorem Accounted.next {state after : State T R} {event : Event}
    (accounted : Accounted f items limit state) (step : next f state event = some after) :
    Accounted f items limit after := by
  have ⟨opened, permits, values, returned⟩ := accounted
  rw [State.values] at values
  cases event with
  | spawn =>
      obtain ⟨item, later, spawned, rfl⟩ := next_spawn step
      refine ⟨opened, ?_, ?_, ?_⟩
      · simpa [inFlight, total_append, total_cons, Phase.permits] using permits
      · rw [← values, State.values, spawned]
        simp only [total_append, total_cons, total_nil, List.map_cons, Phase.value,
          ← Multiset.cons_coe, ← Multiset.singleton_add]
        abel
      · intro result ended
        have none := (returned result ended).1
        rw [spawned] at none
        contradiction
  | acquire task =>
      obtain ⟨item, found, available, rfl⟩ := next_acquire opened step
      refine ⟨opened, ?_, ?_, ?_⟩
      · have moved := inFlight_set found (.running item)
        simp only [Phase.permits] at moved ⊢
        omega
      · rw [← values, State.values, total_of_getElem? _ found, total_set _ found]
        rfl
      · simp [accounted.result_eq_none found]
  | finish task =>
      obtain ⟨item, found, rfl⟩ := next_finish step
      refine ⟨opened, ?_, ?_, ?_⟩
      · have moved := inFlight_set found (.finished (.ok (some (f item))))
        simp only [Phase.permits] at moved ⊢
        omega
      · rw [← values, State.values, total_of_getElem? _ found, total_set _ found]
        rfl
      · simp [accounted.result_eq_none found]
  | panic task =>
      obtain ⟨item, found, rfl⟩ := next_panic step
      refine ⟨opened, ?_, ?_, ?_⟩
      · have moved := inFlight_set found (.finished (.error .panic))
        simp only [Phase.permits] at moved ⊢
        omega
      · rw [← values, State.values, total_of_getElem? _ found, total_set _ found]
        simp only [List.map_cons, Phase.value, ← Multiset.cons_coe, ← Multiset.singleton_add]
        abel
      · simp [accounted.result_eq_none found]
  | joinNext task =>
      obtain ⟨joined, spawned, found, rfl⟩ := next_joinNext step
      refine ⟨opened, ?_, ?_, ?_⟩
      · rw [inFlight, total_of_getElem? _ found] at permits
        simpa [inFlight, Phase.permits] using permits
      · rw [← values, State.values, total_of_getElem? _ found, values_pushJoined f]
        abel
      · simp [accounted.result_eq_none found]
  | ret =>
      obtain ⟨spawned, joined, running, rfl⟩ := next_ret step
      refine ⟨opened, permits, values, ?_⟩
      rintro result ⟨⟩
      exact ⟨spawned, joined, rfl⟩

theorem accounted_of_run {begun final : State T R} {trace : List Event}
    (called : start items limit = .ok begun) (ran : run (next f) begun trace = some final) :
    Accounted f items limit final :=
  run_invariant (accounted_start called) (fun _ _ _ accounted step => accounted.next step) ran

/-! ## Every schedule comes to an end -/

/-- How many steps there are to the return at most. -/
def State.work (state : State T R) : Nat :=
  4 * state.items.length + total Phase.steps state.set + if state.result.isNone then 1 else 0

theorem work_lt {state after : State T R} {event : Event} (opened : state.sem.closed = false)
    (step : next f state event = some after) : after.work < state.work := by
  cases event with
  | spawn =>
      obtain ⟨item, later, spawned, rfl⟩ := next_spawn step
      simp only [State.work, spawned, List.length_cons, total_append, total_cons, total_nil,
        Phase.steps]
      omega
  | acquire task =>
      obtain ⟨item, found, available, rfl⟩ := next_acquire opened step
      simp only [State.work, total_of_getElem? _ found, total_set _ found, Phase.steps]
      omega
  | finish task =>
      obtain ⟨item, found, rfl⟩ := next_finish step
      simp only [State.work, total_of_getElem? _ found, total_set _ found, Phase.steps]
      omega
  | panic task =>
      obtain ⟨item, found, rfl⟩ := next_panic step
      simp only [State.work, total_of_getElem? _ found, total_set _ found, Phase.steps]
      omega
  | joinNext task =>
      obtain ⟨joined, spawned, found, rfl⟩ := next_joinNext step
      simp only [State.work, total_of_getElem? _ found, Phase.steps]
      omega
  | ret =>
      obtain ⟨spawned, joined, running, rfl⟩ := next_ret step
      simp [State.work, running]

/-- A permit that is taken is with a task that can finish. -/
theorem exists_running {set : List (Phase T R)} (taken : 0 < inFlight set) :
    ∃ (task : Nat) (item : T), set[task]? = some (.running item) := by
  obtain ⟨permits, mem, positive⟩ := List.exists_mem_ne_zero_of_sum_ne_zero (Nat.ne_of_gt taken)
  obtain ⟨phase, phaseMem, rfl⟩ := List.mem_map.mp mem
  obtain ⟨task, found⟩ := List.mem_iff_getElem?.mp phaseMem
  cases phase with
  | running item => exact ⟨task, item, found⟩
  | waiting item => contradiction
  | finished joined => contradiction

/-- Until the call returns something can happen that is no panic. -/
theorem exists_next {state : State T R} (accounted : Accounted f items limit state)
    (running : state.result = none) :
    ∃ event, (∀ task, event ≠ .panic task) ∧ (next f state event).isSome := by
  have permits := accounted.permits
  cases spawned : state.items with
  | cons item later => exact ⟨.spawn, by simp, by simp [next, spawned]⟩
  | nil =>
      cases tasks : state.set with
      | nil => exact ⟨.ret, by simp, by simp [next, spawned, tasks, running]⟩
      | cons phase set =>
          have found : state.set[0]? = some phase := by rw [tasks]; rfl
          cases phase with
          | running item => exact ⟨.finish 0, by simp, by simp [next, found]⟩
          | finished joined => exact ⟨.joinNext 0, by simp, by simp [next, spawned, found]⟩
          | waiting item =>
              by_cases available : state.sem.available = 0
              · obtain ⟨task, other, foundOther⟩ := exists_running (by omega : 0 < inFlight state.set)
                exact ⟨.finish task, by simp, by simp [next, foundOther]⟩
              · exact ⟨.acquire 0, by simp, by simp [next, found, accounted.opened, available]⟩

theorem panicked_of_next {state after : State T R} {event : Event}
    (opened : state.sem.closed = false) (calm : ∀ task, event ≠ .panic task)
    (step : next f state event = some after) : after.panicked = state.panicked := by
  cases event with
  | spawn =>
      obtain ⟨_, _, _, rfl⟩ := next_spawn step
      rfl
  | acquire task =>
      obtain ⟨_, _, _, rfl⟩ := next_acquire opened step
      rfl
  | finish task =>
      obtain ⟨_, _, rfl⟩ := next_finish step
      rfl
  | panic task => exact absurd rfl (calm task)
  | joinNext task =>
      obtain ⟨_, _, _, rfl⟩ := next_joinNext step
      rfl
  | ret =>
      obtain ⟨_, _, _, rfl⟩ := next_ret step
      rfl

section

variable {begun final : State T R} {trace : List Event}

theorem panicked_of_run (called : start items limit = .ok begun) (calm : ∀ task, .panic task ∉ trace)
    (ran : run (next f) begun trace = some final) : final.panicked = [] := by
  have along : Along (next f) (fun _ event => ∀ task, event ≠ .panic task) begun trace := by
    apply along_of_forall_mem
    rintro event mem task rfl
    exact calm task mem
  have init : Accounted f items limit begun ∧ begun.panicked = [] := by
    refine ⟨accounted_start called, ?_⟩
    obtain ⟨_, rfl⟩ := start_eq_ok_iff.mp called
    rfl
  refine (run_invariant_along (I := fun state => Accounted f items limit state ∧ state.panicked = [])
    init ?_ along ran).2
  rintro state event after ⟨accounted, none⟩ harmless step
  exact ⟨accounted.next step, (panicked_of_next accounted.opened harmless step).trans none⟩

/-- What was pushed when the call returns, and what the panics took. -/
theorem perm_of_returned {out : List R} (called : start items limit = .ok begun)
    (ran : run (next f) begun trace = some final) (returned : final.result = some out) :
    (out ++ final.panicked.map f).Perm (items.map f) := by
  have accounted := accounted_of_run called ran
  obtain ⟨spawned, joined, rfl⟩ := accounted.returned out returned
  have values := accounted.values
  rw [State.values, spawned, joined] at values
  rw [← Multiset.coe_eq_coe, ← values, ← Multiset.coe_add]
  simp

theorem length_le_of_run (called : start items limit = .ok begun)
    (ran : run (next f) begun trace = some final) : trace.length ≤ 4 * items.length + 1 := by
  have steps := length_add_le_of_run (accounted_start (f := f) called)
    (fun _ _ _ accounted step => accounted.next step)
    (fun _ _ _ accounted step => work_lt accounted.opened step) ran
  obtain ⟨_, rfl⟩ := start_eq_ok_iff.mp called
  have work : (⟨items, ⟨max limit 1, false⟩, [], [], [], none⟩ : State T R).work =
      4 * items.length + 1 := rfl
  omega

end

/-! ## Every schedule -/

/-- The call starts its tasks.  Then, whatever the schedule is, no more futures run than `limit`
allows, and it comes to an end.  Each item has its value in the result once, if no future panics. -/
def CollectsAll (f : T → R) (items : List T) (limit : Nat) : Prop :=
  ∃ begun : State T R, start items limit = .ok begun ∧
    ∀ trace final, run (next f) begun trace = some final →
      inFlight final.set ≤ max limit 1 ∧
      (∀ out, final.result = some out → (∀ task, .panic task ∉ trace) → out.Perm (items.map f)) ∧
      trace.length ≤ 4 * items.length + 1 ∧
      ((∀ event, (∀ task, event ≠ .panic task) → next f final event = none) →
        ∃ out, final.result = some out)

/-- A call does all this for every limit that `Semaphore::new` accepts. -/
theorem collectsAll_iff (f : T → R) (items : List T) (limit : Nat) :
    CollectsAll f items limit ↔ limit ≤ Semaphore.maxPermits := by
  constructor
  · rintro ⟨begun, called, _⟩
    exact (start_eq_ok_iff.mp called).1
  · intro small
    have called : start items limit = .ok (_ : State T R) := start_eq_ok_iff.mpr ⟨small, rfl⟩
    refine ⟨_, called, fun trace final ran => ?_⟩
    have accounted := accounted_of_run called ran
    refine ⟨?_, ?_, length_le_of_run called ran, ?_⟩
    · rw [← accounted.permits]
      exact Nat.le_add_left _ _
    · intro out returned calm
      have perm := perm_of_returned called ran returned
      rwa [panicked_of_run called calm ran, List.map_nil, List.append_nil] at perm
    · intro stuck
      cases running : final.result with
      | some out => exact ⟨out, rfl⟩
      | none =>
          obtain ⟨event, harmless, possible⟩ := exists_next accounted running
          rw [stuck event harmless] at possible
          contradiction

/-- The largest `usize` as a limit. -/
theorem unlimited_not_collectsAll : ¬ CollectsAll (2 * ·) [1] (2 ^ 64 - 1) := by
  rintro ⟨begun, called, _⟩
  have panics : (start [1] (2 ^ 64 - 1) : Exec (State Nat Nat)) = .error .panic := rfl
  rw [panics] at called
  contradiction

/-- With one permit, the second of two tasks before the first. -/
def secondFirst : List Event :=
  [.spawn, .spawn, .acquire 1, .finish 1, .acquire 0, .joinNext 1, .finish 0, .joinNext 0, .ret]

example : (start [1, 2] 0).toOption.bind (run (next (2 * ·)) · secondFirst) =
    some ⟨[], ⟨1, false⟩, [], [4, 2], [], some [4, 2]⟩ :=
  rfl

end DnsHijacker.DnsRelay.CollectConcurrent
