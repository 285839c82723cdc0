import DnsHijacker.DnsRelay.CollectConcurrent
import DnsHijacker.DnsRelay.Finder

/-!
# The pool from its first check on

`test_resolvers` checks the configured resolvers a hundred at a time and sorts those that answered;
the finder adds what it discovers.  Here both parts are put together: the tasks of the checks under
every schedule, and then every run of the finder.
-/

namespace DnsHijacker.DnsRelay.PoolLife

open DnsHijacker.Rust
open DnsHijacker.Library
open DnsHijacker.Shared

/-! ## The first checks -/

/-- A check of `test_resolvers`: a resolver, and what `measure_latency` returns this time.  The checks
share a socket and take any datagram for their answer, so what a check returns depends on more than its
resolver. -/
structure Check where
  resolver : Text
  measured : Except Error Nat

/-- The future `test_resolvers` makes for a resolver. -/
def Check.outcome (check : Check) : Option Resolver :=
  match check.measured with
  | .ok latency => some (check.resolver, latency)
  | .error _ => none

/-- What `test_resolvers` makes of the collected results. -/
def collected (results : List (Option Resolver)) : Except Error (List Resolver) :=
  testResolvers (results.filterMap id)

variable {checks : List Check}

/-- The resolver has passed a check, which took this long. -/
def Passed (checks : List Check) (resolver : Resolver) : Prop :=
  ⟨resolver.1, .ok resolver.2⟩ ∈ checks

theorem outcome_eq_some_iff {check : Check} {result : Resolver} :
    check.outcome = some result ↔ check = ⟨result.1, .ok result.2⟩ := by
  obtain ⟨resolver, measured⟩ := check
  rw [Check.outcome]
  cases measured with
  | error err => simp
  | ok latency =>
      simp only [Option.some.injEq, Check.mk.injEq, Except.ok.injEq]
      constructor
      · rintro rfl
        exact ⟨rfl, rfl⟩
      · rintro ⟨rfl, rfl⟩
        rfl

theorem mem_outcomes_iff {resolver : Resolver} :
    resolver ∈ checks.filterMap Check.outcome ↔ Passed checks resolver := by
  rw [List.mem_filterMap, Passed]
  simp only [outcome_eq_some_iff, exists_eq_right]

/-- Checks of resolvers that differ have results that differ. -/
theorem addressDistinct_outcomes (distinct : (checks.map Check.resolver).Nodup) :
    AddressDistinct (checks.filterMap Check.outcome) := by
  have sublist : ((checks.filterMap Check.outcome).map Prod.fst).Sublist
      (checks.map Check.resolver) := by
    clear distinct
    induction checks with
    | nil => exact .slnil
    | cons check rest ih =>
        rw [List.map_cons, List.filterMap_cons]
        cases found : check.outcome with
        | none => exact ih.cons check.resolver
        | some result =>
            cases outcome_eq_some_iff.mp found
            exact ih.cons_cons result.1
  exact sublist.nodup distinct

/-- Whatever the schedule was: the pool has exactly the results of the checks that were passed, the
fastest first, and there is none exactly if none was passed. -/
structure Starts (checks : List Check) (tested : Except Error (List Resolver)) : Prop where
  fails : ∀ err, tested = .error err ↔
    err = .noHealthyResolvers ∧ ∀ resolver, ¬ Passed checks resolver
  pool : ∀ pool, tested = .ok pool →
    LatencySorted pool ∧ pool.Perm (checks.filterMap Check.outcome)

theorem starts_of_perm {out : List (Option Resolver)}
    (perm : out.Perm (checks.map Check.outcome)) : Starts checks (collected out) := by
  have healthy := perm.filterMap id
  rw [List.filterMap_map, Function.id_comp] at healthy
  have members : ∀ resolver, resolver ∈ out.filterMap id ↔ Passed checks resolver :=
    fun resolver => healthy.mem_iff.trans mem_outcomes_iff
  constructor
  · intro err
    rw [collected, testResolvers]
    cases results : out.filterMap id with
    | nil =>
        rw [results] at members
        simp only [List.isEmpty_nil, if_true, Except.error.injEq]
        exact ⟨fun same => ⟨same.symm, fun resolver passed =>
          List.not_mem_nil ((members resolver).mpr passed)⟩, fun both => both.1.symm⟩
    | cons first rest =>
        rw [results] at members
        refine iff_of_false (by simp) fun both => ?_
        exact both.2 first ((members first).mp List.mem_cons_self)
  · intro pool tested
    rw [collected] at tested
    rw [eq_of_testResolvers tested]
    exact ⟨sorted_sortByLatency _, (List.mergeSort_perm _ _).trans healthy⟩

/-! ## What the finder adds -/

/-- The finder came upon the resolver in a list, checked it, and merged it into the pool with the time
the check took. -/
def Discovered (trace : List FinderEvent) (resolver : Resolver) : Prop :=
  [.tick, .consider resolver.1, .probe, .passed resolver.1 resolver.2, .merge].Sublist trace

/-- How far the finder has got with a cycle. -/
def Underway (trace : List FinderEvent) : Phase → Prop
  | .idle => True
  | .collecting candidates =>
      [FinderEvent.tick].Sublist trace ∧
        ∀ candidate ∈ candidates, [FinderEvent.tick, .consider candidate].Sublist trace
  | .probing candidates results =>
      (∀ candidate ∈ candidates, [FinderEvent.tick, .consider candidate, .probe].Sublist trace) ∧
        ∀ result ∈ results, [FinderEvent.tick, .consider result.1, .probe,
          .passed result.1 result.2].Sublist trace

structure Traced (pool : List Resolver) (trace : List FinderEvent) (finder : Finder) : Prop where
  underway : Underway trace finder.phase
  healthy : ∀ resolver ∈ finder.healthy, resolver ∈ pool ∨ Discovered trace resolver

theorem sublist_concat {events trace : List FinderEvent} (before : events.Sublist trace)
    (event : FinderEvent) : events.Sublist (trace ++ [event]) :=
  before.trans (List.sublist_append_left trace [event])

theorem concat_sublist {events trace : List FinderEvent} (before : events.Sublist trace)
    (event : FinderEvent) : (events ++ [event]).Sublist (trace ++ [event]) :=
  before.append (List.Sublist.refl [event])

theorem Underway.concat {trace : List FinderEvent} {phase : Phase} (underway : Underway trace phase)
    (event : FinderEvent) : Underway (trace ++ [event]) phase := by
  cases phase with
  | idle => trivial
  | collecting candidates =>
      exact ⟨sublist_concat underway.1 event,
        fun candidate mem => sublist_concat (underway.2 candidate mem) event⟩
  | probing candidates results =>
      exact ⟨fun candidate mem => sublist_concat (underway.1 candidate mem) event,
        fun result mem => sublist_concat (underway.2 result mem) event⟩

theorem Traced.move {pool : List Resolver} {trace : List FinderEvent} {finder after : Finder}
    {event : FinderEvent} (traced : Traced pool trace finder) (moves : Moves finder event after) :
    Traced pool (trace ++ [event]) after := by
  have underway := traced.underway
  have healthy : ∀ resolver ∈ finder.healthy, resolver ∈ pool ∨
      Discovered (trace ++ [event]) resolver := fun resolver mem =>
    (traced.healthy resolver mem).imp_right fun found => sublist_concat found event
  cases moves with
  | wait | busy => exact ⟨underway.concat _, healthy⟩
  | tick =>
      refine ⟨⟨?_, fun candidate mem => absurd mem List.not_mem_nil⟩, healthy⟩
      exact concat_sublist (List.nil_sublist trace) .tick
  | skip collecting =>
      rw [collecting] at underway
      exact ⟨underway.concat _, healthy⟩
  | @consider resolver candidates collecting =>
      rw [collecting] at underway
      refine ⟨⟨sublist_concat underway.1 _, fun candidate mem => ?_⟩, healthy⟩
      rcases List.mem_insert_iff.mp mem with rfl | old
      · exact concat_sublist underway.1 (.consider candidate)
      · exact sublist_concat (underway.2 candidate old) _
  | noCandidate | noResult => exact ⟨trivial, healthy⟩
  | probe collecting =>
      rw [collecting] at underway
      refine ⟨⟨fun candidate mem => ?_, fun result mem => absurd mem List.not_mem_nil⟩, healthy⟩
      exact concat_sublist (underway.2 candidate (List.mem_of_mem_filter mem)) .probe
  | @passed resolver latency candidates results probing mem =>
      rw [probing] at underway
      refine ⟨⟨fun candidate left => ?_, List.forall_mem_cons.mpr ⟨?_, fun result old => ?_⟩⟩, healthy⟩
      · exact sublist_concat (underway.1 candidate (List.mem_of_mem_erase left)) _
      · exact concat_sublist (underway.1 resolver mem) (.passed resolver latency)
      · exact sublist_concat (underway.2 result old) _
  | @failing resolver candidates results probing mem =>
      rw [probing] at underway
      refine ⟨⟨fun candidate left => ?_, fun result old => ?_⟩, healthy⟩
      · exact sublist_concat (underway.1 candidate (List.mem_of_mem_erase left)) _
      · exact sublist_concat (underway.2 result old) _
  | @merge results probing =>
      rw [probing] at underway
      refine ⟨trivial, fun resolver mem => ?_⟩
      rcases mem_mergeDiscoveredIntoHealthy mem with old | new
      · exact healthy resolver old
      · have result : resolver ∈ results := List.mem_mergeSort.mp new
        exact .inr (concat_sublist (underway.2 resolver result) .merge)

theorem traced_of_run {pool : List Resolver} {now : Nat} {trace : List FinderEvent} {finder : Finder}
    (ran : run finderStep (Finder.start pool now) trace = some finder) : Traced pool trace finder :=
  run_history_invariant (I := Traced pool)
    (⟨trivial, fun _ mem => .inl mem⟩ : Traced pool [] (Finder.start pool now))
    (fun _ _ _ _ traced _ stepped => traced.move (moves_of_step stepped))
    (along_true finderStep _ trace) ran

/-! ## The whole life of the pool -/

theorem length_mergeStep {healthy discovered after : List Resolver}
    (merged : mergeStep healthy discovered = some after) :
    after.length ≤ max healthy.length maxHealthyResolvers := by
  rw [mergeStep_eq_some_iff] at merged
  split at merged
  · rw [merged]
    exact Nat.le_max_left _ _
  · rw [merged]
    exact (List.length_take_le _ _).trans (Nat.le_max_right _ _)

theorem length_le_of_merges {pool healthy : List Resolver} {discoveries : List (List Resolver)}
    (ran : run mergeStep pool discoveries = some healthy) :
    healthy.length ≤ max pool.length maxHealthyResolvers :=
  run_invariant (I := fun healthy => healthy.length ≤ max pool.length maxHealthyResolvers)
    (Nat.le_max_left _ _)
    (fun _ _ _ bound merged => (length_mergeStep merged).trans (max_le bound (Nat.le_max_right _ _)))
    ran

theorem nonempty_of_merges {pool healthy : List Resolver} {discoveries : List (List Resolver)}
    (nonempty : pool ≠ []) (ran : run mergeStep pool discoveries = some healthy) : healthy ≠ [] :=
  run_invariant (I := fun healthy => healthy ≠ []) nonempty
    (fun _ _ _ before merged => nonempty_merge before merged) ran

/-- Under every schedule of the first checks, none of which panics, the pool starts with the configured
resolvers that passed, the fastest first, and the start fails exactly if there are none.  From then on,
after every run of the finder, it is not empty, has no address twice if none is configured twice, does
not grow beyond its cap, and each resolver in it has passed a check: the first one, or one in a cycle
that merged it with that time. -/
theorem pool_provenance {checks : List Check}
    {begun final : CollectConcurrent.State Check (Option Resolver)}
    {schedule : List CollectConcurrent.Event} {out : List (Option Resolver)}
    (called : CollectConcurrent.start checks healthCheckConcurrency = .ok begun)
    (ran : run (CollectConcurrent.next Check.outcome) begun schedule = some final)
    (calm : ∀ task, .panic task ∉ schedule) (returned : final.result = some out) :
    Starts checks (collected out) ∧
    ∀ pool, collected out = .ok pool → ∀ now trace finder,
      run finderStep (Finder.start pool now) trace = some finder →
        finder.healthy ≠ [] ∧
        ((checks.map Check.resolver).Nodup → AddressDistinct finder.healthy) ∧
        finder.healthy.length ≤ max pool.length maxHealthyResolvers ∧
        ∀ resolver ∈ finder.healthy, Passed checks resolver ∨ Discovered trace resolver := by
  have perm := CollectConcurrent.perm_of_returned called ran returned
  rw [CollectConcurrent.panicked_of_run called calm ran, List.map_nil, List.append_nil] at perm
  have starts := starts_of_perm perm
  refine ⟨starts, fun pool tested now trace finder searched => ?_⟩
  have results := (starts.pool pool tested).2
  obtain ⟨discoveries, merges, each⟩ := finder_mergedFrom searched
  refine ⟨nonempty_of_merges (nonempty_testResolvers tested) merges, fun distinct => ?_,
    length_le_of_merges merges, fun resolver mem => ?_⟩
  · have passed : AddressDistinct (out.filterMap id) := by
      have outcomes := perm.filterMap id
      rw [List.filterMap_map, Function.id_comp] at outcomes
      exact (outcomes.map Prod.fst).nodup_iff.mpr (addressDistinct_outcomes distinct)
    exact (usable_of_run tested passed (fun discovered mem => (each discovered mem).2) merges).distinct
  · exact ((traced_of_run searched).healthy resolver mem).imp_left fun here =>
      mem_outcomes_iff.mp (results.mem_iff.mp here)

/-- The resolver `a` is checked twice, and passes once. -/
def onePasses : List Check :=
  [⟨['a'], .error .udpTimeout⟩, ⟨['a'], .ok 30⟩]

/-- A cycle finds a resolver that is faster. -/
def oneCycle : List FinderEvent :=
  [.tick, .consider ['a'], .consider ['c'], .probe, .passed ['c'] 20, .merge]

theorem pool_provenance_one : ∃ out pool finder,
    collected out = .ok pool ∧ run finderStep (Finder.start pool 0) oneCycle = some finder ∧
    finder.healthy = [(['c'], 20), (['a'], 30)] ∧
    ∀ resolver ∈ finder.healthy, Passed onePasses resolver ∨ Discovered oneCycle resolver := by
  have called : CollectConcurrent.start onePasses healthCheckConcurrency =
      .ok (⟨onePasses, ⟨100, false⟩, [], [], [], none⟩ :
        CollectConcurrent.State Check (Option Resolver)) := rfl
  have ran : run (CollectConcurrent.next Check.outcome)
      ⟨onePasses, ⟨100, false⟩, [], [], [], none⟩ CollectConcurrent.secondFirst =
        some ⟨[], ⟨100, false⟩, [], [some (['a'], 30), none], [],
          some [some (['a'], 30), none]⟩ := rfl
  have calm : ∀ task, .panic task ∉ CollectConcurrent.secondFirst := by
    simp [CollectConcurrent.secondFirst]
  obtain ⟨_, life⟩ := pool_provenance called ran calm rfl
  have tested : collected [some (['a'], 30), none] = .ok [(['a'], 30)] := by
    rw [collected]
    exact testResolvers_singleton (['a'], 30)
  have searched : (run finderStep (Finder.start [(['a'], 30)] 0) oneCycle).map Finder.healthy =
      some [(['c'], 20), (['a'], 30)] := by decide +kernel
  obtain ⟨finder, here, healthy⟩ := Option.map_eq_some_iff.mp searched
  obtain ⟨_, _, _, origins⟩ := life _ tested 0 oneCycle finder here
  exact ⟨_, _, finder, tested, here, healthy, origins⟩

end DnsHijacker.DnsRelay.PoolLife
