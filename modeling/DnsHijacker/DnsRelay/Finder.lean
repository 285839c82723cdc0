import DnsHijacker.DnsRelay.ResolverPool

/-!
# The resolver finder

A cycle of `run_resolver_finder` goes through the resolvers of the fetched lists,
leaves out those that are remembered as failed and those of the pool, checks the
others and merges the healthy ones into the pool.  A check that fails is
remembered.  What is remembered is forgotten all at once: by the next check that
fails when the last time this happened is an hour ago.

The results of the checks come in any order; the clock advances at any time.
-/

namespace DnsHijacker.DnsRelay

open DnsHijacker.Rust
open DnsHijacker.Library
open DnsHijacker.Shared

/-! ## Remembering failures -/

/-- `FAILED_RESOLVER_CAP` -/
def failedResolverCap : Nat :=
  4096

/-- `FAILED_RESOLVER_FLUSH_INTERVAL` -/
def failedResolverFlushInterval : Nat :=
  3600 * second

structure FailedResolverSet where
  set : List Text
  flushedAt : Nat
  deriving DecidableEq

namespace FailedResolverSet

/-- `is_failed_resolver` -/
def isFailedResolver (failed : FailedResolverSet) (resolver : Text) : Bool :=
  resolver ∈ failed.set

/-- The set is due to be flushed. -/
def isDue (failed : FailedResolverSet) (now : Nat) : Bool :=
  failedResolverFlushInterval ≤ now - failed.flushedAt

/-- `record_failed_resolver` up to the check of the capacity. -/
def flushIfDue (failed : FailedResolverSet) (now : Nat) : FailedResolverSet :=
  if failed.isDue now then { set := [], flushedAt := now } else failed

def isFull (failed : FailedResolverSet) : Bool :=
  failedResolverCap ≤ failed.set.length

/-- `record_failed_resolver` -/
def recordFailedResolver (failed : FailedResolverSet) (resolver : Text) (now : Nat) :
    FailedResolverSet :=
  let failed := failed.flushIfDue now
  if failed.isFull then failed else { failed with set := failed.set.insert resolver }

end FailedResolverSet

/-! ## The cycle -/

/-- Where the finder is in its loop. -/
inductive Phase where
  /-- It waits for the tick. -/
  | idle
  /-- It goes through the fetched lists. -/
  | collecting (candidates : List Text)
  /-- It waits for the checks of the candidates that are left. -/
  | probing (candidates : List Text) (results : List Resolver)
  deriving DecidableEq

/-- A check that failed; `flushed` and `full` say what became of the set. -/
structure Failure where
  resolver : Text
  time : Nat
  flushed : Bool
  full : Bool
  deriving DecidableEq

structure Finder where
  now : Nat
  /-- `FAILED_RESOLVERS`, once it has been used. -/
  failed : Option FailedResolverSet
  healthy : List Resolver
  isSearching : Bool
  phase : Phase
  /-- All checks that have failed, the latest first. -/
  failures : List Failure
  deriving DecidableEq

/-- The finder as it is spawned. -/
def Finder.start (healthy : List Resolver) (now : Nat) : Finder where
  now := now
  failed := none
  healthy := healthy
  isSearching := false
  phase := .idle
  failures := []

inductive FinderEvent where
  | wait (duration : Nat)
  | tick
  /-- A resolver of a fetched list is looked at. -/
  | consider (resolver : Text)
  /-- The lists are at their end. -/
  | probe
  | passed (resolver : Text) (latency : Nat)
  | failing (resolver : Text)
  /-- All checks are done. -/
  | merge
  deriving DecidableEq

namespace Finder

/-- `FAILED_RESOLVERS` at its next use. -/
def failedSet (finder : Finder) : FailedResolverSet :=
  finder.failed.getD { set := [], flushedAt := finder.now }

/-- The loop body is left; the flag of the search is taken down. -/
def finish (finder : Finder) : Finder :=
  { finder with isSearching := false, phase := .idle }

/-- A check fails: the finder remembers it. -/
def recordFailure (finder : Finder) (resolver : Text) : Finder :=
  let failed := finder.failedSet
  { finder with
    failed := some (failed.recordFailedResolver resolver finder.now)
    failures := {
      resolver
      time := finder.now
      flushed := failed.isDue finder.now
      full := (failed.flushIfDue finder.now).isFull } :: finder.failures }

end Finder

/-- One event of the finder. -/
def finderStep (finder : Finder) : FinderEvent → Option Finder
  | .wait duration => some { finder with now := finder.now + duration }
  | .tick =>
      match finder.phase with
      | .idle =>
          if finder.isSearching then some finder
          else some { finder with isSearching := true, phase := .collecting [] }
      | _ => none
  | .consider resolver =>
      match finder.phase with
      | .collecting candidates =>
          let failed := finder.failedSet
          let candidates :=
            if failed.isFailedResolver resolver then candidates else candidates.insert resolver
          some { finder with failed := some failed, phase := .collecting candidates }
      | _ => none
  | .probe =>
      match finder.phase with
      | .collecting candidates =>
          let candidates := candidates.filter (· ∉ finder.healthy.map Prod.fst)
          if candidates = [] then some finder.finish
          else some { finder with phase := .probing candidates [] }
      | _ => none
  | .passed resolver latency =>
      match finder.phase with
      | .probing candidates results =>
          if resolver ∈ candidates then
            some { finder with
              phase := .probing (candidates.erase resolver) ((resolver, latency) :: results) }
          else none
      | _ => none
  | .failing resolver =>
      match finder.phase with
      | .probing candidates results =>
          if resolver ∈ candidates then
            some { finder.recordFailure resolver with
              phase := .probing (candidates.erase resolver) results }
          else none
      | _ => none
  | .merge =>
      match finder.phase with
      | .probing [] results =>
          if results = [] then some finder.finish
          else
            some { finder with
              healthy := mergeDiscoveredIntoHealthy finder.healthy (sortByLatency results)
                maxHealthyResolvers }.finish
      | _ => none

/-- What the events do. -/
inductive Moves (finder : Finder) : FinderEvent → Finder → Prop
  | wait (duration : Nat) : Moves finder (.wait duration) { finder with now := finder.now + duration }
  | busy (idle : finder.phase = .idle) : Moves finder .tick finder
  | tick (idle : finder.phase = .idle) :
      Moves finder .tick { finder with isSearching := true, phase := .collecting [] }
  | skip {resolver : Text} {candidates : List Text} (collecting : finder.phase = .collecting candidates)
      (isFailed : finder.failedSet.isFailedResolver resolver = true) :
      Moves finder (.consider resolver)
        { finder with failed := some finder.failedSet, phase := .collecting candidates }
  | consider {resolver : Text} {candidates : List Text}
      (collecting : finder.phase = .collecting candidates)
      (isNew : finder.failedSet.isFailedResolver resolver = false) :
      Moves finder (.consider resolver)
        { finder with
          failed := some finder.failedSet
          phase := .collecting (candidates.insert resolver) }
  | noCandidate {candidates : List Text} (collecting : finder.phase = .collecting candidates)
      (known : candidates.filter (· ∉ finder.healthy.map Prod.fst) = []) :
      Moves finder .probe finder.finish
  | probe {candidates : List Text} (collecting : finder.phase = .collecting candidates)
      (some : candidates.filter (· ∉ finder.healthy.map Prod.fst) ≠ []) :
      Moves finder .probe
        { finder with
          phase := .probing (candidates.filter (· ∉ finder.healthy.map Prod.fst)) [] }
  | passed {resolver : Text} {latency : Nat} {candidates : List Text} {results : List Resolver}
      (probing : finder.phase = .probing candidates results) (mem : resolver ∈ candidates) :
      Moves finder (.passed resolver latency)
        { finder with
          phase := .probing (candidates.erase resolver) ((resolver, latency) :: results) }
  | failing {resolver : Text} {candidates : List Text} {results : List Resolver}
      (probing : finder.phase = .probing candidates results) (mem : resolver ∈ candidates) :
      Moves finder (.failing resolver)
        { finder.recordFailure resolver with
          phase := .probing (candidates.erase resolver) results }
  | noResult (probing : finder.phase = .probing [] []) : Moves finder .merge finder.finish
  | merge {results : List Resolver} (probing : finder.phase = .probing [] results)
      (some : results ≠ []) :
      Moves finder .merge
        { finder with
          healthy := mergeDiscoveredIntoHealthy finder.healthy (sortByLatency results)
            maxHealthyResolvers }.finish

theorem moves_of_step {finder after : Finder} {event : FinderEvent}
    (stepped : finderStep finder event = some after) : Moves finder event after := by
  cases event with
  | wait duration =>
      cases stepped
      exact .wait duration
  | tick =>
      rw [finderStep] at stepped
      split at stepped
      · rename_i idle
        split at stepped
        · cases stepped
          exact .busy idle
        · cases stepped
          exact .tick idle
      · contradiction
  | consider resolver =>
      rw [finderStep] at stepped
      split at stepped
      · rename_i candidates collecting
        cases stepped
        cases isFailed : finder.failedSet.isFailedResolver resolver with
        | true => exact .skip collecting isFailed
        | false => exact .consider collecting isFailed
      · contradiction
  | probe =>
      rw [finderStep] at stepped
      split at stepped
      · rename_i candidates collecting
        dsimp only at stepped
        split at stepped
        · rename_i known
          cases stepped
          exact .noCandidate collecting known
        · rename_i some
          cases stepped
          exact .probe collecting some
      · contradiction
  | passed resolver latency =>
      rw [finderStep] at stepped
      split at stepped
      · rename_i candidates results probing
        split at stepped
        · rename_i mem
          cases stepped
          exact .passed probing mem
        · contradiction
      · contradiction
  | failing resolver =>
      rw [finderStep] at stepped
      split at stepped
      · rename_i candidates results probing
        split at stepped
        · rename_i mem
          cases stepped
          exact .failing probing mem
        · contradiction
      · contradiction
  | merge =>
      rw [finderStep] at stepped
      split at stepped
      · rename_i results probing
        split at stepped
        · rename_i none
          cases stepped
          subst none
          exact .noResult probing
        · rename_i some
          cases stepped
          exact .merge probing some
      · contradiction

/-! ## What is remembered -/

/-- The resolver failed a check within the last hour. -/
def FailedLately (finder : Finder) (resolver : Text) : Prop :=
  ∃ failure ∈ finder.failures, failure.resolver = resolver ∧ failure.time ≤ finder.now ∧
    finder.now < failure.time + failedResolverFlushInterval

/-- The failure was put into the set, which has not been flushed since. -/
def Remembered (failures : List Failure) (resolver : Text) : Prop :=
  ∃ newer failure older, failures = newer ++ failure :: older ∧ failure.resolver = resolver ∧
    failure.full = false ∧ ∀ later ∈ newer, later.flushed = false

/-- The set has the failures that were put into it since it was flushed. -/
structure Remembers (finder : Finder) : Prop where
  set : ∀ resolver, resolver ∈ finder.failedSet.set ↔ Remembered finder.failures resolver
  past : ∀ failure ∈ finder.failures, failure.time ≤ finder.now

theorem remembered_cons {failure : Failure} {failures : List Failure} {resolver : Text} :
    Remembered (failure :: failures) resolver ↔
      (failure.resolver = resolver ∧ failure.full = false) ∨
        (failure.flushed = false ∧ Remembered failures resolver) := by
  constructor
  · rintro ⟨newer, found, older, split, same, kept, unflushed⟩
    cases newer with
    | nil =>
        cases split
        exact .inl ⟨same, kept⟩
    | cons first newer =>
        cases split
        rw [List.forall_mem_cons] at unflushed
        exact .inr ⟨unflushed.1, newer, found, older, rfl, same, kept, unflushed.2⟩
  · rintro (⟨same, kept⟩ | ⟨unflushed, newer, found, older, rfl, same, kept, rest⟩)
    · exact ⟨[], failure, failures, rfl, same, kept, by simp⟩
    · exact ⟨failure :: newer, found, older, rfl, same, kept,
        List.forall_mem_cons.mpr ⟨unflushed, rest⟩⟩

/-- What is in the set after a check has failed. -/
theorem mem_recordFailedResolver {failed : FailedResolverSet} {resolver other : Text} {now : Nat} :
    other ∈ (failed.recordFailedResolver resolver now).set ↔
      (resolver = other ∧ (failed.flushIfDue now).isFull = false) ∨
        (failed.isDue now = false ∧ other ∈ failed.set) := by
  rw [FailedResolverSet.recordFailedResolver]
  cases due : failed.isDue now with
  | true =>
      have flushed : failed.flushIfDue now = ⟨[], now⟩ := by
        rw [FailedResolverSet.flushIfDue, due]
        rfl
      have room : (⟨[], now⟩ : FailedResolverSet).isFull = false := rfl
      simp [flushed, room, eq_comm]
  | false =>
      have kept : failed.flushIfDue now = failed := by
        rw [FailedResolverSet.flushIfDue, due]
        rfl
      rw [kept]
      cases failed.isFull with
      | true => simp
      | false => simp [List.mem_insert_iff, eq_comm]

theorem Remembers.recordFailure {finder : Finder} (remembers : Remembers finder)
    (resolver : Text) : Remembers (finder.recordFailure resolver) where
  set other := by
    rw [Finder.recordFailure, remembered_cons, ← remembers.set other]
    exact mem_recordFailedResolver
  past := List.forall_mem_cons.mpr ⟨Nat.le_refl _, remembers.past⟩

/-- A step that records no failure and lets no time go back keeps what is
remembered. -/
theorem Remembers.of_same {finder after : Finder} (remembers : Remembers finder)
    (set : after.failedSet.set = finder.failedSet.set) (failures : after.failures = finder.failures)
    (later : finder.now ≤ after.now) : Remembers after where
  set resolver := by rw [set, failures, remembers.set]
  past := by
    rw [failures]
    exact fun failure mem => (remembers.past failure mem).trans later

theorem Remembers.move {finder after : Finder} {event : FinderEvent}
    (remembers : Remembers finder) (moves : Moves finder event after) : Remembers after := by
  cases moves with
  | wait duration =>
      refine remembers.of_same ?_ rfl (Nat.le_add_right _ _)
      rw [Finder.failedSet, Finder.failedSet]
      cases finder.failed <;> rfl
  | busy idle => exact remembers
  | tick idle => exact remembers.of_same rfl rfl (Nat.le_refl _)
  | skip collecting isFailed => exact remembers.of_same rfl rfl (Nat.le_refl _)
  | consider collecting isNew => exact remembers.of_same rfl rfl (Nat.le_refl _)
  | noCandidate collecting known => exact remembers.of_same rfl rfl (Nat.le_refl _)
  | probe collecting some => exact remembers.of_same rfl rfl (Nat.le_refl _)
  | passed probing mem => exact remembers.of_same rfl rfl (Nat.le_refl _)
  | @failing resolver _ _ probing mem =>
      exact (remembers.recordFailure resolver).of_same rfl rfl (Nat.le_refl _)
  | noResult probing => exact remembers.of_same rfl rfl (Nat.le_refl _)
  | merge probing some => exact remembers.of_same rfl rfl (Nat.le_refl _)

theorem remembers_step (finder : Finder) (event : FinderEvent) (after : Finder)
    (remembers : Remembers finder) (stepped : finderStep finder event = some after) :
    Remembers after :=
  remembers.move (moves_of_step stepped)

/-! ## How long a resolver is left out -/

/-- A resolver that is left out failed a check within the last hour. -/
def SkipsFailedLately (finder : Finder) : FinderEvent → Prop
  | .consider resolver =>
      finder.failedSet.isFailedResolver resolver = true → FailedLately finder resolver
  | _ => True

/-- When a resolver comes up whose checks all failed an hour ago or earlier, each of
them found the set full, or the set was flushed by a later one. -/
def FlushedInTime (finder : Finder) : FinderEvent → Prop
  | .consider resolver =>
      (∀ failure ∈ finder.failures, failure.resolver = resolver →
        failure.time + failedResolverFlushInterval ≤ finder.now) →
      ∀ newer failure older, finder.failures = newer ++ failure :: older →
        failure.resolver = resolver → failure.full = true ∨ ∃ later ∈ newer, later.flushed = true
  | _ => True

theorem not_failedLately_iff {finder : Finder} (remembers : Remembers finder) {resolver : Text} :
    ¬ FailedLately finder resolver ↔
      ∀ failure ∈ finder.failures, failure.resolver = resolver →
        failure.time + failedResolverFlushInterval ≤ finder.now := by
  constructor
  · intro none failure mem same
    by_contra recent
    exact none ⟨failure, mem, same, remembers.past failure mem, Nat.lt_of_not_le recent⟩
  · rintro all ⟨failure, mem, same, _, recent⟩
    exact absurd (all failure mem same) (Nat.not_le.mpr recent)

theorem not_remembered_iff {failures : List Failure} {resolver : Text} :
    ¬ Remembered failures resolver ↔
      ∀ newer failure older, failures = newer ++ failure :: older →
        failure.resolver = resolver →
          failure.full = true ∨ ∃ later ∈ newer, later.flushed = true := by
  constructor
  · intro forgotten newer failure older split same
    by_contra kept
    rw [not_or, Bool.not_eq_true] at kept
    refine forgotten ⟨newer, failure, older, split, same, kept.1, fun later mem => ?_⟩
    rw [← Bool.not_eq_true]
    exact fun flushed => kept.2 ⟨later, mem, flushed⟩
  · rintro all ⟨newer, failure, older, split, same, kept, unflushed⟩
    rcases all newer failure older split same with full | ⟨later, mem, flushed⟩
    · rw [kept] at full
      contradiction
    · rw [unflushed later mem] at flushed
      contradiction

theorem skipsFailedLately_iff {finder : Finder} (remembers : Remembers finder)
    (event : FinderEvent) : SkipsFailedLately finder event ↔ FlushedInTime finder event := by
  cases event with
  | consider resolver =>
      rw [SkipsFailedLately, FlushedInTime, ← not_failedLately_iff remembers, ← not_remembered_iff,
        ← remembers.set, not_imp_not, FailedResolverSet.isFailedResolver, decide_eq_true_iff]
  | wait duration => rfl
  | tick => rfl
  | probe => rfl
  | passed resolver latency => rfl
  | failing resolver => rfl
  | merge => rfl

theorem remembers_start (healthy : List Resolver) (now : Nat) :
    Remembers (Finder.start healthy now) where
  set resolver := by
    constructor
    · intro mem
      contradiction
    · rintro ⟨newer, failure, older, split, _⟩
      cases newer <;> contradiction
  past failure mem := nomatch mem

/-- Along every run each resolver that is left out failed a check within the last
hour, exactly if the set was flushed in time for each resolver that comes up. -/
theorem skipped_failed_lately_iff (healthy : List Resolver) (now : Nat)
    (trace : List FinderEvent) :
    Along finderStep SkipsFailedLately (Finder.start healthy now) trace ↔
      Along finderStep FlushedInTime (Finder.start healthy now) trace :=
  along_congr (remembers_start healthy now) remembers_step
    (fun _ event remembers => skipsFailedLately_iff remembers event) trace

/-- A resolver that does not answer. -/
def unanswering : Text :=
  "192.0.2.1".toList

/-- The first cycle finds one resolver, whose check fails. -/
def failedOnce : List FinderEvent :=
  [.tick, .consider unanswering, .probe, .failing unanswering, .merge]

/-- A resolver that has failed once stays in the set, however much time passes
before another check fails. -/
theorem failed_of_failedOnce (duration : Nat) (long : failedResolverFlushInterval ≤ duration) :
    ∃ finder,
      run finderStep (Finder.start [] 0) (failedOnce ++ [.wait duration, .tick]) = some finder ∧
      finder.failedSet.isFailedResolver unanswering = true ∧ ¬ FailedLately finder unanswering := by
  refine ⟨_, rfl, rfl, ?_⟩
  rintro ⟨failure, mem, _, _, recent⟩
  rw [List.mem_singleton.mp mem] at recent
  exact Nat.not_lt.mpr (Nat.add_le_add_left long 0) recent

/-- A year after its only failed check the resolver is left out. -/
theorem failed_left_out_forever :
    ¬ Along finderStep SkipsFailedLately (Finder.start [] 0)
      (failedOnce ++ [.wait (365 * 24 * 3600 * second), .tick] ++ [.consider unanswering]) := by
  intro along
  obtain ⟨finder, ran, isFailed, notLately⟩ :=
    failed_of_failedOnce (365 * 24 * 3600 * second) (by decide)
  exact notLately (((along_append.mp along).2 finder ran).1 isFailed)

/-! ## The pool of a finder -/

/-- Every candidate is checked once. -/
inductive Apart : Phase → Prop
  | idle : Apart .idle
  | collecting {candidates : List Text} (nodup : candidates.Nodup) : Apart (.collecting candidates)
  | probing {candidates : List Text} {results : List Resolver} (nodup : candidates.Nodup)
      (distinct : AddressDistinct results) (done : ∀ result ∈ results, result.1 ∉ candidates) :
      Apart (.probing candidates results)

theorem Apart.move {finder after : Finder} {event : FinderEvent} (apart : Apart finder.phase)
    (moves : Moves finder event after) : Apart after.phase := by
  cases moves with
  | wait duration => exact apart
  | busy idle => exact apart
  | tick idle => exact .collecting List.nodup_nil
  | skip collecting isFailed =>
      rw [collecting] at apart
      exact apart
  | consider collecting isNew =>
      rw [collecting] at apart
      cases apart with
      | collecting nodup => exact .collecting nodup.insert
  | noCandidate collecting known => exact .idle
  | probe collecting some =>
      rw [collecting] at apart
      cases apart with
      | collecting nodup => exact .probing (nodup.filter _) List.nodup_nil (by simp)
  | @passed resolver latency candidates results probing mem =>
      rw [probing] at apart
      cases apart with
      | probing nodup distinct done =>
          apply Apart.probing (nodup.erase resolver)
          · rw [AddressDistinct, List.map_cons, List.nodup_cons]
            refine ⟨?_, distinct⟩
            intro listed
            obtain ⟨result, resultMem, rfl⟩ := List.mem_map.mp listed
            exact done result resultMem mem
          · rw [List.forall_mem_cons]
            refine ⟨nodup.not_mem_erase, ?_⟩
            intro result resultMem left
            exact done result resultMem (List.mem_of_mem_erase left)
  | @failing resolver candidates results probing mem =>
      rw [probing] at apart
      cases apart with
      | probing nodup distinct done =>
          apply Apart.probing (nodup.erase resolver) distinct
          intro result resultMem left
          exact done result resultMem (List.mem_of_mem_erase left)
  | noResult probing => exact .idle
  | merge probing some => exact .idle

/-- The pool results from merges of sorted discoveries with distinct addresses. -/
def MergedFrom (start healthy : List Resolver) : Prop :=
  ∃ discoveries, run mergeStep start discoveries = some healthy ∧
    ∀ discovered ∈ discoveries, LatencySorted discovered ∧ AddressDistinct discovered

theorem MergedFrom.merge {start healthy results : List Resolver}
    (mergedFrom : MergedFrom start healthy) (distinct : AddressDistinct results) :
    MergedFrom start
      (mergeDiscoveredIntoHealthy healthy (sortByLatency results) maxHealthyResolvers) := by
  rcases mergedFrom with ⟨discoveries, ran, each⟩
  refine ⟨discoveries ++ [sortByLatency results], ?_, ?_⟩
  · exact run_concat_eq_some_iff.mpr ⟨healthy, ran, rfl⟩
  · intro discovered mem
    rcases List.mem_append.mp mem with old | new
    · exact each discovered old
    · rw [List.mem_singleton.mp new]
      exact ⟨sorted_sortByLatency results, addressDistinct_sortByLatency distinct⟩

/-- The finder's pool is that of a run of merges, so all that holds of these runs
holds of it. -/
theorem finder_mergedFrom {start : List Resolver} {now : Nat} {trace : List FinderEvent}
    {finder : Finder} (ran : run finderStep (Finder.start start now) trace = some finder) :
    MergedFrom start finder.healthy := by
  have both : Apart finder.phase ∧ MergedFrom start finder.healthy := by
    apply run_invariant (I := fun finder => Apart finder.phase ∧ MergedFrom start finder.healthy)
      _ _ ran
    · exact ⟨.idle, [], rfl, by simp⟩
    · rintro state event after ⟨apart, mergedFrom⟩ stepped
      have moves := moves_of_step stepped
      refine ⟨apart.move moves, ?_⟩
      cases moves with
      | merge probing some =>
          rw [probing] at apart
          cases apart with
          | probing _ distinct _ => exact mergedFrom.merge distinct
      | wait duration => exact mergedFrom
      | busy idle => exact mergedFrom
      | tick idle => exact mergedFrom
      | skip collecting isFailed => exact mergedFrom
      | consider collecting isNew => exact mergedFrom
      | noCandidate collecting known => exact mergedFrom
      | probe collecting some => exact mergedFrom
      | passed probing mem => exact mergedFrom
      | failing probing mem => exact mergedFrom
      | noResult probing => exact mergedFrom
  exact both.2

/-- A finder that starts with the resolvers that passed their checks always has one
to pick. -/
theorem finder_pick_returns {results start : List Resolver} {now : Nat}
    {trace : List FinderEvent} {finder : Finder} (tested : testResolvers results = .ok start)
    (distinct : AddressDistinct results)
    (ran : run finderStep (Finder.start start now) trace = some finder) (preferDoh : Bool) :
    Returns (pickDohFirst preferDoh finder.healthy) := by
  obtain ⟨discoveries, merges, each⟩ := finder_mergedFrom ran
  have usable := usable_of_run tested distinct (fun discovered mem => (each discovered mem).2)
    merges
  exact pickDohFirst_returns usable.nonempty preferDoh

end DnsHijacker.DnsRelay
