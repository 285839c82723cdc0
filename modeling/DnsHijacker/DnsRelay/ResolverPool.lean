import DnsHijacker.Library.Run
import DnsHijacker.DnsRelay.Resolver

/-!
# The pool of healthy resolvers

The pool starts as the result of `test_resolvers` and changes only when a finder
cycle merges what it has discovered.  A merge puts the new resolvers before the
old ones, whatever their latencies are.
-/

namespace DnsHijacker.DnsRelay

open DnsHijacker.Rust
open DnsHijacker.Library
open DnsHijacker.Shared

/-- A finder cycle merges what it has discovered. -/
def mergeStep (healthy discovered : List Resolver) : Option (List Resolver) :=
  some (mergeDiscoveredIntoHealthy healthy discovered maxHealthyResolvers)

/-- Fastest first. -/
def LatencySorted (resolvers : List Resolver) : Prop :=
  resolvers.Pairwise fun first later => first.2 ≤ later.2

instance (resolvers : List Resolver) : Decidable (LatencySorted resolvers) :=
  inferInstanceAs (Decidable (resolvers.Pairwise fun first later => first.2 ≤ later.2))

/-- No address is listed twice. -/
def AddressDistinct (resolvers : List Resolver) : Prop :=
  (resolvers.map Prod.fst).Nodup

instance (resolvers : List Resolver) : Decidable (AddressDistinct resolvers) :=
  inferInstanceAs (Decidable (resolvers.map Prod.fst).Nodup)

/-- The discovered resolvers that the pool does not have, in their order. -/
def newcomers (healthy discovered : List Resolver) : List Resolver :=
  discovered.filter fun resolver => resolver.1 ∉ healthy.map Prod.fst

variable {healthy discovered : List Resolver}

theorem mem_newcomers {resolver : Resolver} :
    resolver ∈ newcomers healthy discovered ↔
      resolver ∈ discovered ∧ resolver.1 ∉ healthy.map Prod.fst := by
  rw [newcomers, List.mem_filter, decide_eq_true_iff]

theorem newcomers_sublist : (newcomers healthy discovered).Sublist discovered :=
  List.filter_sublist

/-- What a merge does. -/
theorem mergeStep_eq_some_iff {after : List Resolver} :
    mergeStep healthy discovered = some after ↔
      after = if newcomers healthy discovered = [] then healthy
        else (newcomers healthy discovered ++ healthy).take maxHealthyResolvers := by
  rw [mergeStep, mergeDiscoveredIntoHealthy, Option.some.injEq, eq_comm]
  simp only [List.isEmpty_iff]
  rfl

/-! ## What every merge keeps -/

theorem nonempty_testResolvers {results pool : List Resolver}
    (tested : testResolvers results = .ok pool) : pool ≠ [] := by
  have members : ∀ resolver, resolver ∈ pool ↔ resolver ∈ results :=
    fun _ => mem_testResolvers tested
  intro empty
  rw [empty] at members
  have none : results = [] := by
    rw [List.eq_nil_iff_forall_not_mem]
    intro resolver mem
    exact List.not_mem_nil ((members resolver).mpr mem)
  rw [none, testResolvers] at tested
  contradiction

theorem nonempty_merge {after : List Resolver} (nonempty : healthy ≠ [])
    (merged : mergeStep healthy discovered = some after) : after ≠ [] := by
  rw [mergeStep_eq_some_iff] at merged
  split at merged
  · rw [merged]
    exact nonempty
  · subst merged
    intro empty
    rcases List.take_eq_nil_iff.mp empty with zero | nothing
    · contradiction
    · exact nonempty (List.append_eq_nil_iff.mp nothing).2

/-- The pool is not empty and has no address twice. -/
structure Usable (healthy : List Resolver) : Prop where
  nonempty : healthy ≠ []
  distinct : AddressDistinct healthy

/-- The pool of `test_resolvers` has the results of the checks. -/
theorem eq_of_testResolvers {results pool : List Resolver}
    (tested : testResolvers results = .ok pool) : pool = sortByLatency results := by
  rw [testResolvers] at tested
  split at tested
  · contradiction
  · exact (Except.ok.inj tested).symm

theorem sorted_sortByLatency (results : List Resolver) : LatencySorted (sortByLatency results) := by
  have pairwise := @List.pairwise_mergeSort Resolver
    (fun first second => decide (first.2 ≤ second.2))
    (fun _ _ _ first second => decide_eq_true
      ((of_decide_eq_true first).trans (of_decide_eq_true second)))
    (fun first second => by simpa using Nat.le_total first.2 second.2) results
  exact pairwise.imp of_decide_eq_true

theorem addressDistinct_sortByLatency {results : List Resolver}
    (distinct : AddressDistinct results) : AddressDistinct (sortByLatency results) :=
  ((List.mergeSort_perm results _).map Prod.fst).nodup_iff.mpr distinct

theorem usable_testResolvers {results pool : List Resolver}
    (tested : testResolvers results = .ok pool) (distinct : AddressDistinct results) :
    Usable pool where
  nonempty := nonempty_testResolvers tested
  distinct := by
    rw [eq_of_testResolvers tested]
    exact addressDistinct_sortByLatency distinct

/-- The new resolvers and the old ones have different addresses. -/
theorem addressDistinct_append (distinct : AddressDistinct healthy)
    (discoveredDistinct : AddressDistinct discovered) :
    AddressDistinct (newcomers healthy discovered ++ healthy) := by
  rw [AddressDistinct, List.map_append, List.nodup_append']
  refine ⟨(newcomers_sublist.map Prod.fst).nodup discoveredDistinct, distinct, ?_⟩
  intro addr new old
  obtain ⟨resolver, mem, rfl⟩ := List.mem_map.mp new
  exact (mem_newcomers.mp mem).2 old

theorem Usable.merge {after : List Resolver} (usable : Usable healthy)
    (discoveredDistinct : AddressDistinct discovered)
    (merged : mergeStep healthy discovered = some after) : Usable after where
  nonempty := nonempty_merge usable.nonempty merged
  distinct := by
    rw [mergeStep_eq_some_iff] at merged
    split at merged
    · rw [merged]
      exact usable.distinct
    · rw [merged]
      exact ((List.take_sublist _ _).map Prod.fst).nodup
        (addressDistinct_append usable.distinct discoveredDistinct)

/-- The pool after any run of merges is usable. -/
theorem usable_of_run {results start final : List Resolver} {trace : List (List Resolver)}
    (tested : testResolvers results = .ok start) (distinct : AddressDistinct results)
    (discoveries : ∀ discovered ∈ trace, AddressDistinct discovered)
    (ran : run mergeStep start trace = some final) : Usable final := by
  have start := usable_testResolvers tested distinct
  induction trace using List.reverseRecOn generalizing final with
  | nil =>
      cases ran
      exact start
  | append_singleton trace last ih =>
      obtain ⟨middle, before, merged⟩ := run_concat_eq_some_iff.mp ran
      have usable := ih (fun discovered mem => discoveries discovered (List.mem_append_left _ mem))
        before
      exact usable.merge (discoveries last (List.mem_append_right _ List.mem_cons_self)) merged

/-- A pool that is not empty can be picked from. -/
theorem pickDohFirst_returns (nonempty : healthy ≠ []) (preferDoh : Bool) :
    Returns (pickDohFirst preferDoh healthy) := by
  obtain ⟨first, rest, rfl⟩ := List.exists_cons_of_ne_nil nonempty
  rw [pickDohFirst]
  split
  · split
    · exact returns_ok _
    · exact returns_ok _
  · exact returns_ok _

/-- After every run of merges the pool is not empty, so that a resolver can be
picked, and has no address twice.  The next merge changes nothing if it brings no
new address; otherwise the new resolvers come first, in their order, and after
them the pool in its own, up to the cap. -/
theorem pool_merges {results start : List Resolver} (tested : testResolvers results = .ok start)
    (distinct : AddressDistinct results) (trace : List (List Resolver))
    (discoveries : ∀ discovered ∈ trace, AddressDistinct discovered) (final : List Resolver)
    (ran : run mergeStep start trace = some final) :
    final ≠ [] ∧ (∀ preferDoh, Returns (pickDohFirst preferDoh final)) ∧ AddressDistinct final ∧
    ∀ discovered, AddressDistinct discovered → ∃ after, mergeStep final discovered = some after ∧
      ((∀ resolver ∈ discovered, resolver.1 ∈ final.map Prod.fst) → after = final) ∧
      ((∃ resolver ∈ discovered, resolver.1 ∉ final.map Prod.fst) →
        ∃ new : List Resolver, new.Sublist discovered ∧
          (∀ resolver, resolver ∈ new ↔
            resolver ∈ discovered ∧ resolver.1 ∉ final.map Prod.fst) ∧
          after = (new ++ final).take maxHealthyResolvers ∧
          (new.length + final.length ≤ maxHealthyResolvers → after = new ++ final)) := by
  have usable := usable_of_run tested distinct discoveries ran
  refine ⟨usable.nonempty, pickDohFirst_returns usable.nonempty, usable.distinct, ?_⟩
  intro discovered _
  refine ⟨_, mergeStep_eq_some_iff.mpr rfl, ?_, ?_⟩
  · intro known
    have none : newcomers final discovered = [] := by
      rw [List.eq_nil_iff_forall_not_mem]
      intro resolver mem
      obtain ⟨isDiscovered, new⟩ := mem_newcomers.mp mem
      exact new (known resolver isDiscovered)
    rw [if_pos none]
  · rintro ⟨resolver, mem, new⟩
    have some : newcomers final discovered ≠ [] :=
      List.ne_nil_of_mem (mem_newcomers.mpr ⟨mem, new⟩)
    rw [if_neg some]
    refine ⟨newcomers final discovered, newcomers_sublist, fun _ => mem_newcomers, rfl, ?_⟩
    intro fits
    exact List.take_of_length_le (by rwa [List.length_append])

theorem testResolvers_singleton (resolver : Resolver) :
    testResolvers [resolver] = .ok [resolver] := by
  rw [testResolvers, sortByLatency, List.mergeSort_singleton]
  rfl

theorem pool_merges_two : ∃ final,
    run mergeStep [(['a'], 1)] [[(['b'], 2), (['a'], 3)]] = some final ∧
    final = [(['b'], 2), (['a'], 1)] ∧ final ≠ [] ∧ AddressDistinct final ∧
    mergeStep final [(['c'], 3), (['b'], 1)] = some [(['c'], 3), (['b'], 2), (['a'], 1)] := by
  obtain ⟨nonempty, _, distinct, _⟩ := pool_merges (testResolvers_singleton (['a'], 1)) (by decide)
    [[(['b'], 2), (['a'], 3)]] (by decide) _ rfl
  exact ⟨_, rfl, rfl, nonempty, distinct, rfl⟩

/-! ## Whether the fastest is picked -/

/-- The resolver that is picked has the smallest latency of the pool. -/
def PicksFastest (healthy : List Resolver) : Prop :=
  ∃ fastest ∈ healthy, pick healthy = .ok fastest.1 ∧ ∀ resolver ∈ healthy, fastest.2 ≤ resolver.2

/-- No new resolver is slower than an old one, or the new ones fill the pool. -/
def NewcomersFaster (healthy discovered : List Resolver) : Prop :=
  (newcomers healthy discovered).length < maxHealthyResolvers →
    ∀ new ∈ newcomers healthy discovered, ∀ old ∈ healthy, new.2 ≤ old.2

theorem picksFastest_of_sorted (nonempty : healthy ≠ []) (sorted : LatencySorted healthy) :
    PicksFastest healthy := by
  obtain ⟨first, rest, rfl⟩ := List.exists_cons_of_ne_nil nonempty
  refine ⟨first, List.mem_cons_self, rfl, ?_⟩
  intro resolver mem
  rcases List.mem_cons.mp mem with rfl | later
  · exact Nat.le_refl _
  · exact (List.pairwise_cons.mp sorted).1 resolver later

/-- A merge into a sorted pool leaves it sorted exactly if the new resolvers are
not slower. -/
theorem latencySorted_merge_iff {after : List Resolver} (nonempty : healthy ≠ [])
    (sorted : LatencySorted healthy) (discoveredSorted : LatencySorted discovered)
    (merged : mergeStep healthy discovered = some after) :
    LatencySorted after ↔ NewcomersFaster healthy discovered := by
  rw [mergeStep_eq_some_iff] at merged
  have newSorted : LatencySorted (newcomers healthy discovered) :=
    discoveredSorted.sublist newcomers_sublist
  split at merged
  · rename_i none
    rw [merged, NewcomersFaster, none]
    exact iff_of_true sorted fun _ new mem => nomatch mem
  · subst merged
    constructor
    · intro afterSorted room new newMem old oldMem
      -- The first of the pool stays, since there is room after the new ones.
      obtain ⟨first, rest, rfl⟩ := List.exists_cons_of_ne_nil nonempty
      rw [LatencySorted, List.take_append, List.take_of_length_le room.le,
        List.pairwise_append] at afterSorted
      have stays : first ∈ (first :: rest).take
          (maxHealthyResolvers - (newcomers (first :: rest) discovered).length) := by
        obtain ⟨left, more⟩ := Nat.exists_eq_succ_of_ne_zero (Nat.sub_ne_zero_of_lt room)
        rw [more, List.take_succ_cons]
        exact List.mem_cons_self
      have least : first.2 ≤ old.2 := by
        rcases List.mem_cons.mp oldMem with rfl | later
        · exact Nat.le_refl _
        · exact (List.pairwise_cons.mp sorted).1 old later
      exact (afterSorted.2.2 new newMem first stays).trans least
    · intro faster
      by_cases room : (newcomers healthy discovered).length < maxHealthyResolvers
      · apply List.Pairwise.sublist (List.take_sublist _ _)
        exact List.pairwise_append.mpr ⟨newSorted, sorted, faster room⟩
      · rw [List.take_append_of_le_length (Nat.le_of_not_lt room)]
        exact newSorted.sublist (List.take_sublist _ _)

/-- In all states of a run of merges the pool is sorted and the fastest resolver
is picked, exactly if in each merge no new resolver is slower than an old one or
the new ones fill the pool. -/
theorem fastest_picked_iff {results start : List Resolver}
    (tested : testResolvers results = .ok start) (trace : List (List Resolver))
    (discoveries : ∀ discovered ∈ trace, LatencySorted discovered) (final : List Resolver)
    (ran : run mergeStep start trace = some final) :
    Throughout mergeStep (fun healthy => LatencySorted healthy ∧ PicksFastest healthy) start
        trace ↔ Along mergeStep NewcomersFaster start trace := by
  have nonempty := nonempty_testResolvers tested
  have sorted : LatencySorted start := eq_of_testResolvers tested ▸ sorted_sortByLatency results
  apply throughout_iff (I := (· ≠ [])) nonempty _ _ _
    (along_of_forall_mem discoveries start) ran
  · exact ⟨sorted, picksFastest_of_sorted nonempty sorted⟩
  · intro healthy discovered after some _ merged
    exact nonempty_merge some merged
  · rintro healthy discovered after some ⟨healthySorted, _⟩ discoveredSorted merged
    rw [← latencySorted_merge_iff some healthySorted discoveredSorted merged]
    exact and_iff_left_of_imp (picksFastest_of_sorted (nonempty_merge some merged))

theorem fastest_picked_iff_faster :
    Throughout mergeStep (fun healthy => LatencySorted healthy ∧ PicksFastest healthy)
        [(['a'], 2)] [[(['b'], 1)]] ↔
      Along mergeStep NewcomersFaster [(['a'], 2)] [[(['b'], 1)]] :=
  fastest_picked_iff (testResolvers_singleton (['a'], 2)) [[(['b'], 1)]] (by decide) _ rfl

/-- A slower resolver is discovered, and from then on it is picked. -/
theorem slower_picked : ∃ start final,
    testResolvers [(['a'], 10)] = .ok start ∧ LatencySorted [((['b'], 50) : Resolver)] ∧
    run mergeStep start [[(['b'], 50)]] = some final ∧ pick final = .ok ['b'] ∧
    (['a'], 10) ∈ final ∧ ¬ LatencySorted final ∧ ¬ PicksFastest final := by
  refine ⟨_, [(['b'], 50), (['a'], 10)], testResolvers_singleton _, by decide, rfl, rfl, by decide,
    by decide, ?_⟩
  rintro ⟨fastest, mem, picked, least⟩
  have below := least (['a'], 10) (by decide)
  simp only [List.mem_cons, List.not_mem_nil, or_false] at mem
  rcases mem with rfl | rfl
  · contradiction
  · contradiction

end DnsHijacker.DnsRelay
