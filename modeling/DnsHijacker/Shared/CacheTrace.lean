import DnsHijacker.Library.Run
import DnsHijacker.Shared.Purge

/-!
# Histories of the cache

Every operation locks the whole cache, so what a program does to it is a
sequence of stores, lookups and purges, each at a time of the clock.  A lookup
finds a packet exactly if the history has a store of it that still counts.
-/

namespace DnsHijacker.Shared

open DnsHijacker.Rust
open DnsHijacker.Library
open DnsHijacker.Shared.Dns

inductive CacheOp where
  | store (key : CacheKey) (packet : Bytes)
  | lookup (key : CacheKey)
  | remove (patterns : List Text)

/-- An operation at a time. -/
structure CacheEvent where
  now : Nat
  op : CacheOp

variable (ucd : UnicodeData)

/-- One operation.  A store whose packet has no computable lifetime does not
come back. -/
def cacheStep (cache : ResponseCache) (event : CacheEvent) : Option ResponseCache :=
  match event.op with
  | .store key packet => (cacheStore ucd cache key packet event.now).toOption
  | .lookup key => some (cacheLookup cache key event.now).2
  | .remove patterns => some (removeDomainsFromCache ucd cache patterns)

variable {ucd}

/-! ## What an operation does to a key -/

/-- The result of a lookup. -/
theorem cacheLookup_fst (cache : ResponseCache) (key : CacheKey) (now : Nat) (packet : Bytes) :
    (cacheLookup cache key now).1 = some packet ↔
      ∃ entry, cache.lookup key = some entry ∧ now < entry.expiresAt ∧ entry.packet = packet := by
  have found := cache.get_fst key
  rw [cacheLookup]
  rcases got : cache.get key with ⟨value, after⟩
  rw [got] at found
  rw [← found]
  cases value with
  | none => simp
  | some entry =>
      dsimp only
      split
      · rename_i expired
        simp [Nat.not_lt.mpr expired]
      · rename_i live
        simp [Nat.lt_of_not_le live]

/-- A lookup of the key after the expiry takes its entry out; nothing else
changes. -/
theorem lookup_cacheLookup (cache : ResponseCache) (read key : CacheKey) (now : Nat) :
    (cacheLookup cache read now).2.lookup key =
      if read = key ∧ ∃ entry, cache.lookup key = some entry ∧ entry.expiresAt ≤ now then none
      else cache.lookup key := by
  have found := cache.get_fst read
  have same := cache.lookup_get read key
  rw [cacheLookup]
  rcases got : cache.get read with ⟨value, after⟩
  rw [got] at found same
  cases value with
  | none =>
      rw [if_neg, same]
      rintro ⟨rfl, entry, here, _⟩
      rw [here] at found
      contradiction
  | some entry =>
      dsimp only at same ⊢
      split
      · rename_i expired
        rw [Lru.lookup_pop, same]
        by_cases this : read = key
        · subst this
          rw [if_pos rfl, if_pos ⟨rfl, entry, found.symm, expired⟩]
        · rw [if_neg this, if_neg (fun both => this both.1)]
      · rename_i live
        rw [same, if_neg]
        rintro ⟨rfl, other, here, expired⟩
        rw [← found] at here
        cases here
        exact live expired

/-- A purge takes out the keys whose names its patterns match. -/
theorem lookup_removeDomainsFromCache (cache : ResponseCache) (patterns : List Text)
    (key : CacheKey) :
    (removeDomainsFromCache ucd cache patterns).lookup key =
      if patterns.any (matchesDomainPattern ucd key.name) then none else cache.lookup key := by
  rw [Lru.lookup, entries_removeDomainsFromCache, List.find?_filter, Lru.lookup]
  split
  · rename_i matched
    rw [Option.map_eq_none_iff, List.find?_eq_none]
    intro entry _
    simp only [Bool.not_eq_true', decide_eq_true_eq, not_and]
    intro unmatched same
    rw [same, matched] at unmatched
    contradiction
  · rename_i unmatched
    congr 2
    funext entry
    by_cases same : entry.1 = key
    · simp [same, unmatched]
    · simp [same]

/-! ## Which stores count -/

/-- The event stores a packet under the key. -/
def Stores (key : CacheKey) (event : CacheEvent) : Prop :=
  ∃ packet, event.op = .store key packet

/-- The event is a purge whose patterns match the name of the key. -/
def Removes (ucd : UnicodeData) (key : CacheKey) (event : CacheEvent) : Prop :=
  ∃ patterns, event.op = .remove patterns ∧ patterns.any (matchesDomainPattern ucd key.name) = true

/-- The event does not push the key out of a full cache. -/
def Spares (key : CacheKey) (cache : ResponseCache) (event : CacheEvent) : Prop :=
  ∀ stored packet, event.op = .store stored packet → ¬ cache.Evicts stored key

/-- The event is no lookup of the key at or after a time. -/
def ReadsBefore (deadline : Nat) (key : CacheKey) (event : CacheEvent) : Prop :=
  event.op = .lookup key → event.now < deadline

theorem put_of_cacheStep {cache after : ResponseCache} {now : Nat} {key : CacheKey} {packet : Bytes}
    (stepped : cacheStep ucd cache ⟨now, .store key packet⟩ = some after) :
    ∃ ttl, packetTtl ucd packet = .ok ttl ∧
      cache.put key ⟨withTxid packet 0 0, now + ttl⟩ = after := by
  simp only [cacheStep, cacheStore] at stepped
  cases lifetime : packetTtl ucd packet with
  | error fault =>
      rw [lifetime] at stepped
      contradiction
  | ok ttl =>
      rw [lifetime] at stepped
      exact ⟨ttl, rfl, Option.some.inj stepped⟩

/-- After an operation a key has an entry if the operation has stored it, or if
there was the entry and the operation has left it. -/
theorem lookup_cacheStep {cache after : ResponseCache} {event : CacheEvent}
    (stepped : cacheStep ucd cache event = some after) (key : CacheKey) (entry : CacheEntry) :
    after.lookup key = some entry ↔
      (∃ packet ttl, event.op = .store key packet ∧ packetTtl ucd packet = .ok ttl ∧
        entry = ⟨withTxid packet 0 0, event.now + ttl⟩) ∨
      (cache.lookup key = some entry ∧ ¬ Stores key event ∧ ¬ Removes ucd key event ∧
        Spares key cache event ∧ ReadsBefore entry.expiresAt key event) := by
  rcases event with ⟨now, op⟩
  cases op with
  | store stored packet =>
      rcases put_of_cacheStep stepped with ⟨ttl, lifetime, rfl⟩
      by_cases same : stored = key
      · subst same
        rw [Lru.lookup_put_self, Option.some.injEq]
        constructor
        · rintro rfl
          exact .inl ⟨packet, ttl, rfl, lifetime, rfl⟩
        · rintro (⟨other, otherTtl, op, otherLifetime, rfl⟩ | ⟨_, notStored, _⟩)
          · cases op
            rw [lifetime] at otherLifetime
            cases otherLifetime
            rfl
          · exact absurd ⟨packet, rfl⟩ notStored
      · have notStored : ¬ Stores key ⟨now, .store stored packet⟩ := by
          rintro ⟨other, op⟩
          cases op
          exact same rfl
        by_cases evicts : cache.Evicts stored key
        · rw [Lru.lookup_put_of_evicts evicts]
          apply iff_of_false (by simp)
          rintro (⟨other, _, op, _⟩ | ⟨_, _, _, spares, _⟩)
          · exact notStored ⟨other, op⟩
          · exact spares stored packet rfl evicts
        · rw [Lru.lookup_put_of_not_evicts same evicts]
          constructor
          · intro found
            refine .inr ⟨found, notStored, ?_, ?_, ?_⟩
            · rintro ⟨patterns, other, _⟩
              contradiction
            · rintro _ _ ⟨⟩
              exact evicts
            · intro other
              contradiction
          · rintro (⟨other, _, op, _⟩ | ⟨found, _⟩)
            · exact absurd ⟨other, op⟩ notStored
            · exact found
  | lookup read =>
      cases stepped
      have others : ¬ Stores key ⟨now, .lookup read⟩ ∧ ¬ Removes ucd key ⟨now, .lookup read⟩ ∧
          Spares key cache ⟨now, .lookup read⟩ := by
        refine ⟨?_, ?_, ?_⟩
        · rintro ⟨packet, op⟩
          contradiction
        · rintro ⟨patterns, op, _⟩
          contradiction
        · intro stored packet op
          contradiction
      rw [lookup_cacheLookup]
      constructor
      · intro found
        split at found
        · contradiction
        · rename_i live
          refine .inr ⟨found, others.1, others.2.1, others.2.2, ?_⟩
          rintro ⟨⟩
          by_contra expired
          exact live ⟨rfl, entry, found, Nat.le_of_not_lt expired⟩
      · rintro (⟨packet, ttl, op, _⟩ | ⟨found, _, _, _, before⟩)
        · contradiction
        · rw [if_neg, found]
          rintro ⟨rfl, other, here, expired⟩
          rw [found] at here
          cases here
          exact absurd (before rfl) (Nat.not_lt.mpr expired)
  | remove patterns =>
      cases stepped
      have others : ¬ Stores key ⟨now, .remove patterns⟩ ∧
          Spares key cache ⟨now, .remove patterns⟩ ∧
          ReadsBefore entry.expiresAt key ⟨now, .remove patterns⟩ := by
        refine ⟨?_, ?_, ?_⟩
        · rintro ⟨packet, op⟩
          contradiction
        · intro stored packet op
          contradiction
        · intro op
          contradiction
      rw [lookup_removeDomainsFromCache]
      constructor
      · intro found
        split at found
        · contradiction
        · rename_i unmatched
          refine .inr ⟨found, others.1, ?_, others.2.1, others.2.2⟩
          rintro ⟨_, ⟨⟩, matched⟩
          exact unmatched matched
      · rintro (⟨packet, ttl, op, _⟩ | ⟨found, _, unremoved, _⟩)
        · contradiction
        · rw [if_neg, found]
          exact fun matched => unremoved ⟨patterns, rfl, matched⟩

/-! ## Histories -/

/-- Nothing after the store of the packet has undone it: no later store of the
key, no purge that matches its name, no eviction. -/
structure StillCounts (ucd : UnicodeData) (key : CacheKey) (before : List CacheEvent)
    (store : CacheEvent) (after : List CacheEvent) : Prop where
  latest : ∀ event ∈ after, ¬ Stores key event
  unremoved : ∀ event ∈ after, ¬ Removes ucd key event
  unevicted : ∀ cache, run (cacheStep ucd) newCache (before ++ [store]) = some cache →
    Along (cacheStep ucd) (Spares key) cache after

theorem stillCounts_nil (key : CacheKey) (before : List CacheEvent) (store : CacheEvent) :
    StillCounts ucd key before store [] where
  latest _ mem := nomatch mem
  unremoved _ mem := nomatch mem
  unevicted _ _ := trivial

/-- A store counts after one more event exactly if it did before and the event
leaves it. -/
theorem stillCounts_concat {key : CacheKey} {before after : List CacheEvent}
    {store event : CacheEvent} {cache : ResponseCache}
    (ran : run (cacheStep ucd) newCache (before ++ store :: after) = some cache) :
    StillCounts ucd key before store (after ++ [event]) ↔
      StillCounts ucd key before store after ∧ ¬ Stores key event ∧ ¬ Removes ucd key event ∧
        Spares key cache event := by
  have split : before ++ store :: after = before ++ [store] ++ after := by simp
  rw [split, run_append, Option.bind_eq_some_iff] at ran
  rcases ran with ⟨stored, ranStored, ranAfter⟩
  constructor
  · intro counts
    have along := along_concat.mp (counts.unevicted stored ranStored)
    refine ⟨⟨?_, ?_, ?_⟩, ?_, ?_, ?_⟩
    · exact fun other mem => counts.latest other (List.mem_append_left _ mem)
    · exact fun other mem => counts.unremoved other (List.mem_append_left _ mem)
    · intro other otherRan
      rw [ranStored] at otherRan
      cases otherRan
      exact along.1
    · exact counts.latest event (List.mem_append_right _ List.mem_cons_self)
    · exact counts.unremoved event (List.mem_append_right _ List.mem_cons_self)
    · exact along.2 cache ranAfter
  · rintro ⟨counts, notStored, notRemoved, spares⟩
    constructor
    · intro other mem
      rcases List.mem_append.mp mem with here | last
      · exact counts.latest other here
      · rw [List.mem_singleton.mp last]
        exact notStored
    · intro other mem
      rcases List.mem_append.mp mem with here | last
      · exact counts.unremoved other here
      · rw [List.mem_singleton.mp last]
        exact notRemoved
    · intro other otherRan
      rw [ranStored] at otherRan
      cases otherRan
      apply along_concat.mpr
      constructor
      · exact counts.unevicted stored ranStored
      · intro last lastRan
        rw [ranAfter] at lastRan
        cases lastRan
        exact spares

/-- The store gives the key its entry, and no lookup since has found it expired. -/
structure Holds (ucd : UnicodeData) (key : CacheKey) (entry : CacheEntry)
    (before : List CacheEvent) (store : CacheEvent) (after : List CacheEvent) : Prop where
  counts : StillCounts ucd key before store after
  stored : ∃ packet ttl, store.op = .store key packet ∧ packetTtl ucd packet = .ok ttl ∧
    entry = ⟨withTxid packet 0 0, store.now + ttl⟩
  unread : ∀ event ∈ after, ReadsBefore entry.expiresAt key event

/-- After a history a key has an entry exactly if one of its stores gives it. -/
theorem lookup_run {trace : List CacheEvent} {cache : ResponseCache}
    (ran : run (cacheStep ucd) newCache trace = some cache) (key : CacheKey) (entry : CacheEntry) :
    cache.lookup key = some entry ↔
      ∃ before store after, trace = before ++ store :: after ∧
        Holds ucd key entry before store after := by
  induction trace using List.reverseRecOn generalizing cache with
  | nil =>
      cases ran
      apply iff_of_false
      · intro found
        contradiction
      · rintro ⟨before, store, after, split, _⟩
        simp at split
  | append_singleton trace event ih =>
      rcases run_concat_eq_some_iff.mp ran with ⟨middle, ranMiddle, stepped⟩
      rw [lookup_cacheStep stepped]
      constructor
      · rintro (stored | ⟨found, notStored, notRemoved, spares, reads⟩)
        · refine ⟨trace, event, [], rfl, stillCounts_nil key trace event, stored, ?_⟩
          exact fun _ mem => nomatch mem
        · rcases (ih ranMiddle).mp found with ⟨before, store, after, rfl, held⟩
          refine ⟨before, store, after ++ [event], by simp, ?_, held.stored, ?_⟩
          · exact (stillCounts_concat ranMiddle).mpr ⟨held.counts, notStored, notRemoved, spares⟩
          · intro other mem
            rcases List.mem_append.mp mem with here | last
            · exact held.unread other here
            · rw [List.mem_singleton.mp last]
              exact reads
      · rintro ⟨before, store, after, split, held⟩
        rcases List.eq_nil_or_concat' after with rfl | ⟨front, last, rfl⟩
        · rcases List.append_inj' split rfl with ⟨_, same⟩
          cases same
          exact .inl held.stored
        · right
          have same : trace ++ [event] = before ++ store :: front ++ [last] := by
            rw [split]
            simp
          rcases List.append_inj' same rfl with ⟨rfl, lastEq⟩
          cases lastEq
          rcases (stillCounts_concat ranMiddle).mp held.counts with
            ⟨counts, notStored, notRemoved, spares⟩
          have found := (ih ranMiddle).mpr ⟨before, store, front, rfl, counts, held.stored,
            fun other mem => held.unread other (List.mem_append_left _ mem)⟩
          exact ⟨found, notStored, notRemoved, spares,
            held.unread event (List.mem_append_right _ List.mem_cons_self)⟩

/-- A lookup after a history finds a packet exactly if the latest store of the
key is neither purged, nor evicted, nor expired; it finds what was stored, with
the transaction ID zeroed, so that an ID put there gives the stored packet under
that ID. -/
theorem cacheLookup_history_iff (ucd : UnicodeData) (trace : List CacheEvent)
    (cache : ResponseCache) (ran : run (cacheStep ucd) newCache trace = some cache) (later : Nat)
    (ordered : (trace.map CacheEvent.now ++ [later]).Pairwise (· ≤ ·)) (key : CacheKey) :
    (∀ packet, (cacheLookup cache key later).1 = some packet ↔
      ∃ before now stored after ttl, trace = before ++ ⟨now, .store key stored⟩ :: after ∧
        StillCounts ucd key before ⟨now, .store key stored⟩ after ∧
        packetTtl ucd stored = .ok ttl ∧ later < now + ttl ∧ packet = withTxid stored 0 0) ∧
    ∀ stored : Bytes, 2 ≤ stored.length →
      withTxid stored 0 0 = 0 :: 0 :: stored.drop 2 ∧
      ∀ first second, withTxid (withTxid stored 0 0) first second =
        first :: second :: stored.drop 2 := by
  constructor
  · intro packet
    rw [cacheLookup_fst]
    constructor
    · rintro ⟨entry, found, live, rfl⟩
      rcases (lookup_run ran key entry).mp found with ⟨before, ⟨now, op⟩, after, split, held⟩
      rcases held.stored with ⟨stored, ttl, rfl, lifetime, rfl⟩
      exact ⟨before, now, stored, after, ttl, split, held.counts, lifetime, live, rfl⟩
    · rintro ⟨before, now, stored, after, ttl, split, counts, lifetime, live, rfl⟩
      refine ⟨⟨withTxid stored 0 0, now + ttl⟩, ?_, live, rfl⟩
      apply (lookup_run ran key _).mpr
      refine ⟨before, ⟨now, .store key stored⟩, after, split, counts,
        ⟨stored, ttl, rfl, lifetime, rfl⟩, ?_⟩
      -- Every earlier lookup happened before the present one.
      intro event mem _
      have inTrace : event ∈ trace := by
        rw [split]
        exact List.mem_append_right _ (List.mem_cons_of_mem _ mem)
      have before := (List.pairwise_append.mp ordered).2.2 event.now
        (List.mem_map_of_mem inTrace) later (List.mem_singleton_self later)
      exact Nat.lt_of_le_of_lt before live
  · intro stored long
    have zeroed := withTxid_eq long 0 0
    refine ⟨zeroed, ?_⟩
    intro first second
    rw [zeroed]
    rfl

/-- Two keys are stored, the first one again, and the name of the second one is purged. -/
def twoKeys : List CacheEvent :=
  [⟨0, .store ⟨['a'], 1⟩ [7, 7, 1]⟩, ⟨1, .store ⟨['b'], 1⟩ [8, 8, 1]⟩,
    ⟨2, .store ⟨['a'], 1⟩ [9, 9, 2]⟩, ⟨3, .remove [['b']]⟩]

theorem cacheLookup_history_store : ∃ cache,
    run (cacheStep .ascii) newCache twoKeys = some cache ∧
    (cacheLookup cache ⟨['a'], 1⟩ 5).1 = some [0, 0, 2] ∧
    (cacheLookup cache ⟨['b'], 1⟩ 5).1 = none := by
  have counts : StillCounts .ascii ⟨['a'], 1⟩ (twoKeys.take 2) ⟨2, .store ⟨['a'], 1⟩ [9, 9, 2]⟩
      [⟨3, .remove [['b']]⟩] := by
    constructor
    · rintro event mem ⟨packet, op⟩
      rw [List.mem_singleton.mp mem] at op
      contradiction
    · rintro event mem ⟨patterns, op, matched⟩
      rw [List.mem_singleton.mp mem] at op
      cases op
      exact absurd matched (by decide)
    · intro cache _
      refine ⟨?_, fun _ _ => trivial⟩
      intro stored packet op
      contradiction
  refine ⟨_, rfl, ?_, rfl⟩
  exact ((cacheLookup_history_iff .ascii twoKeys _ rfl 5 (by decide) ⟨['a'], 1⟩).1 [0, 0, 2]).mpr
    ⟨_, 2, [9, 9, 2], _, cacheTtlFallback, rfl, counts, rfl, by decide, rfl⟩

end DnsHijacker.Shared
