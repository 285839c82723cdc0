import DnsHijacker.Library.Lru
import DnsHijacker.Shared.CacheKey

/-!
# The response cache

Replies are kept under their key with an expiry time, in a least-recently-used
map.  Times and durations are in nanoseconds on the clock of
`std::time::Instant`.  Nothing panics while the map's lock is held, so the lock
is never poisoned.
-/

namespace DnsHijacker.Shared

open DnsHijacker.Rust
open DnsHijacker.Library
open DnsHijacker.Shared.Dns

/-- `CacheEntry` -/
structure CacheEntry where
  packet : Bytes
  expiresAt : Nat
  deriving DecidableEq, Repr

abbrev ResponseCache := Lru CacheKey CacheEntry

/-- One second. -/
def second : Nat :=
  1000000000

/-- `CACHE_CAPACITY` -/
def cacheCapacity : Nat :=
  4096

/-- `CACHE_TTL_MIN` -/
def cacheTtlMin : Nat :=
  5 * second

/-- `CACHE_TTL_MAX` -/
def cacheTtlMax : Nat :=
  300 * second

/-- `CACHE_TTL_FALLBACK` -/
def cacheTtlFallback : Nat :=
  60 * second

/-- `new_cache` -/
def newCache : ResponseCache :=
  Lru.empty cacheCapacity (by decide)

/-- `clamp_cache_ttl` -/
def clampCacheTtl (ttlSecs : UInt32) : Nat :=
  let ttl := ttlSecs.toNat * second
  if ttl < cacheTtlMin then cacheTtlMin
  else if ttl > cacheTtlMax then cacheTtlMax
  else ttl

/-- `cache_lookup` at a time; an expired entry is removed. -/
def cacheLookup (cache : ResponseCache) (key : CacheKey) (now : Nat) :
    Option Bytes × ResponseCache :=
  match cache.get key with
  | (none, cache) => (none, cache)
  | (some entry, cache) =>
      if now ≥ entry.expiresAt then (none, cache.pop key) else (some entry.packet, cache)

/-- The time a packet is kept. -/
def packetTtl (ucd : UnicodeData) (packet : Bytes) : Exec Nat := do
  match ← minAnswerTtl ucd packet with
  | some ttl => return clampCacheTtl ttl
  | none => return cacheTtlFallback

/-- `cache_store` at a time; the transaction ID is not kept. -/
def cacheStore (ucd : UnicodeData) (cache : ResponseCache) (key : CacheKey) (packet : Bytes)
    (now : Nat) : Exec ResponseCache := do
  let ttl ← packetTtl ucd packet
  return cache.put key { packet := withTxid packet 0 0, expiresAt := now + ttl }

variable {ucd : UnicodeData}

/-! ## What the operations do to the entries -/

/-- A lookup removes the entry of its key if that has expired, and no other entry. -/
theorem mem_cacheLookup_iff {cache : ResponseCache} {key : CacheKey} {now : Nat}
    {entry : CacheKey × CacheEntry} :
    entry ∈ (cacheLookup cache key now).2.entries ↔
      entry ∈ cache.entries ∧ ¬ (entry.1 = key ∧ entry.2.expiresAt ≤ now) := by
  have found := cache.get_fst key
  have kept : entry ∈ (cache.get key).2.entries ↔ entry ∈ cache.entries := Lru.mem_get_iff
  rw [cacheLookup]
  rcases got : cache.get key with ⟨value, after⟩
  rw [got] at found kept
  cases value with
  | none =>
      have absent := Lru.lookup_eq_none_iff.mp found.symm
      dsimp only at kept ⊢
      rw [kept]
      exact ⟨fun mem => ⟨mem, fun expired => absent entry mem expired.1⟩, And.left⟩
  | some value =>
      have only : entry ∈ cache.entries → entry.1 = key → entry.2 = value :=
        fun mem same => congrArg Prod.snd (Lru.eq_of_lookup found.symm mem same)
      dsimp only at kept ⊢
      split
      · rename_i expired
        rw [Lru.mem_pop, kept]
        refine and_congr_right fun mem => not_congr ⟨fun same => ⟨same, ?_⟩, And.left⟩
        rwa [only mem same]
      · rename_i live
        rw [kept]
        refine ⟨fun mem => ⟨mem, ?_⟩, And.left⟩
        rintro ⟨same, expired⟩
        rw [only mem same] at expired
        exact live expired

/-- A lookup adds no entry. -/
theorem mem_cacheLookup {cache : ResponseCache} {key : CacheKey} {now : Nat}
    {entry : CacheKey × CacheEntry} (mem : entry ∈ (cacheLookup cache key now).2.entries) :
    entry ∈ cache.entries :=
  (mem_cacheLookup_iff.mp mem).1

/-- A hit returns the packet of an entry under the key. -/
theorem mem_of_cacheLookup {cache : ResponseCache} {key : CacheKey} {now : Nat} {packet : Bytes}
    (hit : (cacheLookup cache key now).1 = some packet) :
    ∃ entry, (key, entry) ∈ cache.entries ∧ entry.packet = packet ∧ now < entry.expiresAt := by
  have found := cache.get_fst key
  rw [cacheLookup] at hit
  rcases got : cache.get key with ⟨value, after⟩
  rw [got] at hit found
  cases value with
  | none => contradiction
  | some entry =>
      dsimp only at hit
      split at hit
      · contradiction
      · next live =>
          exact ⟨entry, Lru.lookup_eq_some_mem found.symm, Option.some.inj hit,
            Nat.lt_of_not_le live⟩

/-- A store adds the packet without its transaction ID, in place of the entry of
its key, and nothing else. -/
theorem mem_cacheStore {cache after : ResponseCache} {key : CacheKey} {packet : Bytes} {now : Nat}
    (stored : cacheStore ucd cache key packet now = .ok after) {entry : CacheKey × CacheEntry}
    (mem : entry ∈ after.entries) :
    (∃ ttl, packetTtl ucd packet = .ok ttl ∧ entry = (key, ⟨withTxid packet 0 0, now + ttl⟩)) ∨
      entry ∈ cache.entries ∧ entry.1 ≠ key := by
  rw [cacheStore, bind_eq_ok] at stored
  rcases stored with ⟨ttl, lifetime, same⟩
  cases same
  rcases Lru.mem_put mem with rfl | old
  · exact .inl ⟨ttl, lifetime, rfl⟩
  · exact .inr old

/-- A stored packet is found for as long as its lifetime says. -/
theorem cacheLookup_cacheStore {cache after : ResponseCache} {key : CacheKey} {packet : Bytes}
    {now ttl : Nat} (stored : cacheStore ucd cache key packet now = .ok after)
    (lifetime : packetTtl ucd packet = .ok ttl) (later : Nat) :
    (cacheLookup after key later).1 =
      if later < now + ttl then some (withTxid packet 0 0) else none := by
  rw [cacheStore, lifetime] at stored
  cases stored
  have found := (cache.put key ⟨withTxid packet 0 0, now + ttl⟩).get_fst key
  rw [Lru.lookup_put_self] at found
  rw [cacheLookup]
  rcases got : (cache.put key ⟨withTxid packet 0 0, now + ttl⟩).get key with ⟨value, kept⟩
  rw [got] at found
  cases found
  dsimp only
  by_cases live : later < now + ttl
  · rw [if_neg (Nat.not_le.mpr live), if_pos live]
  · rw [if_pos (Nat.le_of_not_lt live), if_neg live]

end DnsHijacker.Shared
