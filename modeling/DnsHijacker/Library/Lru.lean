import Mathlib.Data.List.Nodup

/-!
# Least-recently-used maps

A bounded map that keeps its entries most recently used first.  Reading a key
moves its entry to the front; writing a new key to a full map drops the last
entry.  The bounds and the uniqueness of keys are fields of the structure, so
an over-full map or a map with two entries for a key cannot be built.
-/

namespace DnsHijacker.Library

universe u v

/-- A map of at most `capacity` entries, most recently used first. -/
structure Lru (κ : Type u) (ν : Type v) where
  capacity : Nat
  entries : List (κ × ν)
  capacity_pos : 0 < capacity
  keys_nodup : (entries.map Prod.fst).Nodup
  length_le : entries.length ≤ capacity

namespace Lru

variable {κ : Type u} {ν : Type v}

/-- The empty map of a given positive capacity. -/
def empty (capacity : Nat) (capacity_pos : 0 < capacity) : Lru κ ν where
  capacity := capacity
  entries := []
  capacity_pos := capacity_pos
  keys_nodup := List.nodup_nil
  length_le := Nat.zero_le capacity

@[simp]
theorem entries_empty (capacity : Nat) (capacity_pos : 0 < capacity) :
    (empty capacity capacity_pos : Lru κ ν).entries = [] :=
  rfl

variable [DecidableEq κ]

/-- The entries of all keys but one, in order. -/
def without (entries : List (κ × ν)) (key : κ) : List (κ × ν) :=
  entries.filter fun entry => entry.1 ≠ key

theorem without_sublist (entries : List (κ × ν)) (key : κ) :
    (without entries key).Sublist entries :=
  List.filter_sublist

theorem mem_without {entries : List (κ × ν)} {key : κ} {entry : κ × ν} :
    entry ∈ without entries key ↔ entry ∈ entries ∧ entry.1 ≠ key := by
  simp [without]

theorem nodup_cons_without {entries : List (κ × ν)}
    (nodup : (entries.map Prod.fst).Nodup) (key : κ) (value : ν) :
    (((key, value) :: without entries key).map Prod.fst).Nodup := by
  rw [List.map_cons, List.nodup_cons]
  constructor
  · simp [without]
  · exact nodup.sublist ((without_sublist entries key).map Prod.fst)

/-- The value stored under a key, without counting as a use. -/
def lookup (cache : Lru κ ν) (key : κ) : Option ν :=
  (cache.entries.find? fun entry => entry.1 = key).map Prod.snd

/-- Remove a key. -/
def pop (cache : Lru κ ν) (key : κ) : Lru κ ν where
  capacity := cache.capacity
  entries := without cache.entries key
  capacity_pos := cache.capacity_pos
  keys_nodup := cache.keys_nodup.sublist ((without_sublist cache.entries key).map Prod.fst)
  length_le := Nat.le_trans (without_sublist cache.entries key).length_le cache.length_le

/-- Store a value under a key as the most recently used entry; a full map drops
its least recently used entry to make room. -/
def put (cache : Lru κ ν) (key : κ) (value : ν) : Lru κ ν where
  capacity := cache.capacity
  entries := ((key, value) :: without cache.entries key).take cache.capacity
  capacity_pos := cache.capacity_pos
  keys_nodup := (nodup_cons_without cache.keys_nodup key value).sublist
    ((List.take_sublist _ _).map Prod.fst)
  length_le := List.length_take_le _ _

/-- Read a key; the entry read becomes the most recently used one. -/
def get (cache : Lru κ ν) (key : κ) : Option ν × Lru κ ν :=
  match cache.lookup key with
  | none => (none, cache)
  | some value => (some value, cache.put key value)

theorem lookup_eq_some_mem {cache : Lru κ ν} {key : κ} {value : ν}
    (found : cache.lookup key = some value) : (key, value) ∈ cache.entries := by
  obtain ⟨entry, entryFound, rfl⟩ := Option.map_eq_some_iff.mp found
  have same : entry.1 = key := by simpa using List.find?_some entryFound
  have entryMem := List.mem_of_find?_eq_some entryFound
  rwa [← same]

theorem entries_pop (cache : Lru κ ν) (key : κ) :
    (cache.pop key).entries = cache.entries.filter fun entry => entry.1 ≠ key :=
  rfl

theorem mem_pop {cache : Lru κ ν} {key : κ} {entry : κ × ν} :
    entry ∈ (cache.pop key).entries ↔ entry ∈ cache.entries ∧ entry.1 ≠ key :=
  mem_without

/-- Removing several keys keeps the entries of all others, in order. -/
theorem entries_foldl_pop (keys : List κ) (cache : Lru κ ν) :
    (keys.foldl pop cache).entries = cache.entries.filter fun entry => entry.1 ∉ keys := by
  induction keys generalizing cache with
  | nil => simp
  | cons key keys ih =>
      rw [List.foldl_cons, ih, entries_pop, List.filter_filter]
      apply List.filter_congr
      intro entry _
      simp [Bool.and_comm]

/-- Storing adds the new entry, which replaces that of its key, and nothing else. -/
theorem mem_put {cache : Lru κ ν} {key : κ} {value : ν} {entry : κ × ν}
    (mem : entry ∈ (cache.put key value).entries) :
    entry = (key, value) ∨ entry ∈ cache.entries ∧ entry.1 ≠ key := by
  rcases List.mem_cons.mp (List.mem_of_mem_take mem) with new | old
  · exact .inl new
  · exact .inr (mem_without.mp old)

/-- Reading changes the order of use, never the entries. -/
theorem mem_get {cache : Lru κ ν} {key : κ} {entry : κ × ν}
    (mem : entry ∈ (cache.get key).2.entries) : entry ∈ cache.entries := by
  simp only [get] at mem
  cases found : cache.lookup key with
  | none => simpa [found] using mem
  | some value =>
      rw [found] at mem
      rcases mem_put mem with rfl | ⟨old, _⟩
      · exact lookup_eq_some_mem found
      · exact old

theorem get_fst (cache : Lru κ ν) (key : κ) : (cache.get key).1 = cache.lookup key := by
  simp only [get]
  cases cache.lookup key <;> rfl

/-- A stored value is found again. -/
@[simp]
theorem lookup_put_self (cache : Lru κ ν) (key : κ) (value : ν) :
    (cache.put key value).lookup key = some value := by
  have room : cache.capacity - 1 + 1 = cache.capacity :=
    Nat.sub_add_cancel cache.capacity_pos
  simp only [lookup, put]
  rw [← room, List.take_succ_cons]
  simp

/-! ## What the operations do to a key -/

/-- Storing under `stored` drops the entry of `key`: `stored` is new, the map is
full, and `key` is its least recently used key. -/
def Evicts (cache : Lru κ ν) (stored key : κ) : Prop :=
  cache.lookup stored = none ∧ cache.entries.length = cache.capacity ∧
    cache.entries.getLast?.map Prod.fst = some key

theorem lookup_eq_none_iff {cache : Lru κ ν} {key : κ} :
    cache.lookup key = none ↔ ∀ entry ∈ cache.entries, entry.1 ≠ key := by
  rw [lookup, Option.map_eq_none_iff, List.find?_eq_none]
  simp only [decide_eq_true_eq]

theorem lookup_pop (cache : Lru κ ν) (removed key : κ) :
    (cache.pop removed).lookup key = if removed = key then none else cache.lookup key := by
  split
  · rename_i same
    rw [lookup_eq_none_iff]
    intro entry mem
    rw [← same]
    exact (mem_pop.mp mem).2
  · rename_i different
    rw [lookup, lookup, entries_pop, List.find?_filter]
    congr 2
    funext entry
    by_cases here : entry.1 = key
    · simp [here, Ne.symm different]
    · simp [here]

/-- A key that is stored already makes room for itself. -/
theorem entries_put_of_mem {cache : Lru κ ν} {key : κ} {old value : ν}
    (found : cache.lookup key = some old) :
    (cache.put key value).entries = (key, value) :: without cache.entries key := by
  apply List.take_of_length_le
  have fewer : (without cache.entries key).length < cache.entries.length := by
    apply List.length_filter_lt_length_iff_exists.mpr
    exact ⟨(key, old), lookup_eq_some_mem found, by simp⟩
  have bound := cache.length_le
  rw [List.length_cons]
  omega

/-- A new key leaves all entries in place, or all but the last one. -/
theorem entries_put_of_new {cache : Lru κ ν} {key : κ} {value : ν}
    (new : cache.lookup key = none) :
    (cache.put key value).entries = (key, value) ::
      if cache.entries.length = cache.capacity then cache.entries.dropLast else cache.entries := by
  have same : without cache.entries key = cache.entries := by
    rw [without, List.filter_eq_self]
    intro entry mem
    simpa using lookup_eq_none_iff.mp new entry mem
  have bound := cache.length_le
  have room : cache.capacity - 1 + 1 = cache.capacity := Nat.sub_add_cancel cache.capacity_pos
  have taken : (cache.put key value).entries = (key, value) :: cache.entries.take (cache.capacity - 1) := by
    simp only [put]
    rw [same, ← room, List.take_succ_cons, Nat.add_sub_cancel]
  rw [taken]
  split
  · rename_i full
    rw [List.dropLast_eq_take, full]
  · rw [List.take_of_length_le (by omega)]

theorem lookup_cons_of_ne {entries : List (κ × ν)} {stored key : κ} (different : stored ≠ key)
    (value : ν) :
    (((stored, value) :: entries).find? fun entry => entry.1 = key) =
      entries.find? fun entry => entry.1 = key := by
  rw [List.find?_cons_of_neg]
  simpa using different

/-- An evicted key is gone. -/
theorem lookup_put_of_evicts {cache : Lru κ ν} {stored key : κ} (evicts : cache.Evicts stored key)
    (value : ν) : (cache.put stored value).lookup key = none := by
  rcases evicts with ⟨new, full, last⟩
  rcases Option.map_eq_some_iff.mp last with ⟨entry, lastEntry, rfl⟩
  have split := List.dropLast_append_getLast? entry lastEntry
  have nodup := cache.keys_nodup
  rw [← split, List.map_append, List.nodup_append] at nodup
  have different : stored ≠ entry.1 := by
    intro same
    exact lookup_eq_none_iff.mp new entry (List.mem_of_getLast? lastEntry) same.symm
  rw [lookup, entries_put_of_new new, if_pos full, lookup_cons_of_ne different,
    Option.map_eq_none_iff, List.find?_eq_none]
  intro other mem
  have otherKey := nodup.2.2 other.1 (List.mem_map_of_mem mem) entry.1 (by simp)
  simpa using otherKey

/-- Any other key keeps its value. -/
theorem lookup_put_of_not_evicts {cache : Lru κ ν} {stored key : κ} (different : stored ≠ key)
    (spared : ¬ cache.Evicts stored key) (value : ν) :
    (cache.put stored value).lookup key = cache.lookup key := by
  cases found : cache.lookup stored with
  | some old =>
      have popped := cache.lookup_pop stored key
      rw [if_neg different] at popped
      rw [lookup, entries_put_of_mem found, lookup_cons_of_ne different, ← popped]
      rfl
  | none =>
      rw [lookup, entries_put_of_new found, lookup_cons_of_ne different]
      split
      · rename_i full
        cases last : cache.entries.getLast? with
        | none =>
            rw [lookup, List.getLast?_eq_none_iff.mp last]
            rfl
        | some entry =>
            have kept : ¬ entry.1 = key := by
              intro same
              exact spared ⟨found, full, by rw [last, ← same]; rfl⟩
            have split := List.dropLast_append_getLast? entry last
            rw [lookup]
            conv => rhs; rw [← split]
            rw [List.find?_append, List.find?_singleton]
            simp [kept]
      · rfl

/-- A key has one entry. -/
theorem eq_of_lookup {cache : Lru κ ν} {key : κ} {value : ν} (found : cache.lookup key = some value)
    {entry : κ × ν} (mem : entry ∈ cache.entries) (same : entry.1 = key) : entry = (key, value) :=
  List.inj_on_of_nodup_map cache.keys_nodup mem (lookup_eq_some_mem found) same

/-- Reading leaves all entries there. -/
theorem mem_get_iff {cache : Lru κ ν} {key : κ} {entry : κ × ν} :
    entry ∈ (cache.get key).2.entries ↔ entry ∈ cache.entries := by
  refine ⟨mem_get, fun mem => ?_⟩
  simp only [get]
  cases found : cache.lookup key with
  | none => exact mem
  | some value =>
      rw [entries_put_of_mem found, List.mem_cons, mem_without]
      by_cases same : entry.1 = key
      · exact .inl (eq_of_lookup found mem same)
      · exact .inr ⟨mem, same⟩

/-- Reading changes no value. -/
theorem lookup_get (cache : Lru κ ν) (read key : κ) :
    (cache.get read).2.lookup key = cache.lookup key := by
  simp only [get]
  cases found : cache.lookup read with
  | none => rfl
  | some value =>
      by_cases same : read = key
      · rw [← same, lookup_put_self, found]
      · apply lookup_put_of_not_evicts same
        rintro ⟨new, _⟩
        rw [found] at new
        contradiction

end Lru

end DnsHijacker.Library
