import DnsHijacker.Shared.Cache
import DnsHijacker.Shared.DomainTrie

/-!
# Purging the cache on a reload

A new configuration brings a new trie, and `remove_domains_from_cache` takes out
of the cache what the new drop list names.  The cache is matched against the
entries of the list by a function of its own, which treats a bare pattern as one
name where the trie blocks everything below it, and which takes every entry
literally where the trie trims it and leaves out comments.
-/

namespace DnsHijacker.Shared

open DnsHijacker.Rust
open DnsHijacker.Library
open DnsHijacker.Shared.DomainTrie

variable (ucd : UnicodeData)

/-! ## The source functions -/

/-- `matches_domain_pattern` -/
def matchesDomainPattern (domain pattern : Text) : Bool :=
  let domain := normalize ucd domain
  let pattern := normalize ucd pattern
  if domain = pattern then true
  else
    match stripPrefix ['*', '.'] pattern with
    | some suffix => domain = suffix || ('.' :: suffix).isSuffixOf domain
    | none => false

/-- `remove_domains_from_cache` -/
def removeDomainsFromCache (cache : ResponseCache) (patterns : List Text) : ResponseCache :=
  let keys := (cache.entries.filter fun entry =>
    patterns.any (matchesDomainPattern ucd entry.1.name)).map Prod.fst
  keys.foldl Lru.pop cache

/-- What `watch_conf_and_reload` does with a configuration it has read. -/
def reload (readFile : Text → Option Text) (dropList : List Text)
    (redirectList : List (Text × Text)) (cache : ResponseCache) : DomainTrie × ResponseCache :=
  (build ucd readFile dropList redirectList, removeDomainsFromCache ucd cache dropList)

variable {ucd}

/-! ## What is removed -/

/-- A purge keeps the entries that no pattern matches, in their order. -/
theorem entries_removeDomainsFromCache (cache : ResponseCache) (patterns : List Text) :
    (removeDomainsFromCache ucd cache patterns).entries =
      cache.entries.filter fun entry =>
        !patterns.any (matchesDomainPattern ucd entry.1.name) := by
  rw [removeDomainsFromCache, Lru.entries_foldl_pop]
  apply List.filter_congr
  intro entry mem
  rw [Bool.eq_iff_iff, decide_eq_true_iff, Bool.not_eq_true', Bool.eq_false_iff]
  apply not_congr
  rw [List.mem_map]
  constructor
  · rintro ⟨other, otherMem, same⟩
    rw [← same]
    exact (List.mem_filter.mp otherMem).2
  · intro matched
    exact ⟨entry, List.mem_filter.mpr ⟨mem, matched⟩, rfl⟩

/-! ## The two matchers on texts -/

/-- A name equals a suffix or ends with it after a dot. -/
def Under (suffix name : Text) : Prop :=
  name = suffix ∨ ∃ lead, name = lead ++ '.' :: suffix

/-- The suffix a pattern stands for in the trie. -/
def blockedSuffix (ucd : UnicodeData) (pattern : Text) : Text :=
  (stripPrefix ['*', '.'] (normalize ucd pattern)).getD (normalize ucd pattern)

theorem covers_iff {pattern name : Text} :
    Covers ucd pattern name ↔ Under (blockedSuffix ucd pattern) (normalize ucd name) :=
  rsplit_isPrefix_iff

/-- The purge matches a name: the name is the entry, or the entry is `*.` and a
suffix of the name. -/
def Names (ucd : UnicodeData) (entry name : Text) : Prop :=
  normalize ucd name = normalize ucd entry ∨
    ∃ suffix, normalize ucd entry = '*' :: '.' :: suffix ∧ Under suffix (normalize ucd name)

theorem stripPrefix_eq_some_iff {lead text rest : Text} :
    stripPrefix lead text = some rest ↔ text = lead ++ rest := by
  rw [stripPrefix]
  constructor
  · intro stripped
    split at stripped
    · rename_i isPrefix
      rw [← Option.some.inj stripped]
      exact (List.prefix_iff_eq_append.mp isPrefix).symm
    · contradiction
  · rintro rfl
    rw [if_pos (List.prefix_append lead rest), List.drop_left]

theorem matchesDomainPattern_iff {name entry : Text} :
    matchesDomainPattern ucd name entry = true ↔ Names ucd entry name := by
  rw [matchesDomainPattern, Names]
  by_cases same : normalize ucd name = normalize ucd entry
  · simp [same]
  · simp only [same, if_false, false_or]
    cases stripped : stripPrefix ['*', '.'] (normalize ucd entry) with
    | none =>
        simp only [Bool.false_eq_true, false_iff]
        rintro ⟨suffix, wildcard, _⟩
        rw [stripPrefix_eq_some_iff.mpr wildcard] at stripped
        contradiction
    | some suffix =>
        have wildcard := stripPrefix_eq_some_iff.mp stripped
        simp only [Bool.or_eq_true, decide_eq_true_eq, List.isSuffixOf_iff_suffix]
        constructor
        · rintro (equal | ⟨lead, ends⟩)
          · exact ⟨suffix, wildcard, .inl equal⟩
          · exact ⟨suffix, wildcard, .inr ⟨lead, ends.symm⟩⟩
        · rintro ⟨other, otherWildcard, under⟩
          have equal : other = suffix := by
            rw [wildcard] at otherWildcard
            exact (List.cons.inj (List.cons.inj otherWildcard).2).2.symm
          rw [equal] at under
          rcases under with here | ⟨lead, ends⟩
          · exact .inl here
          · exact .inr ⟨lead, ends.symm⟩

/-! ## Where they agree -/

/-- The trie has the entry: it is neither blank nor a comment. -/
def IsActive (entry : Text) : Prop :=
  isSkipped (trim entry) = false

/-- Blanks stand around the entry. -/
def IsPadded (entry : Text) : Prop :=
  trim entry ≠ entry

/-- The entry is one name, without `*.` in front. -/
def IsBare (ucd : UnicodeData) (entry : Text) : Prop :=
  ¬ ['*', '.'] <+: normalize ucd entry

/-- The name lies strictly below the entry. -/
def Below (ucd : UnicodeData) (entry name : Text) : Prop :=
  ∃ lead, normalize ucd name = lead ++ '.' :: normalize ucd entry

/-- The trie blocks the name because of the entry. -/
def Blocks (ucd : UnicodeData) (entry name : Text) : Prop :=
  IsActive entry ∧ Covers ucd (trim entry) name

theorem blockedSuffix_of_isBare {entry : Text} (bare : IsBare ucd entry) :
    blockedSuffix ucd entry = normalize ucd entry := by
  rw [blockedSuffix, stripPrefix, if_neg bare]
  rfl

theorem exists_of_not_isBare {entry : Text} (wildcard : ¬ IsBare ucd entry) :
    ∃ suffix, normalize ucd entry = '*' :: '.' :: suffix ∧ blockedSuffix ucd entry = suffix := by
  rcases not_not.mp wildcard with ⟨suffix, split⟩
  have stripped := stripPrefix_eq_some_iff.mpr split.symm
  exact ⟨suffix, split.symm, by rw [blockedSuffix, stripped]; rfl⟩

/-- Of an active entry without blanks around it, the purge names what the trie
blocks, except what lies below a bare one. -/
theorem names_iff_of_plain {entry : Text} (active : IsActive entry) (plain : trim entry = entry)
    (name : Text) :
    Names ucd entry name ↔ Blocks ucd entry name ∧ ¬ (IsBare ucd entry ∧ Below ucd entry name) := by
  rw [Blocks, plain, covers_iff, and_iff_right active, Names]
  by_cases bare : IsBare ucd entry
  · rw [blockedSuffix_of_isBare bare]
    have noWildcard : ¬ ∃ suffix, normalize ucd entry = '*' :: '.' :: suffix ∧
        Under suffix (normalize ucd name) := by
      rintro ⟨suffix, wildcard, _⟩
      exact bare ⟨suffix, wildcard.symm⟩
    rw [or_iff_left noWildcard]
    constructor
    · intro same
      refine ⟨.inl same, ?_⟩
      rintro ⟨_, lead, below⟩
      have lengths := congrArg List.length below
      rw [same, List.length_append, List.length_cons] at lengths
      omega
    · rintro ⟨same | below, outside⟩
      · exact same
      · exact absurd ⟨bare, below⟩ outside
  · rcases exists_of_not_isBare bare with ⟨suffix, wildcard, blocked⟩
    rw [blocked, and_iff_left (fun below => bare below.1)]
    constructor
    · rintro (same | ⟨other, otherWildcard, under⟩)
      · exact .inr ⟨['*'], by rw [same, wildcard]; rfl⟩
      · rw [wildcard] at otherWildcard
        cases otherWildcard
        exact under
    · exact fun under => .inr ⟨suffix, wildcard, under⟩

/-- A list without files or redirects drops what one of its entries blocks. -/
theorem lookup_build_eq_drop_iff {readFile : Text → Option Text} {dropList : List Text}
    (inline : ∀ entry ∈ dropList, isFileReference (trim entry) = false) (name : Text) :
    lookup ucd (build ucd readFile dropList []) name = .drop ↔
      ∃ entry ∈ dropList, Blocks ucd entry name := by
  rw [← checkRules_eq_drop_iff, checkRules_build_eq_drop_iff]
  constructor
  · rintro ⟨pattern, mem, covers, _⟩
    rcases List.mem_flatMap.mp mem with ⟨entry, entryMem, patternMem⟩
    rw [dropPatterns] at patternMem
    split at patternMem
    · contradiction
    · rename_i active
      rw [inline entry entryMem, if_neg Bool.false_ne_true, List.mem_singleton] at patternMem
      subst patternMem
      exact ⟨entry, entryMem, Bool.eq_false_iff.mpr active, covers⟩
  · rintro ⟨entry, mem, active, covers⟩
    refine ⟨trim entry, ?_, covers, ?_⟩
    · rw [List.mem_flatMap]
      use entry, mem
      rw [dropPatterns, active, inline entry mem]
      exact List.mem_singleton_self _
    · intro rule ruleMem
      contradiction

/-- For the name, what the purge does differently from the trie does not
matter: what lies below a bare entry, or under a padded one, is named by some
entry all the same, and what an inactive or a padded entry names is blocked by
some entry all the same. -/
structure ListsAgree (ucd : UnicodeData) (dropList : List Text) (name : Text) : Prop where
  blocked : ∀ entry ∈ dropList, Blocks ucd entry name →
    (IsBare ucd entry ∧ Below ucd entry name) ∨ IsPadded entry →
    ∃ other ∈ dropList, Names ucd other name
  named : ∀ entry ∈ dropList, Names ucd entry name → ¬ IsActive entry ∨ IsPadded entry →
    ∃ other ∈ dropList, Blocks ucd other name

theorem listsAgree_iff {dropList : List Text} {name : Text} :
    ListsAgree ucd dropList name ↔
      ((∃ entry ∈ dropList, Names ucd entry name) ↔ ∃ entry ∈ dropList, Blocks ucd entry name) := by
  constructor
  · intro agree
    constructor
    · rintro ⟨entry, mem, named⟩
      by_cases odd : ¬ IsActive entry ∨ IsPadded entry
      · exact agree.named entry mem named odd
      · rcases not_or.mp odd with ⟨active, plain⟩
        exact ⟨entry, mem,
          ((names_iff_of_plain (not_not.mp active) (not_not.mp plain) name).mp named).1⟩
    · rintro ⟨entry, mem, blocks⟩
      by_cases odd : (IsBare ucd entry ∧ Below ucd entry name) ∨ IsPadded entry
      · exact agree.blocked entry mem blocks odd
      · rcases not_or.mp odd with ⟨outside, plain⟩
        exact ⟨entry, mem,
          (names_iff_of_plain blocks.1 (not_not.mp plain) name).mpr ⟨blocks, outside⟩⟩
  · intro same
    constructor
    · exact fun entry mem blocks _ => same.mpr ⟨entry, mem, blocks⟩
    · exact fun entry mem named _ => same.mp ⟨entry, mem, named⟩

/-! ## What a reload leaves in the cache -/

/-- No cached name is dropped any more, and no other entry is gone. -/
structure PurgeExact (ucd : UnicodeData) (ruleTrie : DomainTrie) (before after : ResponseCache) :
    Prop where
  gone : ∀ entry ∈ after.entries, lookup ucd ruleTrie entry.1.name ≠ .drop
  kept : ∀ entry ∈ before.entries, entry ∉ after.entries →
    lookup ucd ruleTrie entry.1.name = .drop

theorem mem_removeDomainsFromCache {cache : ResponseCache} {patterns : List Text}
    {entry : CacheKey × CacheEntry} :
    entry ∈ (removeDomainsFromCache ucd cache patterns).entries ↔
      entry ∈ cache.entries ∧ ¬ ∃ listed ∈ patterns, Names ucd listed entry.1.name := by
  rw [entries_removeDomainsFromCache, List.mem_filter, Bool.not_eq_true', Bool.eq_false_iff,
    Ne, List.any_eq_true]
  simp only [matchesDomainPattern_iff]

/-- A reload purges the cache exactly if the lists agree about every cached
name. -/
theorem reload_purgeExact_iff (ucd : UnicodeData) (readFile : Text → Option Text)
    {dropList : List Text} (inline : ∀ entry ∈ dropList, isFileReference (trim entry) = false)
    (cache : ResponseCache) :
    PurgeExact ucd (reload ucd readFile dropList [] cache).1 cache
        (reload ucd readFile dropList [] cache).2 ↔
      ∀ entry ∈ cache.entries, ListsAgree ucd dropList entry.1.name := by
  simp only [listsAgree_iff]
  constructor
  · intro exact entry mem
    have drops : lookup ucd (build ucd readFile dropList []) entry.1.name = .drop ↔
        ∃ listed ∈ dropList, Blocks ucd listed entry.1.name :=
      lookup_build_eq_drop_iff inline entry.1.name
    constructor
    · intro named
      have removed : entry ∉ (removeDomainsFromCache ucd cache dropList).entries := by
        intro stays
        exact (mem_removeDomainsFromCache.mp stays).2 named
      exact drops.mp (exact.kept entry mem removed)
    · intro blocks
      by_contra unnamed
      have stays := mem_removeDomainsFromCache.mpr ⟨mem, unnamed⟩
      exact exact.gone entry stays (drops.mpr blocks)
  · intro agree
    constructor
    · intro entry stays dropped
      rcases mem_removeDomainsFromCache.mp stays with ⟨mem, unnamed⟩
      exact unnamed ((agree entry mem).mpr ((lookup_build_eq_drop_iff inline _).mp dropped))
    · intro entry mem removed
      have named : ∃ listed ∈ dropList, Names ucd listed entry.1.name := by
        by_contra unnamed
        exact removed (mem_removeDomainsFromCache.mpr ⟨mem, unnamed⟩)
      exact (lookup_build_eq_drop_iff inline _).mpr ((agree entry mem).mp named)

/-- A list of `*.` entries without blanks agrees about every name. -/
theorem listsAgree_of_wildcards {dropList : List Text}
    (wildcards : ∀ entry ∈ dropList, IsActive entry ∧ ¬ IsPadded entry ∧ ¬ IsBare ucd entry)
    (name : Text) : ListsAgree ucd dropList name := by
  constructor
  · intro entry mem _ odd
    rcases wildcards entry mem with ⟨_, plain, wildcard⟩
    rcases odd with ⟨bare, _⟩ | padded
    · exact absurd bare wildcard
    · exact absurd padded plain
  · intro entry mem _ odd
    rcases wildcards entry mem with ⟨active, plain, _⟩
    rcases odd with inactive | padded
    · exact absurd active inactive
    · exact absurd padded plain

/-- A cache with one entry for the name. -/
def cacheOf (name : Text) : ResponseCache :=
  newCache.put ⟨name, 1⟩ ⟨[], 0⟩

theorem reload_purgeExact_wildcard :
    PurgeExact .ascii (reload .ascii (fun _ => none) ["*.ads.com".toList] [] (cacheOf "x.ads.com".toList)).1
      (cacheOf "x.ads.com".toList)
      (reload .ascii (fun _ => none) ["*.ads.com".toList] [] (cacheOf "x.ads.com".toList)).2 := by
  apply (reload_purgeExact_iff .ascii (fun _ => none) (by decide) (cacheOf "x.ads.com".toList)).mpr
  intro entry _
  apply listsAgree_of_wildcards
  intro listed mem
  rw [List.mem_singleton.mp mem]
  exact ⟨rfl, not_not.mpr rfl, not_not.mpr ⟨"ads.com".toList, rfl⟩⟩

/-- After a reload with the bare pattern `ads.com` the trie drops `x.ads.com`, and
its entry is still in the cache. -/
theorem bare_pattern_not_purged :
    (∃ entry ∈ (reload .ascii (fun _ => none) ["ads.com".toList] []
        (cacheOf "x.ads.com".toList)).2.entries,
      entry.1.name = "x.ads.com".toList ∧
      lookup .ascii (reload .ascii (fun _ => none) ["ads.com".toList] []
        (cacheOf "x.ads.com".toList)).1 entry.1.name = .drop) ∧
    ¬ PurgeExact .ascii
      (reload .ascii (fun _ => none) ["ads.com".toList] [] (cacheOf "x.ads.com".toList)).1
      (cacheOf "x.ads.com".toList)
      (reload .ascii (fun _ => none) ["ads.com".toList] [] (cacheOf "x.ads.com".toList)).2 := by
  have stays : (⟨"x.ads.com".toList, 1⟩, ⟨[], 0⟩) ∈ (reload .ascii (fun _ => none)
      ["ads.com".toList] [] (cacheOf "x.ads.com".toList)).2.entries := by decide +kernel
  have dropped : lookup .ascii (reload .ascii (fun _ => none) ["ads.com".toList] []
      (cacheOf "x.ads.com".toList)).1 "x.ads.com".toList = .drop := by decide +kernel
  constructor
  · exact ⟨_, stays, rfl, dropped⟩
  · intro exact
    exact exact.gone _ stays dropped

end DnsHijacker.Shared
