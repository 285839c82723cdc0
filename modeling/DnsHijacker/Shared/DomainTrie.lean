import DnsHijacker.Library.PathTrie
import DnsHijacker.Rust.Unicode

/-!
# The rule trie

Drop and redirect patterns live in one trie over the labels of a domain, last
label first.  A pattern covers its own name and everything below it, with or
without a leading `*.`.  Both lists are inserted into the same trie, drop
patterns first, so the list library describes the trie by its insertions.
-/

namespace DnsHijacker.Shared

open DnsHijacker.Rust
open DnsHijacker.Library

/-- The policy of a trie node; nodes on the way to a pattern have none. -/
inductive DomainTriePolicy where
  | none
  | drop
  | redirect (ips : List Text)
  deriving DecidableEq, Repr

instance : Inhabited DomainTriePolicy :=
  ⟨.none⟩

@[simp]
theorem DomainTriePolicy.default_eq : (default : DomainTriePolicy) = .none :=
  rfl

abbrev DomainTrie := Trie Text DomainTriePolicy

/-- The decision of the rules about a domain. -/
inductive RuleMatch where
  | drop
  | redirect (ips : List Text)
  | none
  deriving DecidableEq, Repr

namespace DomainTrie

variable (ucd : UnicodeData)

/-! ## The source functions -/

/-- A pattern or a domain as it is compared: without trailing dots and in lower
case. -/
def normalize (text : Text) : Text :=
  ucd.toLowercase (trimEndMatches '.' text)

/-- The labels a pattern is inserted under. -/
def patternPath (pattern : Text) : List Text :=
  let pattern := normalize ucd pattern
  rsplit '.' ((stripPrefix ['*', '.'] pattern).getD pattern)

/-- The labels a domain is looked up by. -/
def domainPath (domain : Text) : List Text :=
  rsplit '.' (normalize ucd domain)

def insertWithPolicy (trie : DomainTrie) (pattern : Text) (policy : DomainTriePolicy) :
    DomainTrie :=
  trie.insert (patternPath ucd pattern) policy

def insertDrop (trie : DomainTrie) (pattern : Text) : DomainTrie :=
  insertWithPolicy ucd trie pattern .drop

/-- The addresses of a redirect target, without their ports. -/
def redirectIps (ipWithPort : Text) : List Text :=
  (ipWithPort.splitOn ',').map fun entry => (entry.splitOn ':').head?.getD entry

def insertRedirect (trie : DomainTrie) (pattern ipWithPort : Text) : DomainTrie :=
  insertWithPolicy ucd trie pattern (.redirect (redirectIps ipWithPort))

/-- Blank entries and comments are skipped. -/
def isSkipped (pattern : Text) : Bool :=
  pattern.isEmpty || pattern.head? = some '#'

/-- The entry names a list file. -/
def isFileReference (pattern : Text) : Bool :=
  "/".toList.isPrefixOf pattern || "./".toList.isPrefixOf pattern ||
    "../".toList.isPrefixOf pattern

/-- The first words of the lines of a list file; `readFile` is the file system,
and a file that cannot be read has no lines. -/
def readListFile (readFile : Text → Option Text) (path : Text) : List Text :=
  match readFile path with
  | some content =>
      (lines content).filterMap fun rawLine =>
        let line := trim rawLine
        if isSkipped line then none else firstWord line
  | none => []

/-- The patterns one entry of the drop list stands for. -/
def dropPatterns (readFile : Text → Option Text) (entry : Text) : List Text :=
  let pattern := trim entry
  if isSkipped pattern then []
  else if isFileReference pattern then readListFile readFile pattern
  else [pattern]

/-- The patterns and targets one entry of the redirect list stands for. -/
def redirectPatterns (readFile : Text → Option Text) (entry : Text × Text) :
    List (Text × Text) :=
  let pattern := trim entry.1
  if isSkipped pattern then []
  else if isFileReference pattern then
    (readListFile readFile pattern).filterMap fun line =>
      match splitOnce ':' line with
      | some (source, target) =>
          if (trim source).isEmpty || (trim target).isEmpty then none
          else some (trim source, trim target)
      | none => none
  else [(pattern, entry.2)]

/-- `DomainTrie::build` -/
def build (readFile : Text → Option Text) (dropList : List Text)
    (redirectList : List (Text × Text)) : DomainTrie :=
  let dropped := dropList.foldl
    (fun trie entry => (dropPatterns readFile entry).foldl (insertDrop ucd) trie) Trie.empty
  redirectList.foldl
    (fun trie entry => (redirectPatterns readFile entry).foldl
      (fun trie rule => insertRedirect ucd trie rule.1 rule.2) trie) dropped

/-- `DomainTrie::lookup` -/
def lookup (trie : DomainTrie) (domain : Text) : DomainTriePolicy :=
  Trie.lookup trie (domainPath ucd domain)

end DomainTrie

open DomainTrie

/-- `check_rules` -/
def checkRules (ucd : UnicodeData) (domain : Text) (trie : DomainTrie) : RuleMatch :=
  match lookup ucd trie domain with
  | .drop => .drop
  | .redirect ips => .redirect ips
  | .none => .none

namespace DomainTrie

variable {ucd : UnicodeData}

/-! ## The trie as a list of insertions -/

/-- What the drop list inserts, in order. -/
def dropInserts (ucd : UnicodeData) (readFile : Text → Option Text) (dropList : List Text) :
    List (List Text × DomainTriePolicy) :=
  (dropList.flatMap (dropPatterns readFile)).map fun pattern => (patternPath ucd pattern, .drop)

/-- What the redirect list inserts, in order. -/
def redirectInserts (ucd : UnicodeData) (readFile : Text → Option Text)
    (redirectList : List (Text × Text)) : List (List Text × DomainTriePolicy) :=
  (redirectList.flatMap (redirectPatterns readFile)).map fun rule =>
    (patternPath ucd rule.1, .redirect (redirectIps rule.2))

/-- The trie holds the drop insertions and, after them, the redirect
insertions. -/
theorem build_eq (readFile : Text → Option Text) (dropList : List Text)
    (redirectList : List (Text × Text)) :
    build ucd readFile dropList redirectList =
      Trie.build (dropInserts ucd readFile dropList ++
        redirectInserts ucd readFile redirectList) := by
  rw [Trie.build, List.foldl_append, dropInserts, redirectInserts, List.foldl_map, List.foldl_map,
    List.foldl_flatMap, List.foldl_flatMap]
  rfl

theorem patternPath_ne_nil (pattern : Text) : patternPath ucd pattern ≠ [] :=
  rsplit_ne_nil _ _

/-- Every insertion sets a policy below the root. -/
theorem inserts_wellFormed (readFile : Text → Option Text) (dropList : List Text)
    (redirectList : List (Text × Text)) :
    ∀ entry ∈ dropInserts ucd readFile dropList ++ redirectInserts ucd readFile redirectList,
      entry.1 ≠ [] ∧ entry.2 ≠ default := by
  intro entry mem
  rcases List.mem_append.mp mem with dropMem | redirectMem
  · rcases List.mem_map.mp dropMem with ⟨pattern, _, rfl⟩
    exact ⟨patternPath_ne_nil pattern, by simp⟩
  · rcases List.mem_map.mp redirectMem with ⟨rule, _, rfl⟩
    exact ⟨patternPath_ne_nil rule.1, by simp⟩

/-- A pattern covers a domain: the domain is the pattern's name or lies below
it. -/
def Covers (ucd : UnicodeData) (pattern domain : Text) : Prop :=
  patternPath ucd pattern <+: domainPath ucd domain

instance (pattern domain : Text) : Decidable (Covers ucd pattern domain) :=
  inferInstanceAs (Decidable (_ <+: _))

/-- The number of labels of a pattern. -/
def depth (ucd : UnicodeData) (pattern : Text) : Nat :=
  (patternPath ucd pattern).length

theorem checkRules_eq_drop_iff {trie : DomainTrie} {domain : Text} :
    checkRules ucd domain trie = .drop ↔ lookup ucd trie domain = .drop := by
  rw [checkRules]
  cases lookup ucd trie domain <;> simp

/-- The lists decide to drop a domain exactly when a drop pattern covers it and
every redirect pattern that covers it as well has more labels. -/
theorem checkRules_build_eq_drop_iff {readFile : Text → Option Text} {dropList : List Text}
    {redirectList : List (Text × Text)} {domain : Text} :
    checkRules ucd domain (build ucd readFile dropList redirectList) = .drop ↔
      ∃ pattern ∈ dropList.flatMap (dropPatterns readFile), Covers ucd pattern domain ∧
        ∀ rule ∈ redirectList.flatMap (redirectPatterns readFile), Covers ucd rule.1 domain →
          depth ucd pattern < depth ucd rule.1 := by
  have dropOwn : ∀ entry ∈ dropInserts ucd readFile dropList, entry.2 = .drop := by
    intro entry mem
    rcases List.mem_map.mp mem with ⟨pattern, _, rfl⟩
    rfl
  have redirectOther : ∀ entry ∈ redirectInserts ucd readFile redirectList, entry.2 ≠ .drop := by
    intro entry mem
    rcases List.mem_map.mp mem with ⟨rule, _, rfl⟩
    simp
  rw [checkRules_eq_drop_iff, lookup, build_eq,
    Trie.lookup_build_append_eq_iff (inserts_wellFormed readFile dropList redirectList)
      (by simp) dropOwn redirectOther]
  constructor
  · rintro ⟨entry, mem, isPrefix, below⟩
    rcases List.mem_map.mp mem with ⟨pattern, patternMem, rfl⟩
    refine ⟨pattern, patternMem, isPrefix, ?_⟩
    intro rule ruleMem covers
    exact below _ (List.mem_map.mpr ⟨rule, ruleMem, rfl⟩) covers
  · rintro ⟨pattern, patternMem, covers, below⟩
    refine ⟨_, List.mem_map.mpr ⟨pattern, patternMem, rfl⟩, covers, ?_⟩
    intro entry mem isPrefix
    rcases List.mem_map.mp mem with ⟨rule, ruleMem, rfl⟩
    exact below rule ruleMem isPrefix

/-- A name is matched by a pattern: it is the pattern, or the pattern is `*.`
and a suffix and the name lies under that suffix. -/
def Matches (ucd : UnicodeData) (pattern domain : Text) : Prop :=
  normalize ucd domain = normalize ucd pattern ∨
    ∃ suffix lead, normalize ucd pattern = '*' :: '.' :: suffix ∧
      normalize ucd domain = lead ++ '.' :: suffix

theorem rsplit_of_below (lead suffix : Text) :
    rsplit '.' suffix <+: rsplit '.' (lead ++ '.' :: suffix) := by
  rw [rsplit, rsplit, List.splitOn_append_cons_self, List.reverse_append]
  exact List.prefix_append _ _

theorem stripPrefix_wildcard (suffix : Text) :
    stripPrefix ['*', '.'] ('*' :: '.' :: suffix) = some suffix := by
  simp [stripPrefix]

/-- A matched name is covered. -/
theorem Matches.covers {pattern domain : Text} (isMatch : Matches ucd pattern domain) :
    Covers ucd pattern domain := by
  rw [Covers, patternPath, domainPath]
  rcases isMatch with same | ⟨suffix, lead, patternEq, domainEq⟩
  · rw [same]
    by_cases wildcard : ['*', '.'] <+: normalize ucd pattern
    · rcases wildcard with ⟨suffix, split⟩
      rw [← split, List.cons_append, List.cons_append, List.nil_append, stripPrefix_wildcard]
      exact rsplit_of_below ['*'] suffix
    · rw [stripPrefix, if_neg wildcard]
      exact List.prefix_rfl
  · rw [patternEq, domainEq, stripPrefix_wildcard]
    exact rsplit_of_below lead suffix

/-- For a name that a drop pattern matches, drop wins exactly when every
redirect pattern that covers the name is deeper than some drop pattern that
covers it. -/
theorem checkRules_of_matches {readFile : Text → Option Text} {dropList : List Text}
    {redirectList : List (Text × Text)} {domain : Text}
    (matched : ∃ pattern ∈ dropList.flatMap (dropPatterns readFile), Matches ucd pattern domain) :
    checkRules ucd domain (build ucd readFile dropList redirectList) = .drop ↔
      ∀ rule ∈ redirectList.flatMap (redirectPatterns readFile), Covers ucd rule.1 domain →
        ∃ pattern ∈ dropList.flatMap (dropPatterns readFile), Covers ucd pattern domain ∧
          depth ucd pattern < depth ucd rule.1 := by
  rw [checkRules_build_eq_drop_iff]
  constructor
  · rintro ⟨pattern, mem, covers, below⟩ rule ruleMem ruleCovers
    exact ⟨pattern, mem, covers, below rule ruleMem ruleCovers⟩
  · intro deeper
    rcases matched with ⟨pattern, mem, isMatch⟩
    let inserts := dropInserts ucd readFile dropList
    have covered : ∃ entry ∈ inserts, entry.1 <+: domainPath ucd domain :=
      ⟨_, List.mem_map.mpr ⟨pattern, mem, rfl⟩, isMatch.covers⟩
    rcases Trie.exists_shortest covered with ⟨entry, entryMem, covers, shortest⟩
    rcases List.mem_map.mp entryMem with ⟨closest, closestMem, rfl⟩
    refine ⟨closest, closestMem, covers, ?_⟩
    intro rule ruleMem ruleCovers
    rcases deeper rule ruleMem ruleCovers with ⟨other, otherMem, otherCovers, below⟩
    exact Nat.lt_of_le_of_lt
      (shortest _ (List.mem_map.mpr ⟨other, otherMem, rfl⟩) otherCovers) below

end DomainTrie

end DnsHijacker.Shared
