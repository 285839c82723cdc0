import DnsHijacker.DnsRelay.HandlerSpec

/-!
# Drop rules against redirect rules

The README promises that the drop list is checked before the redirect list.  The
program checks both at once: the two lists share a trie in which a redirect
pattern replaces a drop pattern for the same name and a pattern with fewer labels
hides the ones below it.  A drop rule therefore decides a name it matches exactly
when every redirect rule for that name sits deeper in the trie.
-/

namespace DnsHijacker.DnsRelay

open DnsHijacker.Rust
open DnsHijacker.Wire
open DnsHijacker.Shared
open DnsHijacker.Shared.Dns
open DnsHijacker.Shared.DomainTrie

variable {ucd : UnicodeData}

/-! ## Names of queries and patterns -/

/-- A name equals a pattern, or the pattern is `*.` and a name and the name lies
under it.  The labels in front are arbitrary octets. -/
def NameMatches (ucd : UnicodeData) (pattern : Text) (labels : List Label) : Prop :=
  ∃ lead rest, labels = lead ++ rest ∧ (∀ label ∈ rest, label.IsUtf8) ∧
    ((lead = [] ∧ normalize ucd pattern = dottedName ucd rest) ∨
      (lead ≠ [] ∧ normalize ucd pattern = '*' :: '.' :: dottedName ucd rest))

theorem getLast?_trimEndMatches (text : Text) :
    (trimEndMatches '.' text).getLast? ≠ some '.' := by
  intro last
  have nonempty : text.rdropWhile (· = '.') ≠ [] := by
    rintro empty
    rw [trimEndMatches, empty] at last
    contradiction
  have kept := List.rdropWhile_last_not (· = '.') text nonempty
  rw [trimEndMatches, List.getLast?_eq_some_getLast nonempty, Option.some.injEq] at last
  simp [last] at kept

theorem getLast?_normalize (ucd : UnicodeData) (text : Text) : (normalize ucd text).getLast? ≠ some '.' :=
  fun last => getLast?_trimEndMatches text (UnicodeData.getLast?_toLowercase last)

/-- The text of a name is compared as it is, up to a dot at its end. -/
theorem normalize_dottedName {labels : List Label}
    (last : (dottedName ucd labels).getLast? ≠ some '.') :
    normalize ucd (dottedName ucd labels) = dottedName ucd labels := by
  have trimmed : trimEndMatches '.' (dottedName ucd labels) = dottedName ucd labels := by
    apply trimEndMatches_eq_self
    intro nonempty isDot
    rw [List.getLast?_eq_some_getLast nonempty, isDot] at last
    exact last rfl
  rw [DomainTrie.normalize, trimmed]
  exact UnicodeData.toLowercase_of_stable stable_of_mem_dottedName

/-- A matching name is matched as a text. -/
theorem NameMatches.matches {pattern : Text} {labels : List Label}
    (nameMatches : NameMatches ucd pattern labels) :
    Matches ucd pattern (dottedName ucd labels) := by
  have patternLast := getLast?_normalize ucd pattern
  rcases nameMatches with ⟨lead, rest, rfl, _, ⟨rfl, same⟩ | ⟨leadNonempty, wildcard⟩⟩
  · left
    rw [same] at patternLast
    rw [List.nil_append, same, normalize_dottedName patternLast]
  · right
    rw [wildcard, List.getLast?_cons_cons] at patternLast
    have suffixNonempty : dottedName ucd rest ≠ [] := by
      intro empty
      rw [empty] at patternLast
      exact patternLast rfl
    have restNonempty : rest ≠ [] := by
      rintro rfl
      exact suffixNonempty rfl
    have suffixLast : (dottedName ucd rest).getLast? ≠ some '.' := by
      intro isDot
      rw [List.getLast?_cons, isDot] at patternLast
      exact patternLast rfl
    refine ⟨dottedName ucd rest, dottedName ucd lead, wildcard, ?_⟩
    rw [normalize_dottedName, dottedName_append leadNonempty restNonempty]
    rw [dottedName_append leadNonempty restNonempty, List.getLast?_append_of_ne_nil _ (by simp),
      List.getLast?_cons]
    cases last : (dottedName ucd rest).getLast? with
    | none => exact absurd (List.getLast?_eq_none_iff.mp last) suffixNonempty
    | some c =>
        rw [last] at suffixLast
        exact suffixLast

/-! ## When a query is dropped -/

/-- What a drop rule promises for a query: the decision is to drop, and the reply
is NXDOMAIN whatever the state of the relay and the upstream are. -/
structure DropsQuery (ucd : UnicodeData) (ruleTrie : DomainTrie) (query : Query) : Prop where
  decided : ∃ domain qnameEnd, parseDomain ucd query.encode 12 = .ok (some (domain, qnameEnd)) ∧
    checkRules ucd domain ruleTrie = .drop
  answered : ∀ resolveResult now later state,
    resolveQuery ucd ruleTrie query.encode resolveResult now later state =
      .ok (some (query.withFlags 0x81 0x83).encode, state.incr .incrDrop)

/-- A query is dropped exactly if its name is UTF-8 and the rules drop it. -/
theorem dropsQuery_iff {ruleTrie : DomainTrie} {query : Query} :
    DropsQuery ucd ruleTrie query ↔
      (∀ label ∈ query.question.labels, label.IsUtf8) ∧
        checkRules ucd (dottedName ucd query.question.labels) ruleTrie = .drop := by
  have parsed := parseDomain_query ucd query
  constructor
  · rintro ⟨⟨domain, qnameEnd, read, drops⟩, _⟩
    rw [parsed, Except.ok.injEq] at read
    split at read
    · next utf8 =>
        cases read
        exact ⟨utf8, drops⟩
    · contradiction
  · rintro ⟨utf8, drops⟩
    rw [if_pos utf8] at parsed
    refine ⟨⟨_, _, parsed, drops⟩, ?_⟩
    intro resolveResult now later state
    rw [resolveQuery, beginResolve_eq, verdict_query, if_pos utf8, drops]
    rfl

/-- For a query whose name a drop pattern matches, drop has precedence exactly
if the name is UTF-8 and every redirect pattern that covers it has more labels
than some drop pattern that covers it. -/
theorem drop_precedence_iff (ucd : UnicodeData) (readFile : Text → Option Text)
    (dropList : List Text) (redirectList : List (Text × Text)) (query : Query)
    (matched : ∃ pattern ∈ dropList.flatMap (dropPatterns readFile),
      NameMatches ucd pattern query.question.labels) :
    DropsQuery ucd (build ucd readFile dropList redirectList) query ↔
      (∀ label ∈ query.question.labels, label.IsUtf8) ∧
        ∀ rule ∈ redirectList.flatMap (redirectPatterns readFile),
          Covers ucd rule.1 (dottedName ucd query.question.labels) →
            ∃ pattern ∈ dropList.flatMap (dropPatterns readFile),
              Covers ucd pattern (dottedName ucd query.question.labels) ∧
                depth ucd pattern < depth ucd rule.1 := by
  rw [dropsQuery_iff, checkRules_of_matches]
  rcases matched with ⟨pattern, mem, nameMatches⟩
  exact ⟨pattern, mem, nameMatches.matches⟩

/-- The query `ads.com`. -/
def adsQuery : Query :=
  bareQuery [⟨[0x61, 0x64, 0x73], by decide, by decide⟩,
    ⟨[0x63, 0x6F, 0x6D], by decide, by decide⟩] 1

/-- The trie of one drop pattern and one redirect rule. -/
def overlap (dropPattern redirectPattern : String) : DomainTrie :=
  build .ascii (fun _ => none) [dropPattern.toList] [(redirectPattern.toList, "10.0.0.1".toList)]

theorem drop_precedence_iff_overlap : DropsQuery .ascii (overlap "*.com" "ads.com") adsQuery :=
  (drop_precedence_iff .ascii (fun _ => none) ["*.com".toList]
    [("ads.com".toList, "10.0.0.1".toList)] adsQuery
    ⟨"*.com".toList, by decide +kernel,
      [⟨[0x61, 0x64, 0x73], by decide, by decide⟩], [⟨[0x63, 0x6F, 0x6D], by decide, by decide⟩],
      rfl, by decide +kernel, .inr ⟨by decide, by decide +kernel⟩⟩).mpr
    (by decide +kernel)

/-- `ads.com` is on the drop list, but a redirect for the same name or for `com`
answers it. -/
theorem redirect_over_drop :
    NameMatches .ascii "ads.com".toList adsQuery.question.labels ∧
      ¬ DropsQuery .ascii (overlap "ads.com" "ads.com") adsQuery ∧
      ¬ DropsQuery .ascii (overlap "ads.com" "com") adsQuery ∧
      ∀ resolveResult now later state,
        resolveQuery .ascii (overlap "ads.com" "com") adsQuery.encode resolveResult now later state =
          .ok (some (redirectBytes adsQuery [⟨10, 0, 0, 1⟩]), state.incr .incrRedirect) := by
  have redirected : checkRules .ascii (dottedName .ascii adsQuery.question.labels)
      (overlap "ads.com" "com") = .redirect ["10.0.0.1".toList] := by decide +kernel
  refine ⟨⟨[], adsQuery.question.labels, rfl, by decide +kernel, .inl ⟨rfl, by decide +kernel⟩⟩,
    ?_, ?_, ?_⟩
  · rw [dropsQuery_iff]
    decide +kernel
  · rw [dropsQuery_iff, redirected]
    rintro ⟨_, drops⟩
    contradiction
  · intro resolveResult now later state
    have utf8 : ∀ label ∈ adsQuery.question.labels, label.IsUtf8 := by decide +kernel
    have addresses : ["10.0.0.1".toList].filterMap parseIpv4 = [⟨10, 0, 0, 1⟩] := by decide +kernel
    rw [resolveQuery, beginResolve_eq, verdict_query, if_pos utf8, redirected]
    dsimp only
    rw [addresses]
    rfl

end DnsHijacker.DnsRelay
