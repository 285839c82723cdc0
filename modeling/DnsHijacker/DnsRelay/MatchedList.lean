import DnsHijacker.Shared.Purge
import DnsHijacker.DnsRelay.HistoryFormat

/-!
# The names the history is kept of

`matched_list` has patterns such as `*.google.com`.  The filter strips the star and
leaves the dot, and then looks for another dot in front of it.
-/

namespace DnsHijacker.DnsRelay

open DnsHijacker.Rust
open DnsHijacker.Shared
open DnsHijacker.Shared.DomainTrie

/-- The pattern `*.S`. -/
def wildcard (suffix : Text) : Text :=
  '*' :: '.' :: suffix

/-- The name ends with `.S`, and in front of it stands nothing or a dot. -/
def AfterEmptyLabel (suffix domain : Text) : Prop :=
  domain = '.' :: suffix ∨ ∃ lead, domain = lead ++ '.' :: '.' :: suffix

/-- What the filter matches under `*.S`. -/
theorem domainMatches_wildcard {suffix domain : Text} :
    domainMatches (wildcard suffix) domain = true ↔ AfterEmptyLabel suffix domain := by
  have stripped : stripPrefix ['*'] (wildcard suffix) = some ('.' :: suffix) :=
    stripPrefix_eq_some_iff.mpr rfl
  rw [domainMatches, stripped, AfterEmptyLabel]
  simp only [decide_eq_true_eq]
  apply or_congr_right
  constructor
  · rintro ⟨_, ⟨front, rfl⟩, dot⟩
    rw [List.length_append, Nat.add_sub_cancel] at dot
    obtain ⟨lead, last, rfl⟩ : ∃ lead last, front = lead ++ [last] := by
      rcases List.eq_nil_or_concat front with rfl | ⟨lead, last, rfl⟩
      · simp at *
      · exact ⟨lead, last, by simp⟩
    have isDot : last = '.' := by simpa using dot
    refine ⟨lead, ?_⟩
    rw [isDot, List.append_assoc]
    rfl
  · rintro ⟨lead, rfl⟩
    refine ⟨by simp; omega, ⟨lead ++ ['.'], by simp⟩, ?_⟩
    have behind : (lead ++ '.' :: '.' :: suffix).length - ('.' :: suffix).length - 1 =
        lead.length := by
      simp only [List.length_append, List.length_cons]
      omega
    rw [behind]
    simp

theorem AfterEmptyLabel.under {suffix domain : Text} (after : AfterEmptyLabel suffix domain) :
    Under suffix domain := by
  rcases after with rfl | ⟨lead, rfl⟩
  · exact .inr ⟨[], rfl⟩
  · exact .inr ⟨lead ++ ['.'], by simp⟩

/-- A pattern in lower case without a dot at its end matches S and what is under it. -/
theorem matchesDomainPattern_wildcard {ucd : UnicodeData} {suffix domain : Text}
    (pattern : normalize ucd (wildcard suffix) = wildcard suffix)
    (name : normalize ucd domain = domain) :
    matchesDomainPattern ucd domain (wildcard suffix) = true ↔ Under suffix domain := by
  rw [matchesDomainPattern_iff, Names, pattern, name]
  constructor
  · rintro (rfl | ⟨other, same, under⟩)
    · exact .inr ⟨['*'], rfl⟩
    · cases same
      exact under
  · exact fun under => .inr ⟨suffix, rfl, under⟩

theorem pushMany_eq_self_iff {matchedList : List Text} {domain : Text} {ips : List Text}
    (some : ips ≠ []) (listed : matchedList ≠ []) (buffer : HistoryBuffer) :
    buffer.pushMany matchedList domain ips = buffer ↔
      ¬ ∃ pattern ∈ matchedList, domainMatches pattern domain = true := by
  rw [← List.any_eq_true]
  by_cases takes : Takes matchedList domain ips
  · have longer : { buffer with pushers := buffer.pushers ++ [.trying (domain, ips)] } ≠ buffer := by
      intro same
      have length := congrArg (·.pushers.length) same
      simp at length
    rw [pushMany_of_takes takes]
    exact iff_of_false longer (not_not_intro (takes.2.resolve_left listed))
  · have leaves : ¬ matchedList.any (domainMatches · domain) = true :=
      fun found => takes ⟨some, .inr found⟩
    exact iff_of_true (pushMany_of_not_takes takes buffer) leaves

/-- Under each of the patterns the filter matches the names that are S or under S, as
`matches_domain_pattern` does, and `push_many` leaves out the others and only these. -/
structure FilterCovers (ucd : UnicodeData) (suffixes : List Text) (domain : Text) : Prop where
  under : ∀ suffix ∈ suffixes,
    (domainMatches (wildcard suffix) domain = true ↔ Under suffix domain)
  pattern : ∀ suffix ∈ suffixes, normalize ucd (wildcard suffix) = wildcard suffix →
    normalize ucd domain = domain →
      domainMatches (wildcard suffix) domain = matchesDomainPattern ucd domain (wildcard suffix)
  recorded : suffixes ≠ [] → ∀ (buffer : HistoryBuffer) (ips : List Text), ips ≠ [] →
    (buffer.pushMany (suffixes.map wildcard) domain ips = buffer ↔
      ¬ ∃ suffix ∈ suffixes, Under suffix domain)

/-- The filter covers what the patterns say exactly if every suffix the domain lies under
stands behind an empty label. -/
theorem filter_covers_iff (ucd : UnicodeData) (suffixes : List Text) (domain : Text) :
    FilterCovers ucd suffixes domain ↔
      ∀ suffix ∈ suffixes, Under suffix domain → AfterEmptyLabel suffix domain := by
  constructor
  · intro covers suffix mem under
    exact domainMatches_wildcard.mp ((covers.under suffix mem).mpr under)
  · intro only
    have under : ∀ suffix ∈ suffixes,
        (domainMatches (wildcard suffix) domain = true ↔ Under suffix domain) := by
      intro suffix mem
      rw [domainMatches_wildcard]
      exact ⟨AfterEmptyLabel.under, only suffix mem⟩
    constructor
    case under => exact under
    case pattern =>
      intro suffix mem pattern name
      rw [Bool.eq_iff_iff, under suffix mem, matchesDomainPattern_wildcard pattern name]
    case recorded =>
      intro nonempty buffer ips some
      rw [pushMany_eq_self_iff some (by simpa using nonempty), not_iff_not]
      simp only [List.mem_map, exists_exists_and_eq_and]
      exact exists_congr fun suffix => and_congr_right fun mem => under suffix mem

/-- The filter leaves out `google.com` and `ads.google.com` under `*.google.com`. -/
theorem subdomain_left_out :
    domainMatches "*.google.com".toList "google.com".toList = false ∧
      domainMatches "*.google.com".toList "ads.google.com".toList = false ∧
      ¬ FilterCovers .ascii ["google.com".toList] "ads.google.com".toList := by
  refine ⟨by decide, by decide, ?_⟩
  intro covers
  have under : Under "google.com".toList "ads.google.com".toList := .inr ⟨"ads".toList, by decide⟩
  have matched := (covers.under _ List.mem_cons_self).mpr under
  exact absurd matched (by decide)

end DnsHijacker.DnsRelay
