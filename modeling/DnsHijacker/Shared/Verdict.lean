import DnsHijacker.Shared.Dns.Redirect
import DnsHijacker.Shared.Dns.Returns
import DnsHijacker.Shared.Pipeline

/-!
# The verdict on a query

Before the cache is asked, both pipelines do the same with a payload: they parse
its name, consult the rules and compute its cache key.  `verdict` is that part
as a function of the payload alone; the pipelines are related to it in their own
modules.
-/

namespace DnsHijacker.Shared

open DnsHijacker.Rust
open DnsHijacker.Wire
open DnsHijacker.Shared.Dns

/-- What the rules and the key decide about a payload. -/
inductive Verdict where
  /-- There is no reply. -/
  | refused
  | dropped (resp : Bytes)
  | redirected (resp : Bytes)
  /-- The cache is asked; the transaction ID of the query is kept. -/
  | ask (domain : Text) (cacheKey : CacheKey) (first second : UInt8)
  deriving DecidableEq

/-- The verdict on a payload. -/
def verdict (ucd : UnicodeData) (ruleTrie : DomainTrie) (payload : Bytes) : Exec Verdict := do
  if payload.length < 12 then return .refused
  match ← parseDomain ucd payload 12 with
  | none => return .refused
  | some (domain, qnameEnd) =>
      match checkRules ucd domain ruleTrie with
      | .drop =>
          match craftNxdomainResponse payload with
          | none => return .refused
          | some resp => return .dropped resp
      | .redirect ips =>
          match ← craftRedirectResponse payload qnameEnd ips with
          | none => return .refused
          | some resp => return .redirected resp
      | .none =>
          match ← cacheKeyFromQuery ucd payload with
          | none => return .refused
          | some cacheKey =>
              let first ← index payload 0
              let second ← index payload 1
              return .ask domain cacheKey first second

variable {ucd : UnicodeData} {ruleTrie : DomainTrie}

/-- The way to each verdict.  Nothing is said of a payload that is refused. -/
inductive Decides (ucd : UnicodeData) (ruleTrie : DomainTrie) (payload : Bytes) : Verdict → Prop
  | refused : Decides ucd ruleTrie payload .refused
  | dropped {domain : Text} {qnameEnd : Nat} {resp : Bytes}
      (parsed : parseDomain ucd payload 12 = .ok (some (domain, qnameEnd)))
      (rules : checkRules ucd domain ruleTrie = .drop)
      (crafted : craftNxdomainResponse payload = some resp) :
      Decides ucd ruleTrie payload (.dropped resp)
  | redirected {domain : Text} {qnameEnd : Nat} {ips : List Text} {resp : Bytes}
      (parsed : parseDomain ucd payload 12 = .ok (some (domain, qnameEnd)))
      (rules : checkRules ucd domain ruleTrie = .redirect ips)
      (crafted : craftRedirectResponse payload qnameEnd ips = .ok (some resp)) :
      Decides ucd ruleTrie payload (.redirected resp)
  | ask {domain : Text} {qnameEnd : Nat} {cacheKey : CacheKey} {first second : UInt8}
      (long : 12 ≤ payload.length)
      (parsed : parseDomain ucd payload 12 = .ok (some (domain, qnameEnd)))
      (rules : checkRules ucd domain ruleTrie = .none)
      (key : cacheKeyFromQuery ucd payload = .ok (some cacheKey))
      (firstFound : payload[0]? = some first) (secondFound : payload[1]? = some second) :
      Decides ucd ruleTrie payload (.ask domain cacheKey first second)

theorem decides_of_verdict {payload : Bytes} {decision : Verdict}
    (reached : verdict ucd ruleTrie payload = .ok decision) :
    Decides ucd ruleTrie payload decision := by
  rw [verdict] at reached
  by_cases short : payload.length < 12
  · rw [if_pos short] at reached
    cases reached
    exact .refused
  rw [if_neg short, bind_eq_ok] at reached
  rcases reached with ⟨name, parsed, reached⟩
  cases name with
  | none =>
      cases reached
      exact .refused
  | some name =>
      rcases name with ⟨domain, qnameEnd⟩
      dsimp only at reached
      cases rules : checkRules ucd domain ruleTrie with
      | drop =>
          rw [rules] at reached
          cases crafted : craftNxdomainResponse payload with
          | none =>
              rw [crafted] at reached
              cases reached
              exact .refused
          | some resp =>
              rw [crafted] at reached
              cases reached
              exact .dropped parsed rules crafted
      | redirect ips =>
          rw [rules] at reached
          rcases bind_eq_ok.mp reached with ⟨reply, crafted, done⟩
          cases reply with
          | none =>
              cases done
              exact .refused
          | some resp =>
              cases done
              exact .redirected parsed rules crafted
      | none =>
          rw [rules] at reached
          rcases bind_eq_ok.mp reached with ⟨found, key, asks⟩
          cases found with
          | none =>
              cases asks
              exact .refused
          | some cacheKey =>
              simp only [bind_eq_ok, index_eq_ok_iff] at asks
              rcases asks with ⟨first, firstFound, second, secondFound, same⟩
              cases same
              exact .ask (Nat.le_of_not_lt short) parsed rules key firstFound secondFound

/-- A payload reaches the cache exactly when it is long enough, its name is read
and matched by no rule, and it has a key. -/
theorem verdict_eq_ask_iff {payload : Bytes} {domain : Text} {cacheKey : CacheKey}
    {first second : UInt8} :
    verdict ucd ruleTrie payload = .ok (.ask domain cacheKey first second) ↔
      12 ≤ payload.length ∧
        (∃ qnameEnd, parseDomain ucd payload 12 = .ok (some (domain, qnameEnd))) ∧
        checkRules ucd domain ruleTrie = .none ∧
        cacheKeyFromQuery ucd payload = .ok (some cacheKey) ∧
        payload[0]? = some first ∧ payload[1]? = some second := by
  constructor
  · intro asks
    cases decides_of_verdict asks with
    | ask long parsed rules key firstFound secondFound =>
        exact ⟨long, ⟨_, parsed⟩, rules, key, firstFound, secondFound⟩
  · rintro ⟨long, ⟨qnameEnd, parsed⟩, rules, key, firstFound, secondFound⟩
    rw [verdict, if_neg (Nat.not_lt.mpr long), parsed, index_eq_ok firstFound,
      index_eq_ok secondFound]
    simp only [bind, Except.bind, pure, Except.pure, rules, key]

/-- The payload passes every check and its key is not cached, so an upstream is
asked. -/
def NeedsUpstream (ucd : UnicodeData) (ruleTrie : DomainTrie) (payload : Bytes)
    (cache : ResponseCache) (now : Nat) : Prop :=
  12 ≤ payload.length ∧ ∃ domain qnameEnd cacheKey,
    parseDomain ucd payload 12 = .ok (some (domain, qnameEnd)) ∧
    checkRules ucd domain ruleTrie = .none ∧
    cacheKeyFromQuery ucd payload = .ok (some cacheKey) ∧
    (cacheLookup cache cacheKey now).1 = none

theorem needsUpstream_iff {payload : Bytes} {cache : ResponseCache} {now : Nat} :
    NeedsUpstream ucd ruleTrie payload cache now ↔
      ∃ domain cacheKey first second,
        verdict ucd ruleTrie payload = .ok (.ask domain cacheKey first second) ∧
        (cacheLookup cache cacheKey now).1 = none := by
  constructor
  · rintro ⟨long, domain, qnameEnd, cacheKey, parsed, rules, key, miss⟩
    have firstFound : payload[0]? = some payload[0] := List.getElem?_eq_getElem (by omega)
    have secondFound : payload[1]? = some payload[1] := List.getElem?_eq_getElem (by omega)
    exact ⟨domain, cacheKey, _, _,
      verdict_eq_ask_iff.mpr ⟨long, ⟨qnameEnd, parsed⟩, rules, key, firstFound, secondFound⟩, miss⟩
  · rintro ⟨domain, cacheKey, first, second, asks, miss⟩
    rcases verdict_eq_ask_iff.mp asks with ⟨long, ⟨qnameEnd, parsed⟩, rules, key, _⟩
    exact ⟨long, domain, qnameEnd, cacheKey, parsed, rules, key, miss⟩

/-- The verdict is reached unless the pointers of the name loop. -/
theorem verdict_returns_iff (ucd : UnicodeData) (ruleTrie : DomainTrie) (payload : Bytes) :
    Returns (verdict ucd ruleTrie payload) ↔
      payload.length < 12 ∨ ¬ PointerLoop payload 12 := by
  rw [verdict]
  by_cases short : payload.length < 12
  · rw [if_pos short]
    simp [pure, Except.pure, short]
  have long := Nat.le_of_not_lt short
  have firstFound : payload[0]? = some payload[0] := List.getElem?_eq_getElem (by omega)
  have secondFound : payload[1]? = some payload[1] := List.getElem?_eq_getElem (by omega)
  rw [if_neg short, index_eq_ok firstFound, index_eq_ok secondFound,
    ← parseDomain_returns_iff ucd, returns_bind]
  constructor
  · rintro ⟨parsed, eq, _⟩
    exact .inr ⟨parsed, eq⟩
  · rintro (tooShort | ⟨parsed, eq⟩)
    · exact absurd tooShort short
    · refine ⟨parsed, eq, ?_⟩
      have loopFree := (parseDomain_returns_iff ucd).mp ⟨parsed, eq⟩
      cases parsed with
      | none => exact returns_ok _
      | some name =>
          rcases name with ⟨domain, qnameEnd⟩
          dsimp only
          cases checkRules ucd domain ruleTrie with
          | drop => cases craftNxdomainResponse payload <;> exact returns_ok _
          | redirect ips =>
              rcases craftRedirectResponse_returns payload qnameEnd ips with ⟨resp, crafted⟩
              simp only [crafted, bind, Except.bind]
              cases resp <;> exact returns_ok _
          | none =>
              rcases (cacheKeyFromQuery_returns_iff ucd payload).mpr loopFree with
                ⟨key, found⟩
              simp only [found, bind, Except.bind]
              cases key <;> exact returns_ok _

/-! ## The verdict on a query -/

theorem craftFlagged_query (query : Query) (low : UInt8) :
    craftFlagged low query.encode = some (query.withFlags 0x81 low).encode := by
  rw [craftFlagged, if_neg (Nat.not_lt.mpr query.twelve_le_length), query.set_flags]

/-- The verdict on an encoded query. -/
theorem verdict_query (query : Query) :
    verdict ucd ruleTrie query.encode =
      .ok (if ∀ label ∈ query.question.labels, label.IsUtf8 then
        match checkRules ucd (dottedName ucd query.question.labels) ruleTrie with
        | .drop => .dropped (query.withFlags 0x81 0x83).encode
        | .redirect ips =>
            if ips.filterMap parseIpv4 = [] then .refused
            else .redirected (redirectBytes query (ips.filterMap parseIpv4))
        | .none =>
            .ask (dottedName ucd query.question.labels) (questionKey ucd query.question)
              (UInt8.ofNat (query.txid.toNat / 256)) (UInt8.ofNat (query.txid.toNat % 256))
      else .refused) := by
  have first : index query.encode 0 = .ok (UInt8.ofNat (query.txid.toNat / 256)) := rfl
  have second : index query.encode 1 = .ok (UInt8.ofNat (query.txid.toNat % 256)) := rfl
  rw [verdict, if_neg (Nat.not_lt.mpr query.twelve_le_length), parseDomain_query,
    cacheKeyFromQuery_query, first, second]
  simp only [bind, Except.bind, pure, Except.pure]
  by_cases utf8 : ∀ label ∈ query.question.labels, label.IsUtf8
  · rw [if_pos utf8, if_pos utf8, if_pos utf8]
    dsimp only
    cases checkRules ucd (dottedName ucd query.question.labels) ruleTrie with
    | drop =>
        dsimp only
        rw [craftNxdomainResponse, craftFlagged_query]
    | redirect ips =>
        dsimp only
        rw [craftRedirectResponse_query]
        by_cases empty : ips.filterMap parseIpv4 = []
        · rw [if_pos empty, if_pos empty]
        · rw [if_neg empty, if_neg empty]
    | none => rfl
  · rw [if_neg utf8, if_neg utf8, if_neg utf8]

end DnsHijacker.Shared
