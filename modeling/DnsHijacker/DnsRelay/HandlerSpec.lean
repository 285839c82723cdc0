import DnsHijacker.DnsRelay.Handler
import DnsHijacker.Shared.Verdict

/-!
# The relay's pipeline by its verdict

`beginResolve` is the verdict followed by `receive`, which is all that looks at the
shared state; `finishResolve` stores a reply or makes a SERVFAIL.
-/

namespace DnsHijacker.DnsRelay

open DnsHijacker.Rust
open DnsHijacker.Library
open DnsHijacker.Shared
open DnsHijacker.Shared.Dns

variable {ucd : UnicodeData} {ruleTrie : DomainTrie}

/-! ## Before the upstream call -/

/-- What the relay does with a verdict. -/
def receive (now : Nat) (state : RelayState) : Verdict → Begun × RelayState
  | .refused => (.answered none, state)
  | .dropped resp => (.answered (some resp), state.incr .incrDrop)
  | .redirected resp => (.answered (some resp), state.incr .incrRedirect)
  | .ask domain cacheKey first second =>
      match cacheLookup state.cache cacheKey now with
      | (some cached, cache) =>
          (.answered (some (withTxid cached first second)),
            { state with cache }.incr .incrCached)
      | (none, cache) => (.forward domain cacheKey, { state with cache })

/-- `resolve_query` up to the upstream call is the verdict and what is done with
it. -/
theorem beginResolve_eq (payload : Bytes) (now : Nat) (state : RelayState) :
    beginResolve ucd ruleTrie payload now state =
      (verdict ucd ruleTrie payload).map (receive now state) := by
  rw [beginResolve, verdict]
  by_cases short : payload.length < 12
  · rw [if_pos short, if_pos short]
    rfl
  have firstFound : payload[0]? = some payload[0] := List.getElem?_eq_getElem (by omega)
  have secondFound : payload[1]? = some payload[1] := List.getElem?_eq_getElem (by omega)
  rw [if_neg short, if_neg short, index_eq_ok firstFound, index_eq_ok secondFound]
  simp only [bind, Except.bind, pure, Except.pure]
  cases parseDomain ucd payload 12 with
  | error fault => rfl
  | ok name =>
      cases name with
      | none => rfl
      | some name =>
          rcases name with ⟨domain, qnameEnd⟩
          dsimp only
          cases checkRules ucd domain ruleTrie with
          | drop =>
              dsimp only
              cases craftNxdomainResponse payload <;> rfl
          | redirect ips =>
              dsimp only
              cases craftRedirectResponse payload qnameEnd ips with
              | error fault => rfl
              | ok resp => cases resp <;> rfl
          | none =>
              dsimp only
              cases cacheKeyFromQuery ucd payload with
              | error fault => rfl
              | ok key =>
                  cases key with
                  | none => rfl
                  | some key =>
                      dsimp only [Except.map, receive]
                      rcases cacheLookup state.cache key now with ⟨hit, cache⟩
                      cases hit <;> rfl

/-- The first half comes to an end through a verdict. -/
theorem beginResolve_eq_ok {payload : Bytes} {now : Nat} {state after : RelayState}
    {begun : Begun} (began : beginResolve ucd ruleTrie payload now state = .ok (begun, after)) :
    ∃ decision, verdict ucd ruleTrie payload = .ok decision ∧
      receive now state decision = (begun, after) := by
  rw [beginResolve_eq] at began
  cases reached : verdict ucd ruleTrie payload with
  | error fault => simp [reached, Except.map] at began
  | ok decision =>
      rw [reached] at began
      exact ⟨decision, rfl, Except.ok.inj began⟩

/-- What is done with a verdict removes entries at most. -/
theorem mem_receive {now : Nat} {state : RelayState} {decision : Verdict}
    {entry : CacheKey × CacheEntry}
    (mem : entry ∈ (receive now state decision).2.cache.entries) :
    entry ∈ state.cache.entries := by
  cases decision with
  | refused => exact mem
  | dropped resp => exact mem
  | redirected resp => exact mem
  | ask domain cacheKey first second =>
      have kept : entry ∈ (cacheLookup state.cache cacheKey now).2.entries →
          entry ∈ state.cache.entries := mem_cacheLookup
      rw [receive] at mem
      rcases looked : cacheLookup state.cache cacheKey now with ⟨hit, cache⟩
      rw [looked] at mem kept
      cases hit with
      | none => exact kept mem
      | some cached => exact kept mem

/-- Only a verdict that asks the cache leads to an upstream. -/
theorem receive_eq_forward {now : Nat} {state after : RelayState} {decision : Verdict}
    {domain : Text} {cacheKey : CacheKey}
    (forwarded : receive now state decision = (.forward domain cacheKey, after)) :
    ∃ first second, decision = .ask domain cacheKey first second := by
  cases decision with
  | refused => simp [receive] at forwarded
  | dropped resp => simp [receive] at forwarded
  | redirected resp => simp [receive] at forwarded
  | ask name key first second =>
      rw [receive] at forwarded
      rcases looked : cacheLookup state.cache key now with ⟨hit, cache⟩
      rw [looked] at forwarded
      cases hit with
      | some cached => simp at forwarded
      | none =>
          simp only [Prod.mk.injEq, Begun.forward.injEq] at forwarded
          rcases forwarded with ⟨⟨rfl, rfl⟩, _⟩
          exact ⟨first, second, rfl⟩

theorem mem_beginResolve {payload : Bytes} {now : Nat} {state after : RelayState} {begun : Begun}
    (began : beginResolve ucd ruleTrie payload now state = .ok (begun, after))
    {entry : CacheKey × CacheEntry} (mem : entry ∈ after.cache.entries) :
    entry ∈ state.cache.entries := by
  rcases beginResolve_eq_ok began with ⟨decision, _, received⟩
  apply mem_receive
  rw [received]
  exact mem

/-- The key a query is forwarded under is its own. -/
theorem cacheKey_of_forward {payload : Bytes} {now : Nat} {state after : RelayState}
    {domain : Text} {cacheKey : CacheKey}
    (began : beginResolve ucd ruleTrie payload now state =
      .ok (.forward domain cacheKey, after)) :
    cacheKeyFromQuery ucd payload = .ok (some cacheKey) := by
  rcases beginResolve_eq_ok began with ⟨decision, reached, received⟩
  rcases receive_eq_forward received with ⟨first, second, rfl⟩
  cases decides_of_verdict reached with
  | ask long parsed rules key firstFound secondFound => exact key

/-! ## After the upstream call -/

theorem pushHistory_returns (history : Option (List (Text × List Text))) (domain : Text)
    (reply : Bytes) : Returns (pushHistory history domain reply) := by
  cases history with
  | none => exact returns_ok none
  | some pushes =>
      rcases parseARecords_returns reply with ⟨aRecords, parsed⟩
      rw [pushHistory, parsed]
      exact returns_ok _

/-- The second half either stores and passes on a reply or makes a SERVFAIL and
leaves the cache alone. -/
theorem finishResolve_eq_ok {payload : Bytes} {domain : Text} {cacheKey : CacheKey}
    {resolveResult : Except Error Bytes} {now : Nat} {state after : RelayState}
    {reply : Option Bytes}
    (finished : finishResolve ucd payload domain cacheKey resolveResult now state =
      .ok (reply, after)) :
    (∃ replyBuf first second, resolveResult = .ok replyBuf ∧ payload[0]? = some first ∧
      payload[1]? = some second ∧ reply = some (withTxid replyBuf first second) ∧
        cacheStore ucd state.cache cacheKey replyBuf now = .ok after.cache) ∨
    (∃ error, resolveResult = .error error ∧ reply = craftServfailResponse payload ∧
      after.cache = state.cache) := by
  cases resolveResult with
  | error error =>
      right
      refine ⟨error, rfl, ?_⟩
      cases error <;> cases finished <;> exact ⟨rfl, rfl⟩
  | ok replyBuf =>
      left
      simp only [finishResolve, bind_eq_ok] at finished
      rcases finished with
        ⟨first, firstRead, second, secondRead, cache, stored, history, _, same⟩
      cases same
      exact ⟨replyBuf, first, second, rfl, index_eq_ok_iff.mp firstRead,
        index_eq_ok_iff.mp secondRead, rfl, stored⟩

/-- The second half returns exactly if the lifetime of the reply can be
computed. -/
theorem finishResolve_returns_iff {payload : Bytes} (long : 12 ≤ payload.length) (domain : Text)
    (cacheKey : CacheKey) (resolveResult : Except Error Bytes) (now : Nat) (state : RelayState) :
    Returns (finishResolve ucd payload domain cacheKey resolveResult now state) ↔
      ∀ replyBuf, resolveResult = .ok replyBuf → Returns (minAnswerTtl ucd replyBuf) := by
  constructor
  · rintro ⟨⟨reply, after⟩, finished⟩ replyBuf ok
    rcases finishResolve_eq_ok finished with ⟨_, _, _, same, _, _, _, stored⟩ | ⟨_, failed, _⟩
    · rw [ok, Except.ok.injEq] at same
      subst same
      simp only [cacheStore, packetTtl, bind_eq_ok] at stored
      rcases stored with ⟨_, ⟨ttl, found, _⟩, _⟩
      exact ⟨ttl, found⟩
    · rw [ok] at failed
      contradiction
  · intro ttlReturns
    cases resolveResult with
    | error error => cases error <;> exact returns_ok _
    | ok replyBuf =>
        rcases ttlReturns replyBuf rfl with ⟨ttl, found⟩
        rcases pushHistory_returns state.history domain replyBuf with ⟨history, pushed⟩
        have stored : Returns (cacheStore ucd state.cache cacheKey replyBuf now) := by
          rw [cacheStore, packetTtl, found]
          cases ttl <;> exact returns_ok _
        rcases stored with ⟨cache, stored⟩
        simp only [finishResolve, index_of_lt (by omega : 0 < payload.length),
          index_of_lt (by omega : 1 < payload.length), stored, pushed, bind, Except.bind]
        exact returns_ok _

/-! ## The whole pipeline -/

/-- A query is forwarded exactly if it needs an upstream. -/
theorem beginResolve_forward_iff {payload : Bytes} {now : Nat} {state : RelayState} :
    (∃ domain cacheKey after,
      beginResolve ucd ruleTrie payload now state = .ok (.forward domain cacheKey, after)) ↔
      NeedsUpstream ucd ruleTrie payload state.cache now := by
  rw [needsUpstream_iff]
  constructor
  · rintro ⟨domain, cacheKey, after, forwarded⟩
    rcases beginResolve_eq_ok forwarded with ⟨decision, reached, received⟩
    rcases receive_eq_forward received with ⟨first, second, rfl⟩
    refine ⟨domain, cacheKey, first, second, reached, ?_⟩
    rcases looked : cacheLookup state.cache cacheKey now with ⟨hit, cache⟩
    rw [receive, looked] at received
    cases hit with
    | none => rfl
    | some cached => simp at received
  · rintro ⟨domain, cacheKey, first, second, asks, miss⟩
    rcases looked : cacheLookup state.cache cacheKey now with ⟨hit, cache⟩
    rw [looked] at miss
    cases miss
    refine ⟨domain, cacheKey, { state with cache }, ?_⟩
    rw [beginResolve_eq, asks, Except.map, receive, looked]

/-- A query gets to an end exactly if its own name has no pointer loop and, when
an upstream is asked, the lifetime of the reply can be computed. -/
theorem resolveQuery_returns_iff_minAnswerTtl {payload : Bytes}
    {resolveResult : Except Error Bytes} {now later : Nat} {state : RelayState} :
    Returns (resolveQuery ucd ruleTrie payload resolveResult now later state) ↔
      (payload.length < 12 ∨ ¬ PointerLoop payload 12) ∧
        (NeedsUpstream ucd ruleTrie payload state.cache now →
          ∀ replyBuf, resolveResult = .ok replyBuf → Returns (minAnswerTtl ucd replyBuf)) := by
  rw [resolveQuery, returns_bind, ← verdict_returns_iff ucd ruleTrie,
    ← returns_map (f := receive now state), ← beginResolve_eq, ← beginResolve_forward_iff]
  constructor
  · rintro ⟨⟨begun, middle⟩, began, rest⟩
    constructor
    · exact ⟨_, began⟩
    · rintro ⟨domain, cacheKey, after, forwarded⟩
      rw [forwarded] at began
      cases began
      have long := (beginResolve_forward_iff.mp ⟨domain, cacheKey, _, forwarded⟩).1
      exact (finishResolve_returns_iff long domain cacheKey resolveResult later _).mp rest
  · rintro ⟨⟨⟨begun, middle⟩, began⟩, ttlReturns⟩
    refine ⟨_, began, ?_⟩
    cases begun with
    | answered reply => exact returns_ok _
    | forward domain cacheKey =>
        have long := (beginResolve_forward_iff.mp ⟨domain, cacheKey, _, began⟩).1
        exact (finishResolve_returns_iff long domain cacheKey resolveResult later middle).mpr
          (ttlReturns ⟨domain, cacheKey, middle, began⟩)

end DnsHijacker.DnsRelay
