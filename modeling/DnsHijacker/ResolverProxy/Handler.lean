import DnsHijacker.Shared.Verdict

/-!
# The query pipeline of the proxy

`handle_query` of the proxy is a copy of the relay's pipeline that sends its
replies itself.  An outcome of `forward_query` is a parameter here, as the
result of the upstream call is in the relay.
-/

namespace DnsHijacker.ResolverProxy

open DnsHijacker.Rust
open DnsHijacker.Shared
open DnsHijacker.Shared.Dns

/-- What the handler shares between queries. -/
structure ProxyState where
  cache : ResponseCache
  metrics : Option MetricWrapper

/-- `incr_metric!` -/
def ProxyState.incr (state : ProxyState) (counter : MetricWrapper → MetricWrapper) : ProxyState :=
  { state with metrics := state.metrics.map counter }

@[simp]
theorem ProxyState.cache_incr (state : ProxyState) (counter : MetricWrapper → MetricWrapper) :
    (state.incr counter).cache = state.cache :=
  rfl

variable (ucd : UnicodeData)

/-- `handle_query` from the outcome of `forward_query` on: the datagrams it sends
and the state it leaves. -/
def finishQuery (payload : Bytes) (cacheKey : CacheKey) (first second : UInt8)
    (forwardResult : Except Error Bytes) (now : Nat) (state : ProxyState) :
    Exec (List Bytes × ProxyState) :=
  match forwardResult with
  | .ok replyBuf => do
      let cache ← cacheStore ucd state.cache cacheKey replyBuf now
      return ([withTxid replyBuf first second], { state with cache }.incr .incrResolved)
  | .error _ =>
      -- The reply is made and not sent.
      let _ := craftServfailResponse payload
      return ([], state.incr .incrFailed)

/-- `handle_query`; the forwarding ends at time `later`. -/
def handleQuery (ruleTrie : DomainTrie) (payload : Bytes) (forwardResult : Except Error Bytes)
    (now later : Nat) (state : ProxyState) : Exec (List Bytes × ProxyState) := do
  if payload.length < 12 then return ([], state)
  match ← parseDomain ucd payload 12 with
  | none => return ([], state)
  | some (domain, qnameEnd) =>
      match checkRules ucd domain ruleTrie with
      | .drop =>
          match craftNxdomainResponse payload with
          | some resp => return ([resp], state.incr .incrDrop)
          | none => return ([], state)
      | .redirect ips =>
          match ← craftRedirectResponse payload qnameEnd ips with
          | some resp => return ([resp], state.incr .incrRedirect)
          | none => return ([], state)
      | .none =>
          match ← cacheKeyFromQuery ucd payload with
          | none => return ([], state)
          | some cacheKey =>
              let first ← index payload 0
              let second ← index payload 1
              match cacheLookup state.cache cacheKey now with
              | (some cached, cache) =>
                  return ([withTxid cached first second], { state with cache }.incr .incrCached)
              | (none, cache) =>
                  finishQuery ucd payload cacheKey first second forwardResult later
                    { state with cache }

variable {ucd} {ruleTrie : DomainTrie}

/-- What the proxy does with a verdict. -/
def serve (ucd : UnicodeData) (payload : Bytes) (forwardResult : Except Error Bytes)
    (now later : Nat) (state : ProxyState) : Verdict → Exec (List Bytes × ProxyState)
  | .refused => .ok ([], state)
  | .dropped resp => .ok ([resp], state.incr .incrDrop)
  | .redirected resp => .ok ([resp], state.incr .incrRedirect)
  | .ask _ cacheKey first second =>
      match cacheLookup state.cache cacheKey now with
      | (some cached, cache) =>
          .ok ([withTxid cached first second], { state with cache }.incr .incrCached)
      | (none, cache) =>
          finishQuery ucd payload cacheKey first second forwardResult later { state with cache }

/-- The proxy's pipeline is the verdict and what is done with it. -/
theorem handleQuery_eq (payload : Bytes) (forwardResult : Except Error Bytes) (now later : Nat)
    (state : ProxyState) :
    handleQuery ucd ruleTrie payload forwardResult now later state =
      verdict ucd ruleTrie payload >>= serve ucd payload forwardResult now later state := by
  rw [handleQuery, verdict]
  by_cases short : payload.length < 12
  · rw [if_pos short, if_pos short]
    rfl
  have firstFound : payload[0]? = some payload[0] := List.getElem?_eq_getElem (by omega)
  have secondFound : payload[1]? = some payload[1] := List.getElem?_eq_getElem (by omega)
  rw [if_neg short, if_neg short, index_eq_ok firstFound, index_eq_ok secondFound]
  simp only [bind, Except.bind, pure, Except.pure]
  cases parseDomain ucd payload 12 with
  | error fault => rfl
  | ok name =>
      cases name with
      | none => rfl
      | some name =>
          rcases name with ⟨domain, qnameEnd⟩
          dsimp only
          cases checkRules ucd domain ruleTrie with
          | drop =>
              dsimp only
              cases craftNxdomainResponse payload <;> rfl
          | redirect ips =>
              dsimp only
              cases craftRedirectResponse payload qnameEnd ips with
              | error fault => rfl
              | ok resp => cases resp <;> rfl
          | none =>
              dsimp only
              cases cacheKeyFromQuery ucd payload with
              | error fault => rfl
              | ok key => cases key <;> rfl

end DnsHijacker.ResolverProxy
