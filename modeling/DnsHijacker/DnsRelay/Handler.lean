import DnsHijacker.DnsRelay.Upstream

/-!
# The query pipeline of the relay

`resolve_query` runs without a break up to the point where it waits for an
upstream, and again from the reply on.  Other queries run in between, so the
pipeline is two functions: `beginResolve` answers a query or decides to forward it, and
`finishResolve` takes the outcome.
-/

namespace DnsHijacker.DnsRelay

open DnsHijacker.Rust
open DnsHijacker.Shared
open DnsHijacker.Shared.Dns

/-- What the handler shares between queries: the cache, the counters if they are
enabled, and the calls of `push_many` on the history buffer if there is one. -/
structure RelayState where
  cache : ResponseCache
  metrics : Option MetricWrapper
  history : Option (List (Text × List Text))

namespace RelayState

/-- `incr_metric!` -/
def incr (state : RelayState) (counter : MetricWrapper → MetricWrapper) : RelayState :=
  { state with metrics := state.metrics.map counter }

@[simp]
theorem cache_incr (state : RelayState) (counter : MetricWrapper → MetricWrapper) :
    (state.incr counter).cache = state.cache :=
  rfl

end RelayState

/-- The result of the first half of `resolve_query`. -/
inductive Begun where
  /-- The function returns without asking an upstream. -/
  | answered (reply : Option Bytes)
  /-- The query is forwarded; these values are used when the reply is there. -/
  | forward (domain : Text) (cacheKey : CacheKey)
  deriving DecidableEq

variable (ucd : UnicodeData)

/-- `resolve_query` up to the upstream call. -/
def beginResolve (ruleTrie : DomainTrie) (payload : Bytes) (now : Nat) (state : RelayState) :
    Exec (Begun × RelayState) := do
  if payload.length < 12 then return (.answered none, state)
  match ← parseDomain ucd payload 12 with
  | none => return (.answered none, state)
  | some (domain, qnameEnd) =>
      match checkRules ucd domain ruleTrie with
      | .drop =>
          match craftNxdomainResponse payload with
          | none => return (.answered none, state)
          | some resp => return (.answered (some resp), state.incr .incrDrop)
      | .redirect ips =>
          match ← craftRedirectResponse payload qnameEnd ips with
          | none => return (.answered none, state)
          | some resp => return (.answered (some resp), state.incr .incrRedirect)
      | .none =>
          match ← cacheKeyFromQuery ucd payload with
          | none => return (.answered none, state)
          | some cacheKey =>
              let first ← index payload 0
              let second ← index payload 1
              match cacheLookup state.cache cacheKey now with
              | (some cached, cache) =>
                  return (.answered (some (withTxid cached first second)),
                    { state with cache }.incr .incrCached)
              | (none, cache) => return (.forward domain cacheKey, { state with cache })

/-- The call on the history buffer for a reply.  It is written down here, and what `push_many` does
with it is in `HistoryBuffer`: the bounded queue, and the wait while that is full. -/
def pushHistory (history : Option (List (Text × List Text))) (domain : Text) (reply : Bytes) :
    Exec (Option (List (Text × List Text))) :=
  match history with
  | none => return none
  | some pushes => do
      let aRecords ← parseARecords reply
      return some (pushes ++ [(domain, aRecords.map Ipv4Addr.toText)])

/-- `resolve_query` from the result of the upstream call on. -/
def finishResolve (payload : Bytes) (domain : Text) (cacheKey : CacheKey)
    (resolveResult : Except Error Bytes) (now : Nat) (state : RelayState) :
    Exec (Option Bytes × RelayState) :=
  match resolveResult with
  | .ok replyBuf => do
      let first ← index payload 0
      let second ← index payload 1
      let cache ← cacheStore ucd state.cache cacheKey replyBuf now
      let history ← pushHistory state.history domain replyBuf
      return (some (withTxid replyBuf first second),
        { state with cache, history }.incr .incrResolved)
  | .error .resolveTimeout =>
      return (craftServfailResponse payload, state.incr .incrTimeout)
  | .error _ => return (craftServfailResponse payload, state.incr .incrFailed)

/-- `resolve_query` when nothing else runs in between; the upstream call ends at
time `later`. -/
def resolveQuery (ruleTrie : DomainTrie) (payload : Bytes) (resolveResult : Except Error Bytes)
    (now later : Nat) (state : RelayState) : Exec (Option Bytes × RelayState) := do
  match ← beginResolve ucd ruleTrie payload now state with
  | (.answered reply, state) => return (reply, state)
  | (.forward domain cacheKey, state) =>
      finishResolve ucd payload domain cacheKey resolveResult later state

end DnsHijacker.DnsRelay
