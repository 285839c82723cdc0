import DnsHijacker.DnsRelay.HandlerSpec
import DnsHijacker.ResolverProxy.Handler

/-!
# The proxy against the relay

Both pipelines begin with the same verdict and treat it alike up to the upstream
call.  They part where that call fails: the relay answers SERVFAIL, the proxy
makes the same packet and drops it.
-/

namespace DnsHijacker.ResolverProxy

open DnsHijacker.Rust
open DnsHijacker.Library
open DnsHijacker.Wire
open DnsHijacker.Shared
open DnsHijacker.Shared.Dns
open DnsHijacker.DnsRelay (RelayState resolveQuery finishResolve)

variable {ucd : UnicodeData} {ruleTrie : DomainTrie}

/-- The proxy sends what the relay returns, and both leave the same cache, if
they come to an end at all. -/
def Agree (ucd : UnicodeData) (ruleTrie : DomainTrie) (payload : Bytes)
    (outcome : Except Error Bytes) (now later : Nat) (proxy : ProxyState) (relay : RelayState) :
    Prop :=
  (handleQuery ucd ruleTrie payload outcome now later proxy).map
      (fun done => (done.1, done.2.cache)) =
    (resolveQuery ucd ruleTrie payload outcome now later relay).map
      (fun done => (done.1.toList, done.2.cache))

/-- The relay's pipeline by its verdict. -/
theorem resolveQuery_eq (payload : Bytes) (outcome : Except Error Bytes) (now later : Nat)
    (relay : RelayState) :
    resolveQuery ucd ruleTrie payload outcome now later relay =
      (verdict ucd ruleTrie payload).bind fun decision =>
        match DnsRelay.receive now relay decision with
        | (.answered reply, after) => .ok (reply, after)
        | (.forward domain cacheKey, after) =>
            finishResolve ucd payload domain cacheKey outcome later after := by
  rw [resolveQuery, DnsRelay.beginResolve_eq]
  cases verdict ucd ruleTrie payload with
  | error fault => rfl
  | ok decision => rfl

/-- Both second halves treat a reply alike. -/
theorem finish_ok {payload : Bytes} {first second : UInt8} (firstFound : payload[0]? = some first)
    (secondFound : payload[1]? = some second) (domain : Text) (cacheKey : CacheKey)
    (replyBuf : Bytes) (later : Nat) (proxy : ProxyState) (relay : RelayState)
    (sameCache : proxy.cache = relay.cache) :
    (finishQuery ucd payload cacheKey first second (.ok replyBuf) later proxy).map
        (fun done => (done.1, done.2.cache)) =
      (finishResolve ucd payload domain cacheKey (.ok replyBuf) later relay).map
        (fun done => (done.1.toList, done.2.cache)) := by
  rcases DnsRelay.pushHistory_returns relay.history domain replyBuf with ⟨history, pushed⟩
  rw [finishQuery, finishResolve, index_eq_ok firstFound, index_eq_ok secondFound, pushed,
    sameCache]
  simp only [bind, Except.bind, pure, Except.pure]
  cases cacheStore ucd relay.cache cacheKey replyBuf later with
  | error fault => rfl
  | ok cache => rfl

/-- After an error the relay has a reply and the proxy sends nothing. -/
theorem finish_error {payload : Bytes} (long : 12 ≤ payload.length) (domain : Text)
    (cacheKey : CacheKey) (first second : UInt8) (error : Error) (later : Nat)
    (proxy : ProxyState) (relay : RelayState) :
    (finishQuery ucd payload cacheKey first second (.error error) later proxy).map
        (fun done => (done.1, done.2.cache)) ≠
      (finishResolve ucd payload domain cacheKey (.error error) later relay).map
        (fun done => (done.1.toList, done.2.cache)) := by
  have crafted : craftServfailResponse payload = some ((payload.set 2 0x81).set 3 0x82) := by
    rw [craftServfailResponse, craftFlagged, if_neg (Nat.not_lt.mpr long)]
  rw [finishQuery]
  cases error <;> simp [finishResolve, crafted, Except.map, pure, Except.pure]

/-- From equal caches the pipelines agree exactly if the forwarding succeeds or
is not needed. -/
theorem agree_iff (ucd : UnicodeData) (ruleTrie : DomainTrie) (payload : Bytes)
    (outcome : Except Error Bytes) (now later : Nat) (cache : ResponseCache)
    (proxyMetrics relayMetrics : Option MetricWrapper)
    (history : Option (List (Text × List Text))) :
    Agree ucd ruleTrie payload outcome now later ⟨cache, proxyMetrics⟩
        ⟨cache, relayMetrics, history⟩ ↔
      (∃ replyBuf, outcome = .ok replyBuf) ∨
        ¬ NeedsUpstream ucd ruleTrie payload cache now := by
  rw [Agree, handleQuery_eq, resolveQuery_eq, needsUpstream_iff]
  cases reached : verdict ucd ruleTrie payload with
  | error fault => simp [bind, Except.bind, Except.map]
  | ok decision =>
      cases decision with
      | refused => simp [bind, Except.bind, Except.map, serve, DnsRelay.receive]
      | dropped resp => simp [bind, Except.bind, Except.map, serve, DnsRelay.receive]
      | redirected resp => simp [bind, Except.bind, Except.map, serve, DnsRelay.receive]
      | ask domain cacheKey first second =>
          rcases verdict_eq_ask_iff.mp reached with ⟨long, _, _, _, firstFound, secondFound⟩
          simp only [bind, Except.bind, serve, DnsRelay.receive]
          rcases looked : cacheLookup cache cacheKey now with ⟨hit, after⟩
          cases hit with
          | some cached =>
              constructor
              · intro _
                right
                rintro ⟨_, _, _, _, same, miss⟩
                cases same
                rw [looked] at miss
                contradiction
              · intro _
                rfl
          | none =>
              dsimp only
              constructor
              · intro agree
                left
                cases outcome with
                | ok replyBuf => exact ⟨replyBuf, rfl⟩
                | error error =>
                    exact absurd agree (finish_error long domain cacheKey first second error later _ _)
              · rintro (⟨replyBuf, rfl⟩ | noUpstream)
                · exact finish_ok firstFound secondFound domain cacheKey replyBuf later _ _ rfl
                · exact absurd ⟨domain, cacheKey, first, second, rfl, by rw [looked]⟩ noUpstream

/-- On a timeout for the name `a` the relay answers SERVFAIL and the proxy stays
silent. -/
theorem agree_timeout :
    ¬ Agree .ascii Trie.empty (bareQuery [labelA] 1).encode (.error .resolveTimeout) 0 0
        ⟨newCache, none⟩ ⟨newCache, none, none⟩ ∧
      (handleQuery .ascii Trie.empty (bareQuery [labelA] 1).encode (.error .resolveTimeout) 0 0
        ⟨newCache, none⟩).map Prod.fst = .ok [] ∧
      (resolveQuery .ascii Trie.empty (bareQuery [labelA] 1).encode (.error .resolveTimeout) 0 0
        ⟨newCache, none, none⟩).map Prod.fst =
        .ok (some ((bareQuery [labelA] 1).withFlags 0x81 0x82).encode) := by
  have silent : (handleQuery .ascii Trie.empty (bareQuery [labelA] 1).encode
      (.error .resolveTimeout) 0 0 ⟨newCache, none⟩).map Prod.fst = .ok [] := by
    decide +kernel
  have answers : (resolveQuery .ascii Trie.empty (bareQuery [labelA] 1).encode
      (.error .resolveTimeout) 0 0 ⟨newCache, none, none⟩).map Prod.fst =
        .ok (some ((bareQuery [labelA] 1).withFlags 0x81 0x82).encode) := by
    decide +kernel
  refine ⟨?_, silent, answers⟩
  intro agree
  have sameReply := congrArg (Except.map Prod.fst) agree
  generalize handleQuery .ascii Trie.empty (bareQuery [labelA] 1).encode
    (.error .resolveTimeout) 0 0 ⟨newCache, none⟩ = proxyRun at sameReply silent
  generalize resolveQuery .ascii Trie.empty (bareQuery [labelA] 1).encode
    (.error .resolveTimeout) 0 0 ⟨newCache, none, none⟩ = relayRun at sameReply answers
  cases proxyRun <;> cases relayRun <;> simp_all [Except.map]

end DnsHijacker.ResolverProxy
