import DnsHijacker.DnsRelay.Server
import DnsHijacker.ResolverProxy.Handler

/-!
# The proxy in front of the relay

A query that the proxy does not answer itself goes to the relay, and the relay's
reply comes back to it.  Each program keeps replies in a cache of its own.  The
relay answers a failed upstream call with a SERVFAIL that it does not keep; to
the proxy that is a reply like any other.

The network between the two may lose a datagram, deliver it late or deliver it
twice.  A call of the proxy can ask the relay more than once, since
`forward_query` goes through all targets.
-/

namespace DnsHijacker.ResolverProxy

open DnsHijacker.Rust
open DnsHijacker.Library
open DnsHijacker.Wire
open DnsHijacker.Shared
open DnsHijacker.Shared.Dns
open DnsHijacker.DnsRelay (Aead Delivery Server Provenance Delivered RelayState beginResolve)

variable (ucd : UnicodeData) (aead : Aead)

/-! ## The halves of `handle_query` -/

/-- The result of the first half of `handle_query`. -/
inductive Entered where
  /-- The function sends these replies and returns. -/
  | sent (replies : List Bytes)
  /-- The query is forwarded; these values are used when the reply is there. -/
  | forward (cacheKey : CacheKey) (first second : UInt8)

/-- What the proxy does with a verdict before it forwards the query. -/
def enter (now : Nat) (state : ProxyState) : Verdict → Entered × ProxyState
  | .refused => (.sent [], state)
  | .dropped resp => (.sent [resp], state.incr .incrDrop)
  | .redirected resp => (.sent [resp], state.incr .incrRedirect)
  | .ask _ cacheKey first second =>
      match cacheLookup state.cache cacheKey now with
      | (some cached, cache) =>
          (.sent [withTxid cached first second], { state with cache }.incr .incrCached)
      | (none, cache) => (.forward cacheKey first second, { state with cache })

/-- `handle_query` up to `forward_query`. -/
def beginQuery (ruleTrie : DomainTrie) (payload : Bytes) (now : Nat) (state : ProxyState) :
    Exec (Entered × ProxyState) :=
  (verdict ucd ruleTrie payload).map (enter now state)

/-- `handle_query` is its two halves. -/
theorem handleQuery_eq_halves (ruleTrie : DomainTrie) (payload : Bytes)
    (forwardResult : Except Error Bytes) (now later : Nat) (state : ProxyState) :
    handleQuery ucd ruleTrie payload forwardResult now later state =
      beginQuery ucd ruleTrie payload now state >>= fun
        | (.sent replies, state) => .ok (replies, state)
        | (.forward cacheKey first second, state) =>
            finishQuery ucd payload cacheKey first second forwardResult later state := by
  rw [handleQuery_eq, beginQuery]
  cases verdict ucd ruleTrie payload with
  | error fault => rfl
  | ok decision =>
      cases decision with
      | refused => rfl
      | dropped resp => rfl
      | redirected resp => rfl
      | ask domain cacheKey first second =>
          simp only [bind, Except.bind, Except.map, serve, enter]
          rcases cacheLookup state.cache cacheKey now with ⟨hit, cache⟩
          cases hit <;> rfl

/-! ## The machine -/

/-- A call of `forward_query` and what it is waited for with. -/
structure ProxyCall where
  id : Nat
  payload : Bytes
  cacheKey : CacheKey
  first : UInt8
  second : UInt8
  deriving DecidableEq

/-- A reply of the relay to a call; `crafted` says that the relay made it after
its own upstream call had failed. -/
structure RelayReply where
  call : ProxyCall
  content : Bytes
  crafted : Bool

structure Chain where
  proxy : ProxyState
  count : Nat
  waiting : List ProxyCall
  relay : Server
  /-- The queries the relay has received, with the calls they came from. -/
  asked : List (Nat × ProxyCall)
  replies : List RelayReply
  sent : List (Bytes × List Bytes)

def Chain.start (proxyMetrics relayMetrics : Option MetricWrapper)
    (history : Option (List (Text × List Text))) : Chain where
  proxy := ⟨newCache, proxyMetrics⟩
  count := 0
  waiting := []
  relay := Server.start relayMetrics history
  asked := []
  replies := []
  sent := []

inductive ChainEvent where
  /-- A client asks the proxy. -/
  | ask (ruleTrie : DomainTrie) (payload : Bytes) (now : Nat)
  /-- The datagram of a call reaches the relay, as the relay's query `rid`. -/
  | forward (id rid : Nat) (ruleTrie : DomainTrie) (now : Nat)
  /-- The relay's upstream call for its query `rid` ends. -/
  | upstream (rid : Nat) (delivery : Delivery) (now : Nat)
  /-- The reply number `n` of the relay reaches its call. -/
  | reply (n : Nat) (now : Nat)
  /-- A call fails. -/
  | failed (id : Nat) (error : Error) (now : Nat)

/-- The reply the relay has sent in a step. -/
def newReply (before after : Server) : Option Bytes :=
  if after.served.length = before.served.length then none
  else after.served.head?.bind DnsRelay.Served.reply

/-- The end of a call of `forward_query`. -/
def Chain.finish (chain : Chain) (call : ProxyCall) (forwardResult : Except Error Bytes)
    (now : Nat) : Option Chain :=
  match finishQuery ucd call.payload call.cacheKey call.first call.second forwardResult now
    chain.proxy with
  | .error _ => none
  | .ok (replies, proxy) =>
      some { chain with
        proxy
        waiting := chain.waiting.filter (· ≠ call)
        sent := (call.payload, replies) :: chain.sent }

/-- One event.  A call that does not come back ends the run. -/
def chainStep (chain : Chain) : ChainEvent → Option Chain
  | .ask ruleTrie payload now =>
      match beginQuery ucd ruleTrie payload now chain.proxy with
      | .error _ => none
      | .ok (.sent replies, proxy) =>
          some { chain with proxy, sent := (payload, replies) :: chain.sent }
      | .ok (.forward cacheKey first second, proxy) =>
          some { chain with
            proxy
            count := chain.count + 1
            waiting := ⟨chain.count, payload, cacheKey, first, second⟩ :: chain.waiting }
  | .forward id rid ruleTrie now =>
      match chain.waiting.find? (·.id = id) with
      | none => none
      | some call =>
          match DnsRelay.step ucd aead chain.relay (.query rid ruleTrie call.payload now) with
          | none => none
          | some relay =>
              some { chain with
                relay
                asked := (rid, call) :: chain.asked
                replies := (newReply chain.relay relay).toList.map (⟨call, ·, false⟩) ++
                  chain.replies }
  | .upstream rid delivery now =>
      match chain.asked.find? (·.1 = rid) with
      | none => none
      | some (_, call) =>
          match DnsRelay.step ucd aead chain.relay (.deliver rid delivery now) with
          | none => none
          | some relay =>
              let crafted := (delivery.outcome aead).toOption.isNone
              some { chain with
                relay
                replies := (newReply chain.relay relay).toList.map (⟨call, ·, crafted⟩) ++
                  chain.replies }
  | .reply n now =>
      match chain.replies[n]? with
      | none => none
      | some reply =>
          if reply.call ∈ chain.waiting then
            chain.finish ucd reply.call (.ok (reply.content.take 4096)) now
          else none
  | .failed id error now =>
      match chain.waiting.find? (·.id = id) with
      | none => none
      | some call => chain.finish ucd call (.error error) now

/-! ## What the parts of a step do -/

variable {ucd aead}

/-- The second half stores a reply, and after an error it leaves the cache
alone. -/
theorem finishQuery_eq_ok {payload : Bytes} {cacheKey : CacheKey} {first second : UInt8}
    {forwardResult : Except Error Bytes} {now : Nat} {state after : ProxyState}
    {replies : List Bytes}
    (finished : finishQuery ucd payload cacheKey first second forwardResult now state =
      .ok (replies, after)) :
    (∃ replyBuf, forwardResult = .ok replyBuf ∧
      cacheStore ucd state.cache cacheKey replyBuf now = .ok after.cache) ∨
    (∃ error, forwardResult = .error error ∧ after.cache = state.cache) := by
  cases forwardResult with
  | error error =>
      cases finished
      exact .inr ⟨error, rfl, rfl⟩
  | ok replyBuf =>
      simp only [finishQuery, bind_eq_ok] at finished
      rcases finished with ⟨cache, stored, same⟩
      cases same
      exact .inl ⟨replyBuf, rfl, stored⟩

theorem mem_enter {now : Nat} {state : ProxyState} {decision : Verdict}
    {entry : CacheKey × CacheEntry} (mem : entry ∈ (enter now state decision).2.cache.entries) :
    entry ∈ state.cache.entries := by
  cases decision with
  | refused => exact mem
  | dropped resp => exact mem
  | redirected resp => exact mem
  | ask domain cacheKey first second =>
      have kept : entry ∈ (cacheLookup state.cache cacheKey now).2.entries →
          entry ∈ state.cache.entries := mem_cacheLookup
      rw [enter] at mem
      rcases looked : cacheLookup state.cache cacheKey now with ⟨hit, cache⟩
      rw [looked] at mem kept
      cases hit with
      | none => exact kept mem
      | some cached => exact kept mem

/-- The first half adds nothing to the cache, and it forwards a query under its
own key. -/
theorem beginQuery_eq_ok {ruleTrie : DomainTrie} {payload : Bytes} {now : Nat}
    {state after : ProxyState} {entered : Entered}
    (began : beginQuery ucd ruleTrie payload now state = .ok (entered, after)) :
    (∀ entry ∈ after.cache.entries, entry ∈ state.cache.entries) ∧
      ∀ cacheKey first second, entered = .forward cacheKey first second →
        cacheKeyFromQuery ucd payload = .ok (some cacheKey) := by
  rw [beginQuery] at began
  cases reached : verdict ucd ruleTrie payload with
  | error fault =>
      rw [reached] at began
      contradiction
  | ok decision =>
      rw [reached] at began
      have same := Except.ok.inj began
      constructor
      · intro entry mem
        apply mem_enter
        rw [same]
        exact mem
      · rintro cacheKey first second rfl
        cases decision with
        | refused => simp [enter] at same
        | dropped resp => simp [enter] at same
        | redirected resp => simp [enter] at same
        | ask domain key a b =>
            rw [enter] at same
            rcases looked : cacheLookup state.cache key now with ⟨hit, cache⟩
            rw [looked] at same
            cases hit with
            | some cached => simp at same
            | none =>
                simp only [Prod.mk.injEq, Entered.forward.injEq] at same
                rcases same with ⟨⟨rfl, rfl, rfl⟩, _⟩
                exact (verdict_eq_ask_iff.mp reached).2.2.2.1

theorem newReply_of_served {before after : Server} {payload : Bytes} {reply : Option Bytes}
    (served : after.served = ⟨payload, reply⟩ :: before.served) :
    newReply before after = reply := by
  rw [newReply, served, if_neg]
  · rfl
  · rw [List.length_cons]
    exact Nat.succ_ne_self _

/-! ## Clean caches -/

/-- A reply that the relay did not make after a failure, to a call with the
key. -/
def AnsweredFor (chain : Chain) (key : CacheKey) : Prop :=
  ∃ reply ∈ chain.replies, reply.crafted = false ∧ reply.call.cacheKey = key

/-- The packet is such a reply, as the proxy keeps it. -/
def StemsFromReply (chain : Chain) (key : CacheKey) (packet : Bytes) : Prop :=
  ∃ reply ∈ chain.replies, reply.crafted = false ∧ reply.call.cacheKey = key ∧
    packet = withTxid (reply.content.take 4096) 0 0

/-- No cached packet stems from a failure, and calls and queries carry their own
keys. -/
structure Clean (ucd : UnicodeData) (aead : Aead) (chain : Chain) : Prop where
  proxyCached : ∀ entry ∈ chain.proxy.cache.entries,
    StemsFromReply chain entry.1 entry.2.packet
  relayCached : ∀ entry ∈ chain.relay.relay.cache.entries, AnsweredFor chain entry.1
  waitingKeys : ∀ call ∈ chain.waiting,
    cacheKeyFromQuery ucd call.payload = .ok (some call.cacheKey)
  pendingAsked : ∀ query ∈ chain.relay.pending, ∃ call,
    chain.asked.find? (·.1 = query.id) = some (query.id, call) ∧ call.cacheKey = query.cacheKey
  reachable : ∃ metrics history trace,
    run (DnsRelay.step ucd aead) (Server.start metrics history) trace = some chain.relay

/-- No reply that the relay made after a failure reaches a call that waits. -/
def NoFailureDelivered (chain : Chain) : ChainEvent → Prop
  | .reply n _ => ∀ reply, chain.replies[n]? = some reply → reply.call ∈ chain.waiting →
      reply.crafted = false
  | _ => True

theorem clean_start (proxyMetrics relayMetrics : Option MetricWrapper)
    (history : Option (List (Text × List Text))) :
    Clean ucd aead (Chain.start proxyMetrics relayMetrics history) where
  proxyCached _ mem := nomatch mem
  relayCached _ mem := nomatch mem
  waitingKeys _ mem := nomatch mem
  pendingAsked _ mem := nomatch mem
  reachable := ⟨relayMetrics, history, [], rfl⟩

/-- A step of the relay keeps its run. -/
theorem Clean.relayRun {chain : Chain} (clean : Clean ucd aead chain) {event : DnsRelay.Event}
    {relay : Server} (stepped : DnsRelay.step ucd aead chain.relay event = some relay) :
    ∃ metrics history trace,
      run (DnsRelay.step ucd aead) (Server.start metrics history) trace = some relay := by
  rcases clean.reachable with ⟨metrics, history, trace, ran⟩
  exact ⟨metrics, history, trace ++ [event],
    run_concat_eq_some_iff.mpr ⟨chain.relay, ran, stepped⟩⟩

theorem Clean.ask {chain after : Chain} (clean : Clean ucd aead chain) {ruleTrie : DomainTrie}
    {payload : Bytes} {now : Nat}
    (stepped : chainStep ucd aead chain (.ask ruleTrie payload now) = some after) :
    Clean ucd aead after := by
  rw [chainStep] at stepped
  rcases began : beginQuery ucd ruleTrie payload now chain.proxy with fault | ⟨entered, proxy⟩
  · simp [began] at stepped
  · rcases beginQuery_eq_ok began with ⟨kept, key⟩
    cases entered with
    | sent replies =>
        rw [began] at stepped
        cases stepped
        exact { clean with
          proxyCached := fun entry mem => clean.proxyCached entry (kept entry mem) }
    | forward cacheKey first second =>
        rw [began] at stepped
        cases stepped
        constructor
        · exact fun entry mem => clean.proxyCached entry (kept entry mem)
        · exact clean.relayCached
        · intro call mem
          rcases List.mem_cons.mp mem with rfl | before
          · exact key cacheKey first second rfl
          · exact clean.waitingKeys call before
        · exact clean.pendingAsked
        · exact clean.reachable

/-- More replies keep what stems from the earlier ones. -/
theorem StemsFromReply.mono {chain after : Chain} {key : CacheKey} {packet : Bytes}
    (stems : StemsFromReply chain key packet)
    (kept : ∀ reply ∈ chain.replies, reply ∈ after.replies) : StemsFromReply after key packet := by
  rcases stems with ⟨reply, mem, rest⟩
  exact ⟨reply, kept reply mem, rest⟩

theorem AnsweredFor.mono {chain after : Chain} {key : CacheKey} (answered : AnsweredFor chain key)
    (kept : ∀ reply ∈ chain.replies, reply ∈ after.replies) : AnsweredFor after key := by
  rcases answered with ⟨reply, mem, rest⟩
  exact ⟨reply, kept reply mem, rest⟩

theorem pending_ne_of_query {server after : Server} {id : Nat} {ruleTrie : DomainTrie}
    {payload : Bytes} {now : Nat}
    (stepped : DnsRelay.step ucd aead server (.query id ruleTrie payload now) = some after) :
    ∀ query ∈ server.pending, query.id ≠ id := by
  rw [DnsRelay.step] at stepped
  split at stepped
  · contradiction
  · rename_i unused
    intro query mem same
    apply unused
    rw [List.any_eq_true]
    exact ⟨query, mem, by simpa using same⟩

theorem Clean.forward {chain after : Chain} (clean : Clean ucd aead chain) {id rid : Nat}
    {ruleTrie : DomainTrie} {now : Nat}
    (stepped : chainStep ucd aead chain (.forward id rid ruleTrie now) = some after) :
    Clean ucd aead after := by
  rw [chainStep] at stepped
  split at stepped
  · contradiction
  · rename_i call found
    have callMem := List.mem_of_find?_eq_some found
    split at stepped
    · contradiction
    · rename_i relay moved
      cases stepped
      have kept : ∀ reply ∈ chain.replies, reply ∈
          (newReply chain.relay relay).toList.map (RelayReply.mk call · false) ++ chain.replies :=
        fun _ mem => List.mem_append_right _ mem
      have oldPending : ∀ query ∈ chain.relay.pending, ∃ other,
          ((rid, call) :: chain.asked).find? (·.1 = query.id) = some (query.id, other) ∧
            other.cacheKey = query.cacheKey := by
        intro query mem
        rcases clean.pendingAsked query mem with ⟨other, here, key⟩
        refine ⟨other, ?_, key⟩
        rw [List.find?_cons_of_neg]
        · exact here
        · simpa using (pending_ne_of_query moved query mem).symm
      rcases DnsRelay.step_query moved with ⟨reply, began, pending, _⟩ |
        ⟨domain, cacheKey, began, pending, _⟩
      · constructor
        · exact fun entry mem => (clean.proxyCached entry mem).mono kept
        · exact fun entry mem =>
            (clean.relayCached entry (DnsRelay.mem_beginResolve began mem)).mono kept
        · exact clean.waitingKeys
        · rw [pending]
          exact oldPending
        · exact clean.relayRun moved
      · constructor
        · exact fun entry mem => (clean.proxyCached entry mem).mono kept
        · exact fun entry mem =>
            (clean.relayCached entry (DnsRelay.mem_beginResolve began mem)).mono kept
        · exact clean.waitingKeys
        · intro query mem
          rw [pending] at mem
          rcases List.mem_cons.mp mem with rfl | before
          · refine ⟨call, List.find?_cons_of_pos (by simp), ?_⟩
            have key := clean.waitingKeys call callMem
            rw [DnsRelay.cacheKey_of_forward began] at key
            exact (Option.some.inj (Except.ok.inj key)).symm
          · exact oldPending query before
        · exact clean.relayRun moved

theorem Clean.upstream {chain after : Chain} (clean : Clean ucd aead chain) {rid : Nat}
    {delivery : Delivery} {now : Nat}
    (stepped : chainStep ucd aead chain (.upstream rid delivery now) = some after) :
    Clean ucd aead after := by
  rw [chainStep] at stepped
  split at stepped
  · contradiction
  · rename_i other call asked
    split at stepped
    · contradiction
    · rename_i relay moved
      cases stepped
      let crafted := (delivery.outcome aead).toOption.isNone
      have kept : ∀ reply ∈ chain.replies, reply ∈
          (newReply chain.relay relay).toList.map (RelayReply.mk call · crafted) ++
            chain.replies :=
        fun _ mem => List.mem_append_right _ mem
      rcases DnsRelay.step_deliver moved with
        ⟨query, waits, rfl, reply, finished, pending, served⟩
      rcases clean.pendingAsked query (List.mem_of_find?_eq_some waits) with ⟨same, found, key⟩
      rw [asked, Option.some.injEq, Prod.mk.injEq] at found
      rcases found with ⟨_, rfl⟩
      constructor
      · exact fun entry entryMem => (clean.proxyCached entry entryMem).mono kept
      · intro entry entryMem
        rcases DnsRelay.finishResolve_eq_ok finished with
          ⟨replyBuf, first, second, ok, _, _, rfl, stored⟩ | ⟨error, _, _, sameCache⟩
        · rcases mem_cacheStore stored entryMem with ⟨_, _, rfl⟩ | ⟨old, _⟩
          · refine ⟨⟨call, withTxid replyBuf first second, crafted⟩, ?_, ?_, ?_⟩
            · apply List.mem_append_left
              rw [newReply_of_served served]
              exact List.mem_singleton_self _
            · simp only [crafted, ok]
              rfl
            · exact key
          · exact (clean.relayCached entry old).mono kept
        · have entryOld : entry ∈ chain.relay.relay.cache.entries := by
            rw [← sameCache]
            exact entryMem
          exact (clean.relayCached entry entryOld).mono kept
      · exact clean.waitingKeys
      · intro waiting waitingMem
        rw [pending] at waitingMem
        exact clean.pendingAsked waiting (List.mem_of_mem_filter waitingMem)
      · exact clean.relayRun moved

/-- A call that ends with a reply that is no failure, or with an error, leaves the
caches clean. -/
theorem Clean.finish {chain after : Chain} (clean : Clean ucd aead chain) {call : ProxyCall}
    {forwardResult : Except Error Bytes} {now : Nat}
    (sound : ∀ replyBuf, forwardResult = .ok replyBuf →
      StemsFromReply chain call.cacheKey (withTxid replyBuf 0 0))
    (finished : chain.finish ucd call forwardResult now = some after) : Clean ucd aead after := by
  rw [Chain.finish] at finished
  split at finished
  · contradiction
  · rename_i replies proxy done
    cases finished
    constructor
    · intro entry mem
      rcases finishQuery_eq_ok done with ⟨replyBuf, ok, stored⟩ | ⟨error, _, same⟩
      · rcases mem_cacheStore stored mem with ⟨_, _, rfl⟩ | ⟨old, _⟩
        · exact sound replyBuf ok
        · exact clean.proxyCached entry old
      · have old : entry ∈ chain.proxy.cache.entries := by
          rw [← same]
          exact mem
        exact clean.proxyCached entry old
    · exact clean.relayCached
    · exact fun other mem => clean.waitingKeys other (List.mem_of_mem_filter mem)
    · exact clean.pendingAsked
    · exact clean.reachable

theorem Clean.step {chain after : Chain} {event : ChainEvent} (clean : Clean ucd aead chain)
    (noFailure : NoFailureDelivered chain event)
    (stepped : chainStep ucd aead chain event = some after) : Clean ucd aead after := by
  cases event with
  | ask ruleTrie payload now => exact clean.ask stepped
  | forward id rid ruleTrie now => exact clean.forward stepped
  | upstream rid delivery now => exact clean.upstream stepped
  | reply n now =>
      rw [chainStep] at stepped
      split at stepped
      · contradiction
      · rename_i reply found
        split at stepped
        · rename_i waits
          apply clean.finish _ stepped
          rintro _ ⟨⟩
          exact ⟨reply, List.mem_of_getElem? found, noFailure reply found waits, rfl, rfl⟩
        · contradiction
  | failed id error now =>
      rw [chainStep] at stepped
      split at stepped
      · contradiction
      · apply clean.finish _ stepped
        rintro _ ⟨⟩

/-! ## Failures and the caches -/

/-- The query is forwarded by both programs whenever it is asked. -/
def ForwardedAgain (ucd : UnicodeData) (chain : Chain) (ruleTrie : DomainTrie) (payload : Bytes) :
    Prop :=
  ∀ now, (∃ cacheKey first second after, beginQuery ucd ruleTrie payload now chain.proxy =
      .ok (.forward cacheKey first second, after)) ∧
    ∃ domain cacheKey after, beginResolve ucd ruleTrie payload now chain.relay.relay =
      .ok (.forward domain cacheKey, after)

theorem cacheLookup_eq_none {cache : ResponseCache} {key : CacheKey}
    (absent : ∀ entry ∈ cache.entries, entry.1 ≠ key) (now : Nat) :
    (cacheLookup cache key now).1 = none := by
  cases looked : (cacheLookup cache key now).1 with
  | none => rfl
  | some packet =>
      rcases mem_of_cacheLookup looked with ⟨entry, mem, _⟩
      exact absurd rfl (absent (key, entry) mem)

/-- Without a reply to its key that is no failure, a query is forwarded again. -/
theorem Clean.forwardedAgain {chain : Chain} (clean : Clean ucd aead chain)
    {ruleTrie : DomainTrie} {payload : Bytes} {domain : Text} {cacheKey : CacheKey}
    {first second : UInt8}
    (reached : verdict ucd ruleTrie payload = .ok (.ask domain cacheKey first second))
    (unanswered : ¬ AnsweredFor chain cacheKey) : ForwardedAgain ucd chain ruleTrie payload := by
  intro now
  constructor
  · have absent : ∀ entry ∈ chain.proxy.cache.entries, entry.1 ≠ cacheKey := by
      rintro entry mem rfl
      rcases clean.proxyCached entry mem with ⟨reply, replyMem, crafted, key, _⟩
      exact unanswered ⟨reply, replyMem, crafted, key⟩
    have miss := cacheLookup_eq_none absent now
    rcases looked : cacheLookup chain.proxy.cache cacheKey now with ⟨hit, cache⟩
    rw [looked] at miss
    cases miss
    refine ⟨cacheKey, first, second, { chain.proxy with cache }, ?_⟩
    rw [beginQuery, reached, Except.map, enter, looked]
  · have absent : ∀ entry ∈ chain.relay.relay.cache.entries, entry.1 ≠ cacheKey := by
      rintro entry mem rfl
      exact unanswered (clean.relayCached entry mem)
    have miss := cacheLookup_eq_none absent now
    rcases looked : cacheLookup chain.relay.relay.cache cacheKey now with ⟨hit, cache⟩
    rw [looked] at miss
    cases miss
    refine ⟨domain, cacheKey, { chain.relay.relay with cache }, ?_⟩
    rw [DnsRelay.beginResolve_eq, reached, Except.map, DnsRelay.receive, looked]

/-- As long as no SERVFAIL that the relay made after a failure reaches a call of
the proxy that still waits, neither cache holds one: what the proxy keeps stems
from other replies of the relay, what the relay keeps was delivered to it, and a
query to whose key the relay has replied with failures only is forwarded by both
programs. -/
theorem failures_not_cached (ucd : UnicodeData) (aead : Aead)
    (proxyMetrics relayMetrics : Option MetricWrapper)
    (history : Option (List (Text × List Text))) (trace : List ChainEvent) (chain : Chain)
    (ran : run (chainStep ucd aead) (Chain.start proxyMetrics relayMetrics history) trace =
      some chain)
    (undelivered : Along (chainStep ucd aead) NoFailureDelivered
      (Chain.start proxyMetrics relayMetrics history) trace) :
    (∀ entry ∈ chain.proxy.cache.entries, StemsFromReply chain entry.1 entry.2.packet) ∧
    (∃ metrics pushes relayTrace,
      run (DnsRelay.step ucd aead) (Server.start metrics pushes) relayTrace = some chain.relay ∧
      ∀ entry ∈ chain.relay.relay.cache.entries,
        Delivered ucd aead relayTrace entry.1 entry.2.packet) ∧
    ∀ ruleTrie payload domain cacheKey first second,
      verdict ucd ruleTrie payload = .ok (.ask domain cacheKey first second) →
      ¬ AnsweredFor chain cacheKey → ForwardedAgain ucd chain ruleTrie payload := by
  have clean : Clean ucd aead chain :=
    run_invariant_along (clean_start proxyMetrics relayMetrics history)
      (fun _ _ _ clean noFailure stepped => clean.step noFailure stepped) undelivered ran
  refine ⟨clean.proxyCached, ?_, ?_⟩
  · rcases clean.reachable with ⟨metrics, pushes, relayTrace, relayRan⟩
    exact ⟨metrics, pushes, relayTrace, relayRan, (DnsRelay.provenance_of_run relayRan).cached⟩
  · intro ruleTrie payload domain cacheKey first second reached unanswered
    exact clean.forwardedAgain reached unanswered

/-! ## A failure in the cache of the proxy -/

/-- The query for `a` reaches the relay, and its upstream, a DoH resolver, is not available. -/
def unavailable : List ChainEvent :=
  [.ask Trie.empty (bareQuery [labelA] 1).encode 0, .forward 0 0 Trie.empty 1,
    .upstream 0 (.doh 503 []) 2]

/-- What the proxy keeps and has sent, which replies of the relay are failures, and
how many queries the relay has received. -/
structure ChainView where
  cached : List Bytes
  sent : List (List Bytes)
  crafted : List (Bytes × Bool)
  asked : Nat
  deriving DecidableEq

def Chain.view (chain : Chain) : ChainView where
  cached := chain.proxy.cache.entries.map (·.2.packet)
  sent := chain.sent.map Prod.snd
  crafted := chain.replies.map fun reply => (reply.content, reply.crafted)
  asked := chain.asked.length

/-- The only reply that is seen was made after a failure. -/
theorem crafted_of_view {chain : Chain} {content : Bytes}
    (seen : chain.view.crafted = [(content, true)]) :
    ∀ reply ∈ chain.replies, reply.crafted = true := by
  intro reply mem
  have listed : (reply.content, reply.crafted) ∈ [(content, true)] := by
    rw [← seen]
    exact List.mem_map_of_mem mem
  exact congrArg Prod.snd (List.mem_singleton.mp listed)

/-- The SERVFAIL for the query for `a`. -/
def servfailA : Bytes :=
  ((bareQuery [labelA] 1).withFlags 0x81 0x82).encode

theorem failures_not_cached_lost : ∃ chain,
    run (chainStep .ascii DnsRelay.Aead.transparent) (Chain.start none none none)
      (unavailable ++ [.failed 0 .resolveTimeout (2 * second)]) = some chain ∧
    ForwardedAgain .ascii chain Trie.empty (bareQuery [labelA] 1).encode := by
  have viewed : (run (chainStep .ascii DnsRelay.Aead.transparent) (Chain.start none none none)
      (unavailable ++ [.failed 0 .resolveTimeout (2 * second)])).map Chain.view =
        some ⟨[], [[]], [(servfailA, true)], 1⟩ := by decide +kernel
  have reached : verdict .ascii Trie.empty (bareQuery [labelA] 1).encode =
      .ok (.ask ['a'] ⟨['a'], 1⟩ 0 0) := by decide +kernel
  rcases Option.map_eq_some_iff.mp viewed with ⟨chain, ran, seen⟩
  refine ⟨chain, ran, ?_⟩
  apply (failures_not_cached .ascii DnsRelay.Aead.transparent none none none _ chain ran _).2.2
    Trie.empty _ _ _ _ _ reached
  · rintro ⟨reply, mem, clean, _⟩
    have crafted := crafted_of_view (congrArg ChainView.crafted seen) reply mem
    rw [clean] at crafted
    contradiction
  · exact ⟨trivial, fun _ _ => ⟨trivial, fun _ _ => ⟨trivial, fun _ _ =>
      ⟨trivial, fun _ _ => trivial⟩⟩⟩⟩

/-- The relay's only reply is a SERVFAIL after the failure.  The proxy keeps it and
answers the next query for the name with it; the relay is not asked again. -/
theorem servfail_cached : ∃ chain,
    run (chainStep .ascii DnsRelay.Aead.transparent) (Chain.start none none none)
      (unavailable ++ [.reply 0 3, .ask Trie.empty (bareQuery [labelA] 1).encode 4]) = some chain ∧
    chain.view = ⟨[servfailA], [[servfailA], [servfailA]], [(servfailA, true)], 1⟩ ∧
    ∃ entry ∈ chain.proxy.cache.entries, entry.2.packet = servfailA ∧
      ¬ StemsFromReply chain entry.1 entry.2.packet := by
  have viewed : (run (chainStep .ascii DnsRelay.Aead.transparent) (Chain.start none none none)
      (unavailable ++ [.reply 0 3, .ask Trie.empty (bareQuery [labelA] 1).encode 4])).map
        Chain.view =
      some ⟨[servfailA], [[servfailA], [servfailA]], [(servfailA, true)], 1⟩ := by decide +kernel
  rcases Option.map_eq_some_iff.mp viewed with ⟨chain, ran, seen⟩
  refine ⟨chain, ran, seen, ?_⟩
  have cached : chain.proxy.cache.entries.map (·.2.packet) = [servfailA] :=
    congrArg ChainView.cached seen
  have mem : servfailA ∈ chain.proxy.cache.entries.map (·.2.packet) := by
    rw [cached]
    exact List.mem_cons_self
  rcases List.mem_map.mp mem with ⟨entry, entryMem, packet⟩
  refine ⟨entry, entryMem, packet, ?_⟩
  rintro ⟨reply, replyMem, clean, _⟩
  have crafted := crafted_of_view (congrArg ChainView.crafted seen) reply replyMem
  rw [clean] at crafted
  contradiction

end DnsHijacker.ResolverProxy
