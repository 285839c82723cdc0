import DnsHijacker.Library.Run
import DnsHijacker.DnsRelay.HandlerSpec

/-!
# The relay serving many queries

Every query is a task of its own.  A task stops only where it waits for its
upstream, and each half of it touches the shared cache once, under the cache's
lock.  The relay is therefore a machine with two kinds of events: a query
arrives, with the rules in force at that time, and something is delivered for a
query that waits.

Nothing relates what is delivered to the query it is delivered for: it is
whatever comes in on that query's channel.
-/

namespace DnsHijacker.DnsRelay

open DnsHijacker.Rust
open DnsHijacker.Library
open DnsHijacker.Shared
open DnsHijacker.Shared.Dns

/-- A query whose upstream has not answered yet. -/
structure Pending where
  id : Nat
  payload : Bytes
  domain : Text
  cacheKey : CacheKey

/-- A query that has been dealt with, and what was sent back for it. -/
structure Served where
  payload : Bytes
  reply : Option Bytes

structure Server where
  relay : RelayState
  pending : List Pending
  served : List Served

namespace Server

/-- The relay before its first query. -/
def start (metrics : Option MetricWrapper) (history : Option (List (Text × List Text))) :
    Server where
  relay := ⟨newCache, metrics, history⟩
  pending := []
  served := []

end Server

inductive Event where
  | query (id : Nat) (ruleTrie : DomainTrie) (payload : Bytes) (now : Nat)
  | deliver (id : Nat) (delivery : Delivery) (now : Nat)

variable (ucd : UnicodeData) (aead : Aead)

/-- One event.  A call that does not come back ends the run. -/
def step (server : Server) : Event → Option Server
  | .query id ruleTrie payload now =>
      if server.pending.any (·.id = id) then none
      else
        match beginResolve ucd ruleTrie payload now server.relay with
        | .error _ => none
        | .ok (.answered reply, relay) =>
            some { server with relay, served := ⟨payload, reply⟩ :: server.served }
        | .ok (.forward domain cacheKey, relay) =>
            some { server with relay, pending := ⟨id, payload, domain, cacheKey⟩ :: server.pending }
  | .deliver id delivery now =>
      match server.pending.find? (·.id = id) with
      | none => none
      | some query =>
          match finishResolve ucd query.payload query.domain query.cacheKey
            (delivery.outcome aead) now server.relay with
          | .error _ => none
          | .ok (reply, relay) =>
              some {
                relay
                pending := server.pending.filter (·.id ≠ id)
                served := ⟨query.payload, reply⟩ :: server.served }

/-! ## What a step does -/

variable {ucd aead}

/-- A query that arrives is answered at once or starts to wait. -/
theorem step_query {server after : Server} {id : Nat} {ruleTrie : DomainTrie} {payload : Bytes}
    {now : Nat} (stepped : step ucd aead server (.query id ruleTrie payload now) = some after) :
    (∃ reply, beginResolve ucd ruleTrie payload now server.relay = .ok (.answered reply, after.relay) ∧
      after.pending = server.pending ∧ after.served = ⟨payload, reply⟩ :: server.served) ∨
    (∃ domain cacheKey,
      beginResolve ucd ruleTrie payload now server.relay = .ok (.forward domain cacheKey, after.relay) ∧
      after.pending = ⟨id, payload, domain, cacheKey⟩ :: server.pending ∧
      after.served = server.served) := by
  rw [step] at stepped
  split at stepped
  · contradiction
  · rcases began : beginResolve ucd ruleTrie payload now server.relay with fault | ⟨begun, relay⟩
    · simp [began] at stepped
    · cases begun with
      | answered reply =>
          rw [began] at stepped
          cases stepped
          exact .inl ⟨reply, rfl, rfl, rfl⟩
      | forward domain cacheKey =>
          rw [began] at stepped
          cases stepped
          exact .inr ⟨domain, cacheKey, rfl, rfl, rfl⟩

/-- A query arrives under a number that no other waits under. -/
theorem fresh_of_step_query {server after : Server} {id : Nat} {ruleTrie : DomainTrie}
    {payload : Bytes} {now : Nat}
    (stepped : step ucd aead server (.query id ruleTrie payload now) = some after) :
    ∀ query ∈ server.pending, query.id ≠ id := by
  rw [step] at stepped
  split at stepped
  · contradiction
  · rename_i fresh
    intro query mem same
    exact fresh (List.any_eq_true.mpr ⟨query, mem, decide_eq_true same⟩)

/-- A delivery finishes a query that waits. -/
theorem step_deliver {server after : Server} {id : Nat} {delivery : Delivery} {now : Nat}
    (stepped : step ucd aead server (.deliver id delivery now) = some after) :
    ∃ query, server.pending.find? (·.id = id) = some query ∧ query.id = id ∧ ∃ reply,
      finishResolve ucd query.payload query.domain query.cacheKey (delivery.outcome aead) now
        server.relay = .ok (reply, after.relay) ∧
      after.pending = server.pending.filter (·.id ≠ id) ∧
      after.served = ⟨query.payload, reply⟩ :: server.served := by
  rw [step] at stepped
  cases found : server.pending.find? (·.id = id) with
  | none => simp [found] at stepped
  | some query =>
      have same : query.id = id := by simpa using List.find?_some found
      rcases finished : finishResolve ucd query.payload query.domain query.cacheKey
        (delivery.outcome aead) now server.relay with fault | ⟨reply, relay⟩
      · simp [found, finished] at stepped
      · simp only [found, finished, Option.some.injEq] at stepped
        subst stepped
        exact ⟨query, rfl, same, reply, finished, rfl, rfl⟩

/-! ## Where the cached packets come from -/

/-- The packet is a reply, without its transaction ID, that was delivered after a
query with the key was asked. -/
def Delivered (ucd : UnicodeData) (aead : Aead) (trace : List Event) (key : CacheKey)
    (packet : Bytes) : Prop :=
  ∃ id ruleTrie payload asked delivery later reply,
    [Event.query id ruleTrie payload asked, .deliver id delivery later].Sublist trace ∧
    cacheKeyFromQuery ucd payload = .ok (some key) ∧
    delivery.outcome aead = .ok reply ∧ packet = withTxid reply 0 0

/-- The reply is made from the query itself. -/
def OwnReply (payload reply : Bytes) : Prop :=
  craftNxdomainResponse payload = some reply ∨
    (∃ qnameEnd ips, craftRedirectResponse payload qnameEnd ips = .ok (some reply)) ∨
    craftServfailResponse payload = some reply

/-- The reply is a packet that was delivered for the key of the query, under the
transaction ID of the query. -/
def PassedOn (ucd : UnicodeData) (aead : Aead) (trace : List Event) (payload reply : Bytes) :
    Prop :=
  ∃ key packet first second, cacheKeyFromQuery ucd payload = .ok (some key) ∧
    Delivered ucd aead trace key packet ∧ payload[0]? = some first ∧ payload[1]? = some second ∧
    reply = withTxid packet first second

/-- What the events so far say about the state. -/
structure Provenance (ucd : UnicodeData) (aead : Aead) (trace : List Event) (server : Server) :
    Prop where
  cached : ∀ entry ∈ server.relay.cache.entries,
    Delivered ucd aead trace entry.1 entry.2.packet
  waiting : ∀ query ∈ server.pending,
    (∃ ruleTrie asked, Event.query query.id ruleTrie query.payload asked ∈ trace) ∧
      cacheKeyFromQuery ucd query.payload = .ok (some query.cacheKey)
  served : ∀ done ∈ server.served, ∀ reply, done.reply = some reply →
    OwnReply done.payload reply ∨ PassedOn ucd aead trace done.payload reply

theorem Delivered.concat {trace : List Event} {key : CacheKey} {packet : Bytes}
    (delivered : Delivered ucd aead trace key packet) (event : Event) :
    Delivered ucd aead (trace ++ [event]) key packet := by
  rcases delivered with ⟨id, ruleTrie, payload, asked, delivery, later, reply, ordered, rest⟩
  exact ⟨id, ruleTrie, payload, asked, delivery, later, reply,
    ordered.trans (List.sublist_append_left trace [event]), rest⟩

theorem PassedOn.concat {trace : List Event} {payload reply : Bytes}
    (passedOn : PassedOn ucd aead trace payload reply) (event : Event) :
    PassedOn ucd aead (trace ++ [event]) payload reply := by
  rcases passedOn with ⟨key, packet, first, second, found, delivered, rest⟩
  exact ⟨key, packet, first, second, found, delivered.concat event, rest⟩

/-- A step that only changes the relay's state and answers a query keeps the
provenance of everything else. -/
theorem Provenance.answer {trace : List Event} {server after : Server} {event : Event}
    {payload : Bytes} {reply : Option Bytes} (provenance : Provenance ucd aead trace server)
    (cached : ∀ entry ∈ after.relay.cache.entries,
      Delivered ucd aead (trace ++ [event]) entry.1 entry.2.packet)
    (pending : ∀ query ∈ after.pending, query ∈ server.pending)
    (served : after.served = ⟨payload, reply⟩ :: server.served)
    (here : ∀ bytes, reply = some bytes →
      OwnReply payload bytes ∨ PassedOn ucd aead (trace ++ [event]) payload bytes) :
    Provenance ucd aead (trace ++ [event]) after where
  cached := cached
  waiting query mem := by
    rcases provenance.waiting query (pending query mem) with ⟨⟨ruleTrie, asked, before⟩, key⟩
    exact ⟨⟨ruleTrie, asked, List.mem_append_left [event] before⟩, key⟩
  served done mem bytes sent := by
    rw [served, List.mem_cons] at mem
    rcases mem with rfl | before
    · exact here bytes sent
    · rcases provenance.served done before bytes sent with own | passedOn
      · exact .inl own
      · exact .inr (passedOn.concat event)

/-- The key of the cache that a query is answered under. -/
def hitKey (ucd : UnicodeData) (ruleTrie : DomainTrie) (payload : Bytes) (now : Nat)
    (cache : ResponseCache) : Option CacheKey :=
  match verdict ucd ruleTrie payload with
  | .ok (.ask _ cacheKey _ _) =>
      if (cacheLookup cache cacheKey now).1.isSome then some cacheKey else none
  | _ => none

/-- The reply is a live entry of the cache under the key of the query and its
transaction ID. -/
structure HitReply (ucd : UnicodeData) (cache : ResponseCache) (payload : Bytes) (now : Nat)
    (key : CacheKey) (entry : CacheEntry) (reply : Bytes) : Prop where
  asked : cacheKeyFromQuery ucd payload = .ok (some key)
  cached : (key, entry) ∈ cache.entries
  live : now < entry.expiresAt
  reply : ∃ first second, payload[0]? = some first ∧ payload[1]? = some second ∧
    reply = withTxid entry.packet first second

/-- A query that is answered at once gets the relay's own reply or a cached
packet. -/
theorem answered_of_beginResolve {ruleTrie : DomainTrie} {payload : Bytes} {now : Nat}
    {state after : RelayState} {reply : Option Bytes}
    (began : beginResolve ucd ruleTrie payload now state = .ok (.answered reply, after)) :
    (hitKey ucd ruleTrie payload now state.cache = none ∧
      ∀ bytes, reply = some bytes → OwnReply payload bytes) ∨
    (∃ key entry bytes, hitKey ucd ruleTrie payload now state.cache = some key ∧
      reply = some bytes ∧ HitReply ucd state.cache payload now key entry bytes) := by
  rcases beginResolve_eq_ok began with ⟨decision, reached, received⟩
  rw [hitKey, reached]
  cases decides_of_verdict reached with
  | refused =>
      cases received
      exact .inl ⟨rfl, fun bytes same => nomatch same⟩
  | dropped parsed rules crafted =>
      cases received
      refine .inl ⟨rfl, ?_⟩
      rintro bytes ⟨⟩
      exact .inl crafted
  | redirected parsed rules crafted =>
      cases received
      refine .inl ⟨rfl, ?_⟩
      rintro bytes ⟨⟩
      exact .inr (.inl ⟨_, _, crafted⟩)
  | @ask domain _ cacheKey first second long parsed rules key firstFound secondFound =>
      rcases looked : cacheLookup state.cache cacheKey now with ⟨hit, cache⟩
      rw [receive, looked] at received
      cases hit with
      | none => simp at received
      | some cached =>
          cases received
          have hit : (cacheLookup state.cache cacheKey now).1 = some cached := by
            rw [looked]
          rcases mem_of_cacheLookup hit with ⟨entry, mem, rfl, live⟩
          exact .inr ⟨cacheKey, entry, _, by simp [looked], rfl, key, mem, live, first, second,
            firstFound, secondFound, rfl⟩

/-- A query that is forwarded has no hit. -/
theorem hitKey_of_forward {ruleTrie : DomainTrie} {payload : Bytes} {now : Nat}
    {state after : RelayState} {domain : Text} {cacheKey : CacheKey}
    (began : beginResolve ucd ruleTrie payload now state = .ok (.forward domain cacheKey, after)) :
    hitKey ucd ruleTrie payload now state.cache = none := by
  rcases beginResolve_eq_ok began with ⟨decision, reached, received⟩
  rcases receive_eq_forward received with ⟨first, second, rfl⟩
  rw [hitKey, reached]
  rcases looked : cacheLookup state.cache cacheKey now with ⟨hit, cache⟩
  rw [receive, looked] at received
  cases hit with
  | none => simp [looked]
  | some cached => simp at received

/-- The reply of the first half is the relay's own or a cached packet. -/
theorem answered_cases {trace : List Event} {server : Server} {ruleTrie : DomainTrie}
    {payload : Bytes} {now : Nat} {reply : Bytes} {relay : RelayState}
    (provenance : Provenance ucd aead trace server)
    (began : beginResolve ucd ruleTrie payload now server.relay =
      .ok (.answered (some reply), relay)) :
    OwnReply payload reply ∨ PassedOn ucd aead trace payload reply := by
  rcases answered_of_beginResolve began with ⟨_, own⟩ | ⟨key, entry, bytes, _, sent, hit⟩
  · exact .inl (own reply rfl)
  · cases sent
    rcases hit.reply with ⟨first, second, firstFound, secondFound, rfl⟩
    exact .inr ⟨key, entry.packet, first, second, hit.asked, provenance.cached _ hit.cached,
      firstFound, secondFound, rfl⟩

/-- A query that arrives keeps the provenance. -/
theorem Provenance.query {trace : List Event} {server after : Server} {id : Nat}
    {ruleTrie : DomainTrie} {payload : Bytes} {now : Nat}
    (provenance : Provenance ucd aead trace server)
    (stepped : step ucd aead server (.query id ruleTrie payload now) = some after) :
    Provenance ucd aead (trace ++ [.query id ruleTrie payload now]) after := by
  have cached : ∀ {begun relay},
      beginResolve ucd ruleTrie payload now server.relay = .ok (begun, relay) →
      ∀ entry ∈ relay.cache.entries,
        Delivered ucd aead (trace ++ [.query id ruleTrie payload now]) entry.1 entry.2.packet := by
    intro begun relay began entry mem
    exact (provenance.cached entry (mem_beginResolve began mem)).concat _
  rcases step_query stepped with ⟨reply, began, pending, served⟩ |
    ⟨domain, cacheKey, began, pending, served⟩
  · apply provenance.answer (cached began) _ served
    · rintro bytes rfl
      rcases answered_cases provenance began with own | passedOn
      · exact .inl own
      · exact .inr (passedOn.concat _)
    · rw [pending]
      exact fun query mem => mem
  · have key := cacheKey_of_forward began
    constructor
    · exact cached began
    · intro query mem
      rw [pending, List.mem_cons] at mem
      rcases mem with rfl | before
      · exact ⟨⟨ruleTrie, now, List.mem_append_right trace List.mem_cons_self⟩, key⟩
      · rcases provenance.waiting query before with ⟨⟨trie, asked, event⟩, waitingKey⟩
        exact ⟨⟨trie, asked, List.mem_append_left _ event⟩, waitingKey⟩
    · intro done mem bytes sent
      rw [served] at mem
      rcases provenance.served done mem bytes sent with own | passedOn
      · exact .inl own
      · exact .inr (passedOn.concat _)

/-- A delivery keeps the provenance. -/
theorem Provenance.deliver {trace : List Event} {server after : Server} {id : Nat}
    {delivery : Delivery} {now : Nat} (provenance : Provenance ucd aead trace server)
    (stepped : step ucd aead server (.deliver id delivery now) = some after) :
    Provenance ucd aead (trace ++ [.deliver id delivery now]) after := by
  rcases step_deliver stepped with ⟨query, found, rfl, reply, finished, pending, served⟩
  rcases provenance.waiting query (List.mem_of_find?_eq_some found) with ⟨⟨ruleTrie, asked, event⟩, key⟩
  have pendingKept : ∀ other ∈ after.pending, other ∈ server.pending := by
    intro other otherMem
    rw [pending] at otherMem
    exact List.mem_of_mem_filter otherMem
  rcases finishResolve_eq_ok finished with
    ⟨replyBuf, first, second, ok, firstFound, secondFound, rfl, stored⟩ | ⟨error, _, rfl, same⟩
  · have delivered : Delivered ucd aead (trace ++ [.deliver query.id delivery now]) query.cacheKey
        (withTxid replyBuf 0 0) := by
      have ordered := (List.singleton_sublist.mpr event).append
        (List.Sublist.refl [Event.deliver query.id delivery now])
      exact ⟨query.id, ruleTrie, query.payload, asked, delivery, now, replyBuf, ordered, key, ok, rfl⟩
    apply provenance.answer _ pendingKept served
    · rintro bytes sent
      cases sent
      right
      exact ⟨query.cacheKey, withTxid replyBuf 0 0, first, second, key, delivered, firstFound,
        secondFound, (withTxid_withTxid replyBuf 0 0 first second).symm⟩
    · intro entry entryMem
      rcases mem_cacheStore stored entryMem with ⟨_, _, rfl⟩ | ⟨old, _⟩
      · exact delivered
      · exact (provenance.cached entry old).concat _
  · apply provenance.answer _ pendingKept served
    · intro bytes sent
      exact .inl (.inr (.inr sent))
    · intro entry entryMem
      rw [same] at entryMem
      exact (provenance.cached entry entryMem).concat _

/-- In every run the cached packets and the replies come from the queries and
deliveries of that run. -/
theorem provenance_of_run {metrics : Option MetricWrapper}
    {history : Option (List (Text × List Text))} {trace : List Event} {server : Server}
    (ran : run (step ucd aead) (Server.start metrics history) trace = some server) :
    Provenance ucd aead trace server := by
  apply run_history_invariant (I := Provenance ucd aead) _ _ (along_true _ _ trace) ran
  · constructor
    · intro entry mem
      contradiction
    · intro query mem
      contradiction
    · intro done mem
      contradiction
  · intro before state event after provenance _ stepped
    cases event with
    | query id ruleTrie payload now => exact provenance.query stepped
    | deliver id delivery now => exact provenance.deliver stepped

end DnsHijacker.DnsRelay
