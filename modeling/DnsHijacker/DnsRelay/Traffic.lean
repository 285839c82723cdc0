import DnsHijacker.DnsRelay.Server
import DnsHijacker.Shared.Dns.Ecs

/-!
# Which upstream reply an answer was made of

The cache keeps a packet without the query it was a reply to.  `Traffic` is the
server together with that: who asked each query, the upstream reply that was
stored last under each key, and for every answer the reply it was made of.  The
server runs as before; nothing it does depends on the rest.
-/

namespace DnsHijacker.DnsRelay

open DnsHijacker.Rust
open DnsHijacker.Library
open DnsHijacker.Shared
open DnsHijacker.Shared.Dns

/-- A query and who asked it. -/
structure Asked where
  client : ClientIp
  payload : Bytes
  deriving DecidableEq

/-- A reply of the upstream, the query it was given for and when it came. -/
structure Obtained where
  asked : Asked
  reply : Bytes
  time : Nat

/-- A query that has been dealt with: what was sent back for it, when, and the
upstream reply that was made of. -/
structure Answered where
  asked : Asked
  reply : Option Bytes
  time : Nat
  source : Option Obtained

structure Traffic where
  server : Server
  /-- Who asked the query that waits under a number. -/
  client : Nat → ClientIp
  /-- What was stored last under a key. -/
  obtained : CacheKey → Option Obtained
  answered : List Answered

def Traffic.start (metrics : Option MetricWrapper) (history : Option (List (Text × List Text))) :
    Traffic where
  server := Server.start metrics history
  client _ := .v6
  obtained _ := none
  answered := []

inductive TrafficEvent where
  | query (id : Nat) (asked : Asked) (ruleTrie : DomainTrie) (now : Nat)
  | deliver (id : Nat) (delivery : Delivery) (now : Nat)

variable (ucd : UnicodeData) (aead : Aead)

/-- One event of the server, and what it adds to the record. -/
def trafficStep (traffic : Traffic) : TrafficEvent → Option Traffic
  | .query id asked ruleTrie now =>
      match step ucd aead traffic.server (.query id ruleTrie asked.payload now) with
      | none => none
      | some server =>
          match beginResolve ucd ruleTrie asked.payload now traffic.server.relay with
          | .ok (.answered reply, _) =>
              let hit := hitKey ucd ruleTrie asked.payload now traffic.server.relay.cache
              some { traffic with
                server
                answered := ⟨asked, reply, now, hit.bind traffic.obtained⟩ :: traffic.answered }
          | _ =>
              some { traffic with
                server
                client := Function.update traffic.client id asked.client }
  | .deliver id delivery now =>
      match traffic.server.pending.find? (·.id = id) with
      | none => none
      | some query =>
          match step ucd aead traffic.server (.deliver id delivery now) with
          | none => none
          | some server =>
              let asked : Asked := ⟨traffic.client query.id, query.payload⟩
              let reply := server.served.head?.bind Served.reply
              match delivery.outcome aead with
              | .ok received =>
                  let source : Obtained := ⟨asked, received, now⟩
                  some { traffic with
                    server
                    obtained := Function.update traffic.obtained query.cacheKey (some source)
                    answered := ⟨asked, reply, now, some source⟩ :: traffic.answered }
              | .error _ =>
                  some { traffic with
                    server
                    answered := ⟨asked, reply, now, none⟩ :: traffic.answered }

/-! ## What a step does -/

/-- What an event does, by where the answer comes from. -/
inductive Effect (traffic : Traffic) : TrafficEvent → Traffic → Prop where
  /-- The relay answers by itself, or not at all. -/
  | own {id now : Nat} {asked : Asked} {ruleTrie : DomainTrie} {reply : Option Bytes}
      {server : Server}
      (miss : hitKey ucd ruleTrie asked.payload now traffic.server.relay.cache = none)
      (own : ∀ bytes, reply = some bytes → OwnReply asked.payload bytes)
      (entries : ∀ entry ∈ server.relay.cache.entries, entry ∈ traffic.server.relay.cache.entries)
      (pending : server.pending = traffic.server.pending)
      (served : server.served = ⟨asked.payload, reply⟩ :: traffic.server.served) :
      Effect traffic (.query id asked ruleTrie now)
        { traffic with server, answered := ⟨asked, reply, now, none⟩ :: traffic.answered }
  | hit {id now : Nat} {asked : Asked} {ruleTrie : DomainTrie} {key : CacheKey}
      {entry : CacheEntry} {bytes : Bytes} {server : Server}
      (hit : hitKey ucd ruleTrie asked.payload now traffic.server.relay.cache = some key)
      (cached : HitReply ucd traffic.server.relay.cache asked.payload now key entry bytes)
      (entries : ∀ entry ∈ server.relay.cache.entries, entry ∈ traffic.server.relay.cache.entries)
      (pending : server.pending = traffic.server.pending)
      (served : server.served = ⟨asked.payload, some bytes⟩ :: traffic.server.served) :
      Effect traffic (.query id asked ruleTrie now)
        { traffic with
          server, answered := ⟨asked, some bytes, now, traffic.obtained key⟩ :: traffic.answered }
  | forwarded {id now : Nat} {asked : Asked} {ruleTrie : DomainTrie} {domain : Text}
      {cacheKey : CacheKey} {server : Server}
      (miss : hitKey ucd ruleTrie asked.payload now traffic.server.relay.cache = none)
      (fresh : ∀ query ∈ traffic.server.pending, query.id ≠ id)
      (key : cacheKeyFromQuery ucd asked.payload = .ok (some cacheKey))
      (entries : ∀ entry ∈ server.relay.cache.entries, entry ∈ traffic.server.relay.cache.entries)
      (pending : server.pending = ⟨id, asked.payload, domain, cacheKey⟩ :: traffic.server.pending)
      (served : server.served = traffic.server.served) :
      Effect traffic (.query id asked ruleTrie now)
        { traffic with server, client := Function.update traffic.client id asked.client }
  | resolved {now : Nat} {query : Pending} {delivery : Delivery} {received : Bytes}
      {first second : UInt8} {server : Server}
      (found : traffic.server.pending.find? (·.id = query.id) = some query)
      (outcome : delivery.outcome aead = .ok received)
      (firstFound : query.payload[0]? = some first) (secondFound : query.payload[1]? = some second)
      (stored : cacheStore ucd traffic.server.relay.cache query.cacheKey received now =
        .ok server.relay.cache)
      (pending : server.pending = traffic.server.pending.filter (·.id ≠ query.id))
      (served : server.served =
        ⟨query.payload, some (withTxid received first second)⟩ :: traffic.server.served) :
      Effect traffic (.deliver query.id delivery now)
        { traffic with
          server
          obtained := Function.update traffic.obtained query.cacheKey
            (some ⟨⟨traffic.client query.id, query.payload⟩, received, now⟩)
          answered := ⟨⟨traffic.client query.id, query.payload⟩,
            some (withTxid received first second), now,
            some ⟨⟨traffic.client query.id, query.payload⟩, received, now⟩⟩ :: traffic.answered }
  | failed {now : Nat} {query : Pending} {delivery : Delivery} {error : Error}
      {reply : Option Bytes} {server : Server}
      (found : traffic.server.pending.find? (·.id = query.id) = some query)
      (outcome : delivery.outcome aead = .error error)
      (crafted : reply = craftServfailResponse query.payload)
      (same : server.relay.cache = traffic.server.relay.cache)
      (pending : server.pending = traffic.server.pending.filter (·.id ≠ query.id))
      (served : server.served = ⟨query.payload, reply⟩ :: traffic.server.served) :
      Effect traffic (.deliver query.id delivery now)
        { traffic with
          server
          answered := ⟨⟨traffic.client query.id, query.payload⟩, reply, now, none⟩ ::
            traffic.answered }

variable {ucd aead}

theorem effect_of_trafficStep {traffic after : Traffic} {event : TrafficEvent}
    (stepped : trafficStep ucd aead traffic event = some after) :
    Effect ucd aead traffic event after := by
  cases event with
  | query id asked ruleTrie now =>
      rw [trafficStep] at stepped
      cases moved : step ucd aead traffic.server (.query id ruleTrie asked.payload now) with
      | none => simp [moved] at stepped
      | some server =>
          rcases step_query moved with ⟨reply, began, pending, served⟩ |
            ⟨domain, cacheKey, began, pending, served⟩
          · have entries := fun entry => @mem_beginResolve _ _ _ _ _ _ _ began entry
            simp only [moved, began, Option.some.injEq] at stepped
            subst stepped
            rcases answered_of_beginResolve began with
              ⟨miss, own⟩ | ⟨key, entry, bytes, hit, rfl, cached⟩
            · rw [miss]
              exact .own miss own entries pending served
            · rw [hit]
              exact .hit hit cached entries pending served
          · have entries := fun entry => @mem_beginResolve _ _ _ _ _ _ _ began entry
            simp only [moved, began, Option.some.injEq] at stepped
            subst stepped
            exact .forwarded (hitKey_of_forward began) (fresh_of_step_query moved)
              (cacheKey_of_forward began) entries pending served
  | deliver id delivery now =>
      rw [trafficStep] at stepped
      cases moved : step ucd aead traffic.server (.deliver id delivery now) with
      | none =>
          rw [moved] at stepped
          split at stepped <;> contradiction
      | some server =>
          obtain ⟨query, found, rfl, reply, finished, pending, served⟩ := step_deliver moved
          simp only [found, moved, served, List.head?_cons, Option.bind_some] at stepped
          rcases finishResolve_eq_ok finished with
            ⟨received, first, second, ok, firstFound, secondFound, rfl, stored⟩ |
            ⟨error, failed, crafted, same⟩
          · simp only [ok, Option.some.injEq] at stepped
            subst stepped
            exact .resolved found ok firstFound secondFound stored pending served
          · simp only [failed, Option.some.injEq] at stepped
            subst stepped
            exact .failed found failed crafted same pending served

/-! ## The record is right -/

/-- The entry holds the reply, and its lifetime began when the reply came. -/
structure Keeps (ucd : UnicodeData) (source : Obtained) (entry : CacheEntry) : Prop where
  packet : entry.packet = withTxid source.reply 0 0
  expires : ∃ ttl, packetTtl ucd source.reply = .ok ttl ∧ entry.expiresAt = source.time + ttl

/-- The query gets the upstream reply under its own transaction ID: the reply has
just been given for the query itself, or it was given for a query with the same
key and its lifetime is not over. -/
structure PassesOn (ucd : UnicodeData) (answered : Answered) (source : Obtained) (reply : Bytes) :
    Prop where
  key : ∃ key, cacheKeyFromQuery ucd source.asked.payload = .ok (some key) ∧
    cacheKeyFromQuery ucd answered.asked.payload = .ok (some key)
  reply : ∃ first second, answered.asked.payload[0]? = some first ∧
    answered.asked.payload[1]? = some second ∧ reply = withTxid source.reply first second
  current : (source.asked = answered.asked ∧ source.time = answered.time) ∨
    ∃ ttl, packetTtl ucd source.reply = .ok ttl ∧ answered.time < source.time + ttl

/-- Where the reply to an answered query comes from: the relay made it, or the
source it is recorded with was passed on. -/
def ComesFrom (ucd : UnicodeData) (answered : Answered) (reply : Bytes) : Prop :=
  (answered.source = none ∧ OwnReply answered.asked.payload reply) ∨
    ∃ source, answered.source = some source ∧ PassesOn ucd answered source reply

/-- What the record says is so. -/
structure Accounts (ucd : UnicodeData) (traffic : Traffic) : Prop where
  cached : ∀ entry ∈ traffic.server.relay.cache.entries,
    ∃ source, traffic.obtained entry.1 = some source ∧ Keeps ucd source entry.2
  keyed : ∀ key source, traffic.obtained key = some source →
    cacheKeyFromQuery ucd source.asked.payload = .ok (some key)
  waiting : ∀ query ∈ traffic.server.pending,
    cacheKeyFromQuery ucd query.payload = .ok (some query.cacheKey)
  answered : ∀ answered ∈ traffic.answered, ∀ reply, answered.reply = some reply →
    ComesFrom ucd answered reply
  served : traffic.server.served =
    traffic.answered.map fun answered => ⟨answered.asked.payload, answered.reply⟩

theorem accounts_start (metrics : Option MetricWrapper)
    (history : Option (List (Text × List Text))) :
    Accounts ucd (Traffic.start metrics history) where
  cached _ mem := nomatch mem
  keyed _ _ found := nomatch found
  waiting _ mem := nomatch mem
  answered _ mem := nomatch mem
  served := rfl

/-- A hit passes on what the record has under the key. -/
theorem Accounts.passesOn_of_hit {traffic : Traffic} (accounts : Accounts ucd traffic)
    {asked : Asked} {now : Nat} {key : CacheKey} {entry : CacheEntry} {bytes : Bytes}
    (cached : HitReply ucd traffic.server.relay.cache asked.payload now key entry bytes) :
    ∃ source, traffic.obtained key = some source ∧
      PassesOn ucd ⟨asked, some bytes, now, some source⟩ source bytes := by
  obtain ⟨source, obtained, keeps⟩ := accounts.cached _ cached.cached
  rcases keeps.expires with ⟨ttl, lifetime, expires⟩
  rcases cached.reply with ⟨first, second, firstFound, secondFound, rfl⟩
  refine ⟨source, obtained, ?_⟩
  constructor
  · exact ⟨key, accounts.keyed key source obtained, cached.asked⟩
  · refine ⟨first, second, firstFound, secondFound, ?_⟩
    rw [keeps.packet, withTxid_withTxid]
  · right
    exact ⟨ttl, lifetime, expires ▸ cached.live⟩

/-- An answer that is not stored keeps the record right. -/
theorem Accounts.answer {traffic : Traffic} (accounts : Accounts ucd traffic) {server : Server}
    {answered : Answered}
    (entries : ∀ entry ∈ server.relay.cache.entries, entry ∈ traffic.server.relay.cache.entries)
    (pending : ∀ query ∈ server.pending, query ∈ traffic.server.pending)
    (served : server.served = ⟨answered.asked.payload, answered.reply⟩ :: traffic.server.served)
    (here : ∀ reply, answered.reply = some reply → ComesFrom ucd answered reply) :
    Accounts ucd { traffic with server, answered := answered :: traffic.answered } where
  cached entry mem := accounts.cached entry (entries entry mem)
  keyed := accounts.keyed
  waiting query mem := accounts.waiting query (pending query mem)
  answered other mem reply sent := by
    rcases List.mem_cons.mp mem with rfl | before
    · exact here reply sent
    · exact accounts.answered other before reply sent
  served := by
    rw [served, accounts.served]
    rfl

/-- A reply of the upstream is stored and passed on. -/
theorem Accounts.resolve {traffic : Traffic} (accounts : Accounts ucd traffic) {server : Server}
    {query : Pending} {received : Bytes} {now : Nat} {first second : UInt8}
    (waits : query ∈ traffic.server.pending) (firstFound : query.payload[0]? = some first)
    (secondFound : query.payload[1]? = some second)
    (stored : cacheStore ucd traffic.server.relay.cache query.cacheKey received now =
      .ok server.relay.cache)
    (pending : ∀ other ∈ server.pending, other ∈ traffic.server.pending)
    {source : Obtained}
    (obtained : source = ⟨⟨traffic.client query.id, query.payload⟩, received, now⟩)
    (served : server.served =
      ⟨query.payload, some (withTxid received first second)⟩ :: traffic.server.served) :
    Accounts ucd { traffic with
      server
      obtained := Function.update traffic.obtained query.cacheKey (some source)
      answered := ⟨source.asked, some (withTxid received first second), now, some source⟩ ::
        traffic.answered } := by
  have key := accounts.waiting query waits
  subst obtained
  constructor
  · intro entry mem
    rcases mem_cacheStore stored mem with ⟨ttl, lifetime, rfl⟩ | ⟨old, other⟩
    · exact ⟨_, Function.update_self .., rfl, ttl, lifetime, rfl⟩
    · obtain ⟨earlier, found, keeps⟩ := accounts.cached entry old
      exact ⟨earlier, (Function.update_of_ne other _ _).trans found, keeps⟩
  · intro other earlier found
    dsimp only at found
    by_cases same : other = query.cacheKey
    · subst same
      rw [Function.update_self] at found
      cases found
      exact key
    · rw [Function.update_of_ne same] at found
      exact accounts.keyed other earlier found
  · exact fun other mem => accounts.waiting other (pending other mem)
  · intro answered mem reply sent
    rcases List.mem_cons.mp mem with rfl | before
    · cases sent
      refine .inr ⟨_, rfl, ⟨query.cacheKey, key, key⟩, ?_, .inl ⟨rfl, rfl⟩⟩
      exact ⟨first, second, firstFound, secondFound, rfl⟩
    · exact accounts.answered answered before reply sent
  · rw [served, accounts.served]
    rfl

/-- An event keeps the record right. -/
theorem Accounts.preserved {traffic after : Traffic} {event : TrafficEvent}
    (accounts : Accounts ucd traffic) (effect : Effect ucd aead traffic event after) :
    Accounts ucd after := by
  cases effect with
  | own miss own entries pending served =>
      apply accounts.answer entries (fun query mem => pending ▸ mem) served
      exact fun reply sent => .inl ⟨rfl, own reply sent⟩
  | hit hit cached entries pending served =>
      apply accounts.answer entries (fun query mem => pending ▸ mem) served
      rintro reply ⟨⟩
      obtain ⟨source, obtained, passesOn⟩ := accounts.passesOn_of_hit cached
      rw [obtained]
      exact .inr ⟨source, rfl, passesOn⟩
  | forwarded miss fresh key entries pending served =>
      constructor
      · exact fun entry mem => accounts.cached entry (entries entry mem)
      · exact accounts.keyed
      · intro query mem
        rw [pending] at mem
        rcases List.mem_cons.mp mem with rfl | before
        · exact key
        · exact accounts.waiting query before
      · exact accounts.answered
      · rw [served, accounts.served]
  | resolved found outcome firstFound secondFound stored pending served =>
      apply accounts.resolve (List.mem_of_find?_eq_some found) firstFound secondFound stored _ rfl
        served
      intro other mem
      rw [pending] at mem
      exact List.mem_of_mem_filter mem
  | failed found outcome crafted same pending served =>
      apply accounts.answer _ _ served
      · exact fun reply sent => .inl ⟨rfl, .inr (.inr (crafted.symm.trans sent))⟩
      · exact fun entry mem => same ▸ mem
      · intro query mem
        rw [pending] at mem
        exact List.mem_of_mem_filter mem

/-- An answer with a source passes it on. -/
theorem Accounts.passesOn {traffic : Traffic} (accounts : Accounts ucd traffic)
    {answered : Answered} (mem : answered ∈ traffic.answered) {source : Obtained} {reply : Bytes}
    (made : answered.source = some source) (sent : answered.reply = some reply) :
    PassesOn ucd answered source reply := by
  rcases accounts.answered answered mem reply sent with ⟨none, _⟩ | ⟨other, same, passesOn⟩
  · rw [made] at none
    contradiction
  · rw [made] at same
    cases same
    exact passesOn

/-- After every run the record is right. -/
theorem accounts_of_run {metrics : Option MetricWrapper}
    {history : Option (List (Text × List Text))} {trace : List TrafficEvent} {traffic : Traffic}
    (ran : run (trafficStep ucd aead) (Traffic.start metrics history) trace = some traffic) :
    Accounts ucd traffic := by
  apply run_invariant (accounts_start metrics history) _ ran
  intro state event after accounts stepped
  exact accounts.preserved (effect_of_trafficStep stepped)

/-! ## What the clients and the upstream keep to -/

/-- The clients ask queries of one kind and the upstream gives replies of one
kind. -/
def Meets (aead : Aead) (asks : Asked → Prop) (gives : Asked → Bytes → Prop) (traffic : Traffic) :
    TrafficEvent → Prop
  | .query _ asked _ _ => asks asked
  | .deliver id delivery _ =>
      ∀ query, traffic.server.pending.find? (·.id = id) = some query →
        ∀ reply, delivery.outcome aead = .ok reply →
          gives ⟨traffic.client query.id, query.payload⟩ reply

/-- Every query and every reply on record is of its kind. -/
structure OfKind (asks : Asked → Prop) (gives : Asked → Bytes → Prop) (traffic : Traffic) : Prop where
  waiting : ∀ query ∈ traffic.server.pending, asks ⟨traffic.client query.id, query.payload⟩
  obtained : ∀ key source, traffic.obtained key = some source →
    asks source.asked ∧ gives source.asked source.reply
  answered : ∀ answered ∈ traffic.answered, asks answered.asked ∧
    ∀ source, answered.source = some source → asks source.asked ∧ gives source.asked source.reply

variable {asks : Asked → Prop} {gives : Asked → Bytes → Prop}

theorem ofKind_start (metrics : Option MetricWrapper) (history : Option (List (Text × List Text))) :
    OfKind asks gives (Traffic.start metrics history) where
  waiting _ mem := nomatch mem
  obtained _ _ found := nomatch found
  answered _ mem := nomatch mem

/-- An answer whose source is on record keeps the kinds. -/
theorem OfKind.answer {traffic : Traffic} (ofKind : OfKind asks gives traffic) {server : Server}
    {answered : Answered} (pending : ∀ query ∈ server.pending, query ∈ traffic.server.pending)
    (asked : asks answered.asked)
    (source : ∀ source, answered.source = some source →
      ∃ key, traffic.obtained key = some source) :
    OfKind asks gives { traffic with server, answered := answered :: traffic.answered } where
  waiting query mem := ofKind.waiting query (pending query mem)
  obtained := ofKind.obtained
  answered other mem := by
    rcases List.mem_cons.mp mem with rfl | before
    · refine ⟨asked, fun found same => ?_⟩
      obtain ⟨key, obtained⟩ := source found same
      exact ofKind.obtained key found obtained
    · exact ofKind.answered other before

/-- An event that meets the kinds keeps them. -/
theorem OfKind.preserved {traffic after : Traffic} {event : TrafficEvent}
    (ofKind : OfKind asks gives traffic) (meets : Meets aead asks gives traffic event)
    (effect : Effect ucd aead traffic event after) : OfKind asks gives after := by
  cases effect with
  | @own id now asked _ _ _ miss own entries pending served =>
      have allowed : asks asked := meets
      apply ofKind.answer (fun query mem => pending ▸ mem) allowed
      rintro source ⟨⟩
  | @hit id now asked _ _ _ _ _ hit cached entries pending served =>
      have allowed : asks asked := meets
      apply ofKind.answer (fun query mem => pending ▸ mem) allowed
      exact fun source obtained => ⟨_, obtained⟩
  | @forwarded id now asked _ _ _ _ miss fresh key entries pending served =>
      have allowed : asks asked := meets
      constructor
      · intro query mem
        rw [pending] at mem
        rcases List.mem_cons.mp mem with rfl | before
        · simpa using allowed
        · dsimp only
          rw [Function.update_of_ne (fresh query before)]
          exact ofKind.waiting query before
      · exact ofKind.obtained
      · exact ofKind.answered
  | @resolved now query delivery received first second server found outcome firstFound secondFound
      stored pending served =>
      have asked := ofKind.waiting query (List.mem_of_find?_eq_some found)
      have given := meets query found received outcome
      constructor
      · intro other mem
        rw [pending] at mem
        exact ofKind.waiting other (List.mem_of_mem_filter mem)
      · intro key source obtained
        dsimp only at obtained
        by_cases same : key = query.cacheKey
        · subst same
          rw [Function.update_self] at obtained
          cases obtained
          exact ⟨asked, given⟩
        · rw [Function.update_of_ne same] at obtained
          exact ofKind.obtained key source obtained
      · intro answered mem
        rcases List.mem_cons.mp mem with rfl | before
        · refine ⟨asked, ?_⟩
          rintro source ⟨⟩
          exact ⟨asked, given⟩
        · exact ofKind.answered answered before
  | @failed now query delivery error reply server found outcome crafted same pending served =>
      apply ofKind.answer _ (ofKind.waiting query (List.mem_of_find?_eq_some found))
      · rintro source ⟨⟩
      · intro other mem
        rw [pending] at mem
        exact List.mem_of_mem_filter mem

/-- After a run that meets the kinds, everything on record is of them. -/
theorem ofKind_of_run {metrics : Option MetricWrapper} {history : Option (List (Text × List Text))}
    {trace : List TrafficEvent} {traffic : Traffic}
    (along : Along (trafficStep ucd aead) (Meets aead asks gives)
      (Traffic.start metrics history) trace)
    (ran : run (trafficStep ucd aead) (Traffic.start metrics history) trace = some traffic) :
    OfKind asks gives traffic := by
  apply run_invariant_along (ofKind_start metrics history) _ along ran
  intro state event after ofKind meets stepped
  exact ofKind.preserved meets (effect_of_trafficStep stepped)

/-! ## Two queries -/

/-- A query without a rule for it, what is delivered for it, and another such
query. -/
def twoQueries (first second : Asked) (delivery : Delivery) (later : Nat) : List TrafficEvent :=
  [.query 0 first Trie.empty 0, .deliver 0 delivery 0, .query 1 second Trie.empty later]

/-- The two queries keep to the kinds if the delivery for the first one does. -/
theorem meets_twoQueries {first second : Asked} {delivery : Delivery} {later : Nat}
    {metrics : Option MetricWrapper} {history : Option (List (Text × List Text))}
    (firstAsked : asks first) (secondAsked : asks second)
    (given : ∀ reply, delivery.outcome aead = .ok reply → gives first reply) :
    Along (trafficStep ucd aead) (Meets aead asks gives) (Traffic.start metrics history)
      (twoQueries first second delivery later) := by
  refine ⟨firstAsked, fun middle stepped => ⟨?_, fun _ _ => ⟨secondAsked, fun _ _ => trivial⟩⟩⟩
  intro query found reply outcome
  have waits := List.mem_of_find?_eq_some found
  cases effect_of_trafficStep stepped with
  | own miss own entries pending served =>
      rw [pending] at waits
      contradiction
  | hit hit cached entries pending served =>
      rw [pending] at waits
      contradiction
  | forwarded miss fresh key entries pending served =>
      rw [pending] at waits
      rcases List.mem_cons.mp waits with rfl | before
      · simpa using given reply outcome
      · contradiction

/-- The queries of a run with their replies, the times of these and those of their
sources. -/
def repliesOf (trace : List TrafficEvent) :
    Option (List (Asked × Option Bytes × Nat × Option Nat)) :=
  (run (trafficStep .ascii Aead.transparent) (Traffic.start none none) trace).map fun traffic =>
    traffic.answered.map fun answered =>
      (answered.asked, answered.reply, answered.time, answered.source.map Obtained.time)

/-- The run behind the replies, and its last answer. -/
theorem exists_last_of_repliesOf {trace : List TrafficEvent} {asked : Asked}
    {reply : Option Bytes} {time : Nat} {came : Option Nat}
    {before : List (Asked × Option Bytes × Nat × Option Nat)}
    (replies : repliesOf trace = some ((asked, reply, time, came) :: before)) :
    ∃ traffic, run (trafficStep .ascii Aead.transparent) (Traffic.start none none) trace =
        some traffic ∧
      ∃ answered ∈ traffic.answered, answered.asked = asked ∧ answered.reply = reply ∧
        answered.time = time ∧ answered.source.map Obtained.time = came := by
  obtain ⟨traffic, ran, all⟩ := Option.map_eq_some_iff.mp replies
  obtain ⟨answered, rest, split, same, _⟩ := List.map_eq_cons_iff.mp all
  simp only [Prod.mk.injEq] at same
  exact ⟨traffic, ran, answered, split ▸ List.mem_cons_self, same⟩

end DnsHijacker.DnsRelay
