import DnsHijacker.DnsRelay.Traffic
import DnsHijacker.Shared.CacheLifetime
import DnsHijacker.Shared.Dns.Sections

/-!
# The TTLs of served replies

A cached packet is served as it came: its records have the TTLs they had then,
however long ago that was.  What ages is the entry, which is served for no longer
than its lifetime.  A cache behind this one starts from the TTLs again.
-/

namespace DnsHijacker.DnsRelay

open DnsHijacker.Rust
open DnsHijacker.Library
open DnsHijacker.Wire
open DnsHijacker.Shared
open DnsHijacker.Shared.Dns

variable {ucd : UnicodeData} {aead : Aead}

/-- The reply is the source under another transaction ID, with the TTLs of the
source; it is served when the source comes or before its lifetime is over; and a
cache that stores it keeps it for a whole lifetime from then on. -/
structure ServedUnaged (ucd : UnicodeData) (answered : Answered) (source : Obtained)
    (reply : Bytes) : Prop where
  unchanged : reply.drop 2 = source.reply.drop 2
  ttls : answerTtls reply = answerTtls source.reply
  records : ∀ questions answers, ResponseWith source.reply questions answers →
    answerTtls reply = some (answers.map Answer.ttl)
  inLifetime : answered.time = source.time ∨
    ∃ lifetime, packetTtl ucd source.reply = .ok lifetime ∧
      answered.time < source.time + lifetime
  inTtls : ∀ question answers, ResponseWith source.reply [question] answers →
    NamesUtf8 question answers → ∀ answer ∈ answers, 0 < answer.ttl →
      answered.time = source.time ∨
        answered.time < source.time + max (answer.ttl.toNat * second) cacheTtlMin
  again : ∀ cache after key stored lifetime,
    cacheStore ucd cache key reply stored = .ok after → packetTtl ucd reply = .ok lifetime →
      ∀ later, (cacheLookup after key later).1 =
        if later < stored + lifetime then some (withTxid source.reply 0 0) else none

theorem PassesOn.servedUnaged {answered : Answered} {source : Obtained} {reply : Bytes}
    (passesOn : PassesOn ucd answered source reply) :
    ServedUnaged ucd answered source reply := by
  rcases passesOn.reply with ⟨first, second, _, _, rfl⟩
  have inLifetime : answered.time = source.time ∨
      ∃ lifetime, packetTtl ucd source.reply = .ok lifetime ∧
        answered.time < source.time + lifetime := by
    rcases passesOn.current with ⟨_, same⟩ | earlier
    · exact .inl same.symm
    · exact .inr earlier
  constructor
  · exact drop_withTxid _ _ _ (Nat.le_refl 2)
  · exact answerTtls_withTxid _ _ _
  · intro questions answers response
    rw [answerTtls_withTxid, answerTtls_responseWith response]
  · exact inLifetime
  · intro question answers response utf8 answer mem positive
    rcases inLifetime with same | ⟨lifetime, kept, live⟩
    · exact .inl same
    · have bound := packetTtl_le ucd response utf8 kept mem positive
      exact .inr (live.trans_le (Nat.add_le_add_left bound _))
  · intro cache after key stored lifetime put kept later
    rw [cacheLookup_cacheStore put kept, withTxid_withTxid]

/-- In every run, what is served from an upstream reply has the TTLs of that
reply, and is served as long as they allow from the time it came. -/
theorem served_ttls (ucd : UnicodeData) (aead : Aead) (metrics : Option MetricWrapper)
    (history : Option (List (Text × List Text))) (trace : List TrafficEvent) (traffic : Traffic)
    (ran : run (trafficStep ucd aead) (Traffic.start metrics history) trace = some traffic) :
    ∀ answered ∈ traffic.answered, ∀ source reply, answered.source = some source →
      answered.reply = some reply → ServedUnaged ucd answered source reply := by
  intro answered mem source reply made sent
  exact ((accounts_of_run ran).passesOn mem made sent).servedUnaged

/-! ## A hundred seconds -/

/-- A query for the addresses of the root name. -/
def rootAsked : Asked :=
  ⟨.v6, (bareQuery [] 1).encode⟩

/-- The query, a reply with TTLs of 300 seconds, and the query again after 100
seconds. -/
def hundredSeconds : List TrafficEvent :=
  twoQueries rootAsked rootAsked (.udp (ttlReply 300 300)) (100 * second)

theorem repliesOf_hundredSeconds : repliesOf hundredSeconds =
    some [(rootAsked, some (ttlReply 300 300), 100 * second, some 0),
      (rootAsked, some (ttlReply 300 300), 0, some 0)] := by
  decide +kernel

theorem served_ttls_hundredSeconds : ∃ traffic,
    run (trafficStep .ascii Aead.transparent) (Traffic.start none none) hundredSeconds =
      some traffic ∧
    ∀ answered ∈ traffic.answered, ∀ source reply, answered.source = some source →
      answered.reply = some reply → ServedUnaged .ascii answered source reply := by
  obtain ⟨traffic, ran, _⟩ := exists_last_of_repliesOf repliesOf_hundredSeconds
  exact ⟨traffic, ran, served_ttls .ascii Aead.transparent none none _ traffic ran⟩

/-- What is left of each TTL, or of the floor, when the reply is served. -/
def Aged (answered : Answered) (source : Obtained) (reply : Bytes) : Prop :=
  ∀ originals ttls, answerTtls source.reply = some originals → answerTtls reply = some ttls →
    List.Forall₂ (fun original ttl : UInt32 => ttl.toNat * second ≤
      max (original.toNat * second) cacheTtlMin - (answered.time - source.time)) originals ttls

/-- After 100 seconds the records still have 300. -/
theorem ttls_not_aged : ∃ traffic,
    run (trafficStep .ascii Aead.transparent) (Traffic.start none none) hundredSeconds =
      some traffic ∧
    ∃ answered ∈ traffic.answered, ∃ source reply, answered.source = some source ∧
      answered.reply = some reply ∧ ¬ Aged answered source reply := by
  obtain ⟨traffic, ran, answered, mem, _, sent, served, came⟩ :=
    exists_last_of_repliesOf repliesOf_hundredSeconds
  obtain ⟨source, made, received⟩ := Option.map_eq_some_iff.mp came
  refine ⟨traffic, ran, answered, mem, source, _, made, sent, fun aged => ?_⟩
  have ttls : answerTtls (ttlReply 300 300) = some [300, 300] := by decide +kernel
  have originals : answerTtls source.reply = some [300, 300] := by
    obtain ⟨first, second, _, _, passed⟩ := ((accounts_of_run ran).passesOn mem made sent).reply
    rw [← answerTtls_withTxid source.reply first second, ← passed, ttls]
  have each := aged _ _ originals ttls
  rw [List.forall₂_cons, served, received] at each
  exact absurd each.1 (by decide)

end DnsHijacker.DnsRelay
