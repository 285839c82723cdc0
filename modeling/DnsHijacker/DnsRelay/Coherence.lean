import DnsHijacker.DnsRelay.Server

/-!
# What the cache holds

The relay compares no reply with the query it was asked.  What it keeps and
serves is therefore as good as what is delivered: a cached packet answers its
key if every delivered reply answers the query it was delivered for.
-/

namespace DnsHijacker.DnsRelay

open DnsHijacker.Rust
open DnsHijacker.Library
open DnsHijacker.Wire
open DnsHijacker.Shared
open DnsHijacker.Shared.Dns

/-- After every run, each cached packet is a reply that was delivered for an
earlier query with the entry's key, and each reply sent back is made from the
query itself or is such a packet for the query's key.  If all replies delivered
in the run answer their queries, so do all cached packets and all packets passed
on. -/
theorem cache_provenance (ucd : UnicodeData) (aead : Aead) (metrics : Option MetricWrapper)
    (history : Option (List (Text × List Text))) (trace : List Event) (server : Server)
    (ran : run (step ucd aead) (Server.start metrics history) trace = some server) :
    (∀ entry ∈ server.relay.cache.entries, Delivered ucd aead trace entry.1 entry.2.packet) ∧
    (∀ done ∈ server.served, ∀ reply, done.reply = some reply →
      OwnReply done.payload reply ∨ PassedOn ucd aead trace done.payload reply) ∧
    ((∀ key packet, Delivered ucd aead trace key packet → AnswersKey ucd key packet) →
      (∀ entry ∈ server.relay.cache.entries, AnswersKey ucd entry.1 entry.2.packet) ∧
      ∀ done ∈ server.served, ∀ reply, done.reply = some reply →
        OwnReply done.payload reply ∨ ∃ key packet first second,
          cacheKeyFromQuery ucd done.payload = .ok (some key) ∧ AnswersKey ucd key packet ∧
          done.payload[0]? = some first ∧ done.payload[1]? = some second ∧
          reply = withTxid packet first second) := by
  have provenance := provenance_of_run ran
  refine ⟨provenance.cached, provenance.served, ?_⟩
  intro honest
  constructor
  · intro entry mem
    exact honest _ _ (provenance.cached entry mem)
  · intro done mem reply sent
    rcases provenance.served done mem reply sent with own | ⟨key, packet, first, second, found,
      delivered, rest⟩
    · exact .inl own
    · exact .inr ⟨key, packet, first, second, found, honest _ _ delivered, rest⟩

/-- A query for `a` and one datagram for it. -/
def oneReply (datagram : Bytes) : List Event :=
  [.query 1 Trie.empty (bareQuery [labelA] 1).encode 0, .deliver 1 (.udp datagram) 0]

/-- The reply that repeats the question with the response flags. -/
def emptyReply (label : Label) : Bytes :=
  ((bareQuery [label] 1).withFlags 0x81 0x80).encode

/-- What a run leaves in the cache and sends back. -/
def outcomeOf (trace : List Event) : Option (List (CacheKey × Bytes) × List (Option Bytes)) :=
  (run (step .ascii Aead.transparent) (Server.start none none) trace).map fun server =>
    (server.relay.cache.entries.map fun entry => (entry.1, entry.2.packet),
      server.served.map Served.reply)

theorem exists_run_of_outcomeOf {trace : List Event} {cached : List (CacheKey × Bytes)}
    {sent : List (Option Bytes)} (outcome : outcomeOf trace = some (cached, sent)) :
    ∃ server, run (step .ascii Aead.transparent) (Server.start none none) trace = some server ∧
      (server.relay.cache.entries.map fun entry => (entry.1, entry.2.packet)) = cached ∧
      server.served.map Served.reply = sent := by
  rcases Option.map_eq_some_iff.mp outcome with ⟨server, ran, same⟩
  cases same
  exact ⟨server, ran, rfl, rfl⟩

theorem cache_provenance_oneReply : ∃ server,
    run (step .ascii Aead.transparent) (Server.start none none) (oneReply (emptyReply labelA)) =
      some server ∧
    ∀ entry ∈ server.relay.cache.entries,
      Delivered .ascii Aead.transparent (oneReply (emptyReply labelA)) entry.1 entry.2.packet := by
  have outcome : outcomeOf (oneReply (emptyReply labelA)) =
      some ([(⟨['a'], 1⟩, emptyReply labelA)], [some (emptyReply labelA)]) := by decide +kernel
  rcases exists_run_of_outcomeOf outcome with ⟨server, ran, _⟩
  exact ⟨server, ran, (cache_provenance .ascii Aead.transparent none none _ server ran).1⟩

/-- A datagram that asks for `b` is kept under the key of `a` and sent back as
the reply to `a`. -/
theorem cache_poisoned : ∃ server,
    run (step .ascii Aead.transparent) (Server.start none none)
      (oneReply (bareQuery [labelB] 1).encode) = some server ∧
    (∃ entry ∈ server.relay.cache.entries,
      entry.1 = ⟨['a'], 1⟩ ∧ cacheKeyFromQuery .ascii entry.2.packet = .ok (some ⟨['b'], 1⟩) ∧
        entry.2.packet[2]? = some 0x01 ∧ ¬ AnswersKey .ascii entry.1 entry.2.packet) ∧
    server.served.map Served.reply = [some (bareQuery [labelB] 1).encode] := by
  have outcome : outcomeOf (oneReply (bareQuery [labelB] 1).encode) =
      some ([(⟨['a'], 1⟩, (bareQuery [labelB] 1).encode)],
        [some (bareQuery [labelB] 1).encode]) := by decide +kernel
  have other : cacheKeyFromQuery .ascii (bareQuery [labelB] 1).encode =
      .ok (some ⟨['b'], 1⟩) := by decide +kernel
  rcases exists_run_of_outcomeOf outcome with ⟨server, ran, cached, sent⟩
  refine ⟨server, ran, ?_, sent⟩
  rcases List.map_eq_singleton_iff.mp cached with ⟨entry, entries, same⟩
  rcases Prod.mk.inj same with ⟨key, packet⟩
  refine ⟨entry, by rw [entries]; exact List.mem_cons_self, key, by rw [packet, other],
    by rw [packet]; rfl, ?_⟩
  rintro ⟨answers, _⟩
  rw [packet, key, other] at answers
  cases answers

end DnsHijacker.DnsRelay
