import DnsHijacker.DnsRelay.Coherence

/-!
# Which queries are answered

For well-formed queries and upstreams the pipeline has two ways not to answer,
and both are checks of its own: a name that is not UTF-8 is refused, and so is a
redirect rule without a single IPv4 address.  Every other query gets a reply
with its transaction ID and the response bit.
-/

namespace DnsHijacker.DnsRelay

open DnsHijacker.Rust
open DnsHijacker.Library
open DnsHijacker.Wire
open DnsHijacker.Shared
open DnsHijacker.Shared.Dns

variable {ucd : UnicodeData} {aead : Aead} {ruleTrie : DomainTrie}

/-- At least a header, with the response bit set. -/
def IsResponseHeader (packet : Bytes) : Prop :=
  12 ≤ packet.length ∧ ∃ flags, packet[2]? = some flags ∧ 128 ≤ flags

/-- A reply to the query: it has the query's transaction ID. -/
def RepliesTo (query : Query) (reply : Bytes) : Prop :=
  IsResponseHeader reply ∧ reply.take 2 = u16ToBeBytes query.txid

/-- The name of the query can be read, and a redirect for it has an address. -/
def Answerable (ucd : UnicodeData) (ruleTrie : DomainTrie) (query : Query) : Prop :=
  (∀ label ∈ query.question.labels, label.IsUtf8) ∧
    ∀ ips, checkRules ucd (dottedName ucd query.question.labels) ruleTrie = .redirect ips →
      ips.filterMap parseIpv4 ≠ []

/-- The query of an event is well formed, and so is a reply that arrives. -/
def Event.WellFormed (aead : Aead) : Event → Prop
  | .query _ _ payload _ => ∃ query : Query, payload = query.encode
  | .deliver _ delivery _ => ∀ reply, delivery.outcome aead = .ok reply → WellFormedResponse reply

/-! ## Replies -/

theorem repliesTo_withFlags (query : Query) {high : UInt8} (isResponse : 128 ≤ high)
    (low : UInt8) : RepliesTo query (query.withFlags high low).encode := by
  constructor
  · exact ⟨(query.withFlags high low).twelve_le_length, high, rfl, isResponse⟩
  · rfl

theorem repliesTo_redirectBytes (query : Query) (ips : List Ipv4Addr) :
    RepliesTo query (redirectBytes query ips) := by
  constructor
  · constructor
    · simp only [redirectBytes, List.length_append, length_u16ToBeBytes, List.length_cons]
      omega
    · exact ⟨0x81, rfl, by decide⟩
  · rfl

theorem isResponseHeader_withTxid {packet : Bytes} (isResponse : IsResponseHeader packet)
    (first second : UInt8) : IsResponseHeader (withTxid packet first second) := by
  rcases isResponse with ⟨long, flags, found, high⟩
  rw [withTxid, if_pos (Nat.le_trans (by decide) long)]
  constructor
  · rw [List.length_set, List.length_set]
    exact long
  · refine ⟨flags, ?_, high⟩
    rw [List.getElem?_set_ne (by decide), List.getElem?_set_ne (by decide)]
    exact found

/-- A packet under the transaction ID of the query. -/
theorem repliesTo_withTxid (query : Query) {packet : Bytes}
    (isResponse : IsResponseHeader packet) :
    RepliesTo query (withTxid packet (UInt8.ofNat (query.txid.toNat / 256))
      (UInt8.ofNat (query.txid.toNat % 256))) := by
  constructor
  · exact isResponseHeader_withTxid isResponse _ _
  · rcases packet with _ | ⟨x, _ | ⟨y, rest⟩⟩
    · exact absurd isResponse.1 (by simp)
    · exact absurd isResponse.1 (by simp)
    · rfl

theorem isResponseHeader_of_wellFormed {packet : Bytes}
    (wellFormed : WellFormedResponse packet) : IsResponseHeader packet :=
  ⟨wellFormed.twelve_le_length, wellFormed.isResponse⟩

/-! ## The pipeline -/

/-- A forwarded query is answered, by the reply of the upstream or by SERVFAIL. -/
theorem finishResolve_repliesTo (query : Query) (domain : Text) (cacheKey : CacheKey)
    {resolveResult : Except Error Bytes}
    (wellFormed : ∀ replyBuf, resolveResult = .ok replyBuf → WellFormedResponse replyBuf)
    (later : Nat) (state : RelayState) :
    ∃ reply after, finishResolve ucd query.encode domain cacheKey resolveResult later state =
      .ok (some reply, after) ∧ RepliesTo query reply := by
  have returns : Returns
      (finishResolve ucd query.encode domain cacheKey resolveResult later state) := by
    rw [finishResolve_returns_iff query.twelve_le_length]
    intro replyBuf ok
    exact minAnswerTtl_returns_of_wellFormed (wellFormed replyBuf ok)
  rcases returns with ⟨⟨reply, after⟩, finished⟩
  rcases finishResolve_eq_ok finished with
    ⟨replyBuf, first, second, ok, firstFound, secondFound, rfl, _⟩ | ⟨error, _, rfl, _⟩
  · cases firstFound
    cases secondFound
    exact ⟨_, after, finished,
      repliesTo_withTxid query (isResponseHeader_of_wellFormed (wellFormed replyBuf ok))⟩
  · have crafted := craftFlagged_query query 0x82
    rw [craftServfailResponse, crafted] at finished
    exact ⟨_, after, finished, repliesTo_withFlags query (by decide) 0x82⟩

/-- An answerable query is answered if every live entry of the cache is a
response and the upstream gives none but well-formed ones. -/
theorem resolveQuery_of_answerable {query : Query} (answerable : Answerable ucd ruleTrie query)
    {state : RelayState}
    (cached : ∀ entry ∈ state.cache.entries, IsResponseHeader entry.2.packet)
    {resolveResult : Except Error Bytes}
    (wellFormed : ∀ replyBuf, resolveResult = .ok replyBuf → WellFormedResponse replyBuf)
    (now later : Nat) :
    ∃ reply after, resolveQuery ucd ruleTrie query.encode resolveResult now later state =
      .ok (some reply, after) ∧ RepliesTo query reply := by
  rcases answerable with ⟨utf8, addresses⟩
  rw [resolveQuery, beginResolve_eq, verdict_query, if_pos utf8]
  cases rules : checkRules ucd (dottedName ucd query.question.labels) ruleTrie with
  | drop => exact ⟨_, _, rfl, repliesTo_withFlags query (by decide) 0x83⟩
  | redirect ips =>
      dsimp only
      rw [if_neg (addresses ips rules)]
      exact ⟨_, _, rfl, repliesTo_redirectBytes query _⟩
  | none =>
      simp only [Except.map, receive]
      rcases looked : cacheLookup state.cache (questionKey ucd query.question) now with ⟨hit, cache⟩
      cases hit with
      | some packet =>
          have found : (cacheLookup state.cache (questionKey ucd query.question) now).1 =
              some packet := by rw [looked]
          rcases mem_of_cacheLookup found with ⟨entry, mem, rfl, _⟩
          exact ⟨_, _, rfl, repliesTo_withTxid query (cached _ mem)⟩
      | none => exact finishResolve_repliesTo query _ _ wellFormed later _

/-- A query that is not answerable gets no reply. -/
theorem resolveQuery_of_not_answerable {query : Query}
    (not_answerable : ¬ Answerable ucd ruleTrie query) (resolveResult : Except Error Bytes)
    (now later : Nat) (state : RelayState) :
    resolveQuery ucd ruleTrie query.encode resolveResult now later state = .ok (none, state) := by
  rw [resolveQuery, beginResolve_eq, verdict_query]
  by_cases utf8 : ∀ label ∈ query.question.labels, label.IsUtf8
  · rw [if_pos utf8]
    cases rules : checkRules ucd (dottedName ucd query.question.labels) ruleTrie with
    | drop =>
        exact absurd ⟨utf8, fun ips redirects => by rw [rules] at redirects; contradiction⟩
          not_answerable
    | none =>
        exact absurd ⟨utf8, fun ips redirects => by rw [rules] at redirects; contradiction⟩
          not_answerable
    | redirect ips =>
        by_cases empty : ips.filterMap parseIpv4 = []
        · dsimp only
          rw [if_pos empty]
          rfl
        · refine absurd ⟨utf8, ?_⟩ not_answerable
          intro others redirects
          rw [rules] at redirects
          cases redirects
          exact empty
  · rw [if_neg utf8]
    rfl

/-- After a run of well-formed events every cached packet is a response. -/
theorem cached_isResponseHeader {metrics : Option MetricWrapper}
    {history : Option (List (Text × List Text))} {trace : List Event} {server : Server}
    (ran : run (step ucd aead) (Server.start metrics history) trace = some server)
    (wellFormed : ∀ event ∈ trace, event.WellFormed aead) :
    ∀ entry ∈ server.relay.cache.entries, IsResponseHeader entry.2.packet := by
  intro entry mem
  rcases (provenance_of_run ran).cached entry mem with
    ⟨id, trie, payload, asked, delivery, later, reply, ordered, _, ok, packet⟩
  have delivered : Event.deliver id delivery later ∈ trace :=
    ordered.subset (List.mem_cons_of_mem _ List.mem_cons_self)
  rw [packet]
  exact isResponseHeader_withTxid (isResponseHeader_of_wellFormed (wellFormed _ delivered reply ok)) 0 0

/-- After any run of well-formed queries and deliveries, the next query is
answered by a response with its transaction ID if it is answerable, whatever its
upstream call comes to; otherwise there is no reply. -/
theorem answered_iff_answerable (ucd : UnicodeData) (aead : Aead)
    (metrics : Option MetricWrapper) (history : Option (List (Text × List Text)))
    (trace : List Event) (server : Server)
    (ran : run (step ucd aead) (Server.start metrics history) trace = some server)
    (wellFormed : ∀ event ∈ trace, event.WellFormed aead) (ruleTrie : DomainTrie) (query : Query)
    (resolveResult : Except Error Bytes)
    (replyWellFormed : ∀ reply, resolveResult = .ok reply → WellFormedResponse reply)
    (now later : Nat) :
    (Answerable ucd ruleTrie query →
      ∃ reply after, resolveQuery ucd ruleTrie query.encode resolveResult now later server.relay =
        .ok (some reply, after) ∧ RepliesTo query reply) ∧
    (¬ Answerable ucd ruleTrie query →
      resolveQuery ucd ruleTrie query.encode resolveResult now later server.relay =
        .ok (none, server.relay)) := by
  constructor
  · intro answerable
    exact resolveQuery_of_answerable answerable (cached_isResponseHeader ran wellFormed)
      replyWellFormed now later
  · intro not_answerable
    exact resolveQuery_of_not_answerable not_answerable resolveResult now later server.relay

theorem wellFormedResponse_emptyReply (label : Wire.Label) :
    WellFormedResponse (emptyReply label) := by
  have inside := ((bareQuery [label] 1).withFlags 0x81 0x80).nameEnd_add_four_le
  constructor
  · exact ⟨0x81, rfl, by decide⟩
  · exact ⟨_, rfl⟩
  · exact ⟨0, 0, 0, _, _, ⟨_, rfl⟩, ⟨_, rfl⟩, ⟨_, rfl⟩, nameAt_encodeName (Message.occurs_name _),
      inside, .done⟩

theorem answered_iff_answerable_oneReply : ∃ server,
    run (step .ascii Aead.transparent) (Server.start none none) (oneReply (emptyReply labelA)) =
      some server ∧
    ∃ reply after, resolveQuery .ascii Trie.empty (bareQuery [labelB] 1).encode
      (.error .resolveTimeout) 0 0 server.relay = .ok (some reply, after) ∧
        RepliesTo (bareQuery [labelB] 1) reply := by
  have outcome : outcomeOf (oneReply (emptyReply labelA)) =
      some ([(⟨['a'], 1⟩, emptyReply labelA)], [some (emptyReply labelA)]) := by decide +kernel
  have wellFormed : ∀ event ∈ oneReply (emptyReply labelA), event.WellFormed Aead.transparent := by
    intro event mem
    rcases List.mem_pair.mp mem with rfl | rfl
    · exact ⟨bareQuery [labelA] 1, rfl⟩
    · rintro reply ok
      cases ok
      exact wellFormedResponse_emptyReply labelA
  have answerable : Answerable .ascii Trie.empty (bareQuery [labelB] 1) := by
    constructor
    · decide
    · intro ips redirects
      have unmatched : checkRules .ascii (dottedName .ascii (bareQuery [labelB] 1).question.labels)
          Trie.empty = .none := by decide +kernel
      rw [unmatched] at redirects
      contradiction
  rcases exists_run_of_outcomeOf outcome with ⟨server, ran, _⟩
  exact ⟨server, ran, (answered_iff_answerable .ascii Aead.transparent none none _ server ran
    wellFormed Trie.empty (bareQuery [labelB] 1) (.error .resolveTimeout)
    (fun reply ok => by contradiction) 0 0).1 answerable⟩

/-- A label that is not UTF-8. -/
def labelFF : Wire.Label :=
  ⟨[0xFF], by decide, by decide⟩

/-- Neither a query for the label `FF` nor one for a name whose redirect target
is an IPv6 address is answered. -/
theorem unanswered_queries :
    (∀ resolveResult now later,
      resolveQuery .ascii Trie.empty (bareQuery [labelFF] 1).encode resolveResult now later
        ⟨newCache, none, none⟩ = .ok (none, ⟨newCache, none, none⟩)) ∧
    ∀ resolveResult now later,
      resolveQuery .ascii (DomainTrie.build .ascii (fun _ => none) [] [(['a'], "::1".toList)])
        (bareQuery [labelA] 1).encode resolveResult now later ⟨newCache, none, none⟩ =
          .ok (none, ⟨newCache, none, none⟩) := by
  constructor
  · intro resolveResult now later
    apply resolveQuery_of_not_answerable
    rintro ⟨utf8, _⟩
    exact absurd utf8 (by decide +kernel)
  · intro resolveResult now later
    apply resolveQuery_of_not_answerable
    rintro ⟨_, addresses⟩
    exact addresses [[]] (by decide +kernel) (by decide +kernel)

end DnsHijacker.DnsRelay
