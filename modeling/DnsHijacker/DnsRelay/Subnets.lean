import DnsHijacker.DnsRelay.Coherence
import DnsHijacker.DnsRelay.Traffic
import DnsHijacker.Shared.Dns.Sections

/-!
# Answers and the subnets of the clients

A resolver is told the /24 of the client that asks.  The cache is shared by all
clients, and its keys have no subnet in them: the answer to a forwarded query is
the one for the client's own /24, a cached one is for the /24 of the client whose
query was forwarded.
-/

namespace DnsHijacker.DnsRelay

open DnsHijacker.Rust
open DnsHijacker.Library
open DnsHijacker.Wire
open DnsHijacker.Shared
open DnsHijacker.Shared.Dns

variable {ucd : UnicodeData} {aead : Aead}

/-! ## What the upstream is told -/

/-- What is sent upstream for a query: `resolve_from_upstream` sets the subnet
option if it can, a relay instance sends the query as it is. -/
def Asked.message (viaRelay : Bool) (asked : Asked) : Exec Bytes :=
  if viaRelay then .ok asked.payload
  else (setEcsOption asked.payload asked.client none).map (·.getD asked.payload)

/-- An IPv4 client asks a well-formed query that fits the receive buffer. -/
structure AsksIpv4 (asked : Asked) : Prop where
  client : ∃ addr, asked.client = .v4 addr
  query : ∃ packet : Packet, asked.payload = packet.encode ∧ packet.encode.length ≤ 1310 ∧
    ∀ record ∈ packet.additional, record.rtype = 41 →
      ∃ options, record.rdata = encodeOptions options

/-- The subnet that goes upstream with a query: the /24 of the client, unless the
query goes to a relay or the client is the machine itself; then whatever the
query says. -/
def Asked.subnetSent (viaRelay : Bool) (asked : Asked) : Option Bytes :=
  match asked.client with
  | .v4 addr => if viaRelay ∨ addr.a = 127 then subnetOf asked.payload else some (ecsData addr)
  | .v6 => subnetOf asked.payload

/-- The message is sent for the query; it asks the question of the client for the
client's subnet. -/
structure SentFor (viaRelay : Bool) (asked : Asked) (message : Bytes) : Prop where
  sent : asked.message viaRelay = .ok message
  question : AsksIpv4 asked → questionSection message = questionSection asked.payload
  subnet : AsksIpv4 asked → subnetOf message = asked.subnetSent viaRelay

theorem AsksIpv4.exists_message {asked : Asked} (asks : AsksIpv4 asked) (viaRelay : Bool) :
    ∃ message, asked.message viaRelay = .ok message ∧
      questionSection message = questionSection asked.payload ∧
      subnetOf message = asked.subnetSent viaRelay := by
  rcases asked with ⟨client, payload⟩
  rcases asks.client with ⟨addr, rfl⟩
  rcases asks.query with ⟨packet, rfl, fits, wellFormed⟩
  cases viaRelay with
  | true => exact ⟨_, rfl, rfl, rfl⟩
  | false =>
      by_cases loopback : addr.a = 127
      · have unchanged : setEcsOption packet.encode (.v4 addr) none = .ok (some packet.encode) := by
          rw [setEcsOption, if_pos loopback]
          rfl
        refine ⟨packet.encode, ?_, rfl, ?_⟩
        · simp [Asked.message, unchanged, Except.map]
        · simp [Asked.subnetSent, loopback]
      · obtain ⟨out, sent, set⟩ := setEcsOption_packet packet fits wellFormed addr loopback none
        refine ⟨out, ?_, ?_, ?_⟩
        · simp [Asked.message, sent, Except.map]
        · rw [set.questionSection_eq, questionSection_packet]
        · simp [Asked.subnetSent, loopback, set.subnetOf_eq fits]

theorem sentFor_of_message {viaRelay : Bool} {asked : Asked} {message : Bytes}
    (sent : asked.message viaRelay = .ok message) : SentFor viaRelay asked message := by
  have here : AsksIpv4 asked → questionSection message = questionSection asked.payload ∧
      subnetOf message = asked.subnetSent viaRelay := by
    intro asks
    obtain ⟨other, same, told⟩ := asks.exists_message viaRelay
    rw [sent] at same
    cases same
    exact told
  exact ⟨sent, fun asks => (here asks).1, fun asks => (here asks).2⟩

/-- The reply is the one the upstream has for the question and the subnet in the
message it has received. -/
def GivenFor (upstream : Option Bytes → Option Bytes → Bytes) (viaRelay : Bool) (asked : Asked)
    (reply : Bytes) : Prop :=
  ∃ message, asked.message viaRelay = .ok message ∧
    withTxid reply 0 0 = upstream (questionSection message) (subnetOf message)

/-! ## Answers -/

/-- The reply is what the upstream has for the message sent for a query with the
same key: the answered query itself, or an earlier one whose reply is still in
its lifetime. -/
structure AnswersFor (ucd : UnicodeData) (upstream : Option Bytes → Option Bytes → Bytes)
    (viaRelay : Bool) (answered : Answered) (source : Obtained) (reply : Bytes) : Prop where
  key : ∃ key, cacheKeyFromQuery ucd source.asked.payload = .ok (some key) ∧
    cacheKeyFromQuery ucd answered.asked.payload = .ok (some key)
  reply : ∃ message first second, SentFor viaRelay source.asked message ∧
    answered.asked.payload[0]? = some first ∧ answered.asked.payload[1]? = some second ∧
    reply = withTxid (upstream (questionSection message) (subnetOf message)) first second
  current : (source.asked = answered.asked ∧ source.time = answered.time) ∨
    ∃ ttl, packetTtl ucd source.reply = .ok ttl ∧ answered.time < source.time + ttl

/-- In every run with an upstream whose answer depends on the question and the
subnet it is told, a reply is the relay's own or the upstream's for the subnet of
the client whose query was forwarded: the client's own if that is its query, and
any other client's if it is answered from the cache. -/
theorem answers_for_forwarded_subnet (ucd : UnicodeData) (aead : Aead)
    (metrics : Option MetricWrapper) (history : Option (List (Text × List Text)))
    (upstream : Option Bytes → Option Bytes → Bytes) (viaRelay : Bool)
    (trace : List TrafficEvent) (traffic : Traffic)
    (ran : run (trafficStep ucd aead) (Traffic.start metrics history) trace = some traffic)
    (meets : Along (trafficStep ucd aead) (Meets aead (fun _ => True) (GivenFor upstream viaRelay))
      (Traffic.start metrics history) trace) :
    ∀ answered ∈ traffic.answered, ∀ reply, answered.reply = some reply →
      (answered.source = none ∧ OwnReply answered.asked.payload reply) ∨
        ∃ source, answered.source = some source ∧
          AnswersFor ucd upstream viaRelay answered source reply := by
  intro answered mem reply sent
  have ofKind := ofKind_of_run meets ran
  rcases (accounts_of_run ran).answered answered mem reply sent with own | ⟨source, made, passesOn⟩
  · exact .inl own
  · right
    obtain ⟨message, asked, given⟩ := ((ofKind.answered answered mem).2 source made).2
    rcases passesOn.reply with ⟨first, second, firstFound, secondFound, rfl⟩
    refine ⟨source, made, passesOn.key, ?_, passesOn.current⟩
    refine ⟨message, first, second, sentFor_of_message asked, firstFound, secondFound, ?_⟩
    rw [← given, withTxid_withTxid]

/-! ## Two clients -/

/-- Clients of two subnets. -/
def clientA : Ipv4Addr := ⟨198, 51, 100, 42⟩

def clientB : Ipv4Addr := ⟨203, 0, 113, 7⟩

/-- A client asks for the addresses of `a`. -/
def askedFrom (client : Ipv4Addr) : Asked :=
  ⟨.v4 client, (bareQuery [labelA] 1).encode⟩

/-- An upstream that has a reply for the first client's subnet and denies the
name to all others. -/
def twoSites (_ subnet : Option Bytes) : Bytes :=
  if subnet = some (ecsData clientA) then emptyReply labelA
  else ((bareQuery [labelA] 1).withFlags 0x81 0x83).encode

theorem asksIpv4_askedFrom (client : Ipv4Addr) : AsksIpv4 (askedFrom client) where
  client := ⟨client, rfl⟩
  query := by
    refine ⟨(bareQuery [labelA] 1).toMessage.toPacket, ?_, by decide, ?_⟩
    · exact (Message.encode_toPacket _).symm
    · intro record mem
      contradiction

/-- The first client's query, its reply, and the second client's query. -/
def twoClients : List TrafficEvent :=
  twoQueries (askedFrom clientA) (askedFrom clientB) (.udp (emptyReply labelA)) 0

theorem meets_twoClients :
    Along (trafficStep .ascii Aead.transparent)
      (Meets Aead.transparent (fun _ => True) (GivenFor twoSites false)) (Traffic.start none none)
      twoClients := by
  apply meets_twoQueries trivial trivial
  intro reply outcome
  cases outcome
  obtain ⟨message, sent, _, subnet⟩ := (asksIpv4_askedFrom clientA).exists_message false
  refine ⟨message, sent, ?_⟩
  rw [subnet]
  rfl

theorem repliesOf_twoClients : repliesOf twoClients =
    some [(askedFrom clientB, some (emptyReply labelA), 0, some 0),
      (askedFrom clientA, some (emptyReply labelA), 0, some 0)] := by
  decide +kernel

theorem answers_for_forwarded_subnet_two : ∃ traffic,
    run (trafficStep .ascii Aead.transparent) (Traffic.start none none) twoClients = some traffic ∧
    ∀ answered ∈ traffic.answered, ∀ reply, answered.reply = some reply →
      (answered.source = none ∧ OwnReply answered.asked.payload reply) ∨
        ∃ source, answered.source = some source ∧
          AnswersFor .ascii twoSites false answered source reply := by
  obtain ⟨traffic, ran, _⟩ := exists_last_of_repliesOf repliesOf_twoClients
  exact ⟨traffic, ran, answers_for_forwarded_subnet .ascii Aead.transparent none none twoSites false
    twoClients traffic ran meets_twoClients⟩

/-- The second client gets the reply for the first client's subnet. -/
theorem other_subnet_answered : ∃ traffic,
    run (trafficStep .ascii Aead.transparent) (Traffic.start none none) twoClients = some traffic ∧
    Along (trafficStep .ascii Aead.transparent)
      (Meets Aead.transparent (fun _ => True) (GivenFor twoSites false)) (Traffic.start none none)
      twoClients ∧
    ∃ answered ∈ traffic.answered, ∃ reply, AsksIpv4 answered.asked ∧
      answered.reply = some reply ∧
      ¬ ∃ first second, reply = withTxid (twoSites (questionSection answered.asked.payload)
        (answered.asked.subnetSent false)) first second := by
  obtain ⟨traffic, ran, answered, mem, asked, sent, _⟩ :=
    exists_last_of_repliesOf repliesOf_twoClients
  refine ⟨traffic, ran, meets_twoClients, answered, mem, _, ?_, sent, ?_⟩
  · rw [asked]
    exact asksIpv4_askedFrom clientB
  · rintro ⟨first, second, same⟩
    have behind := congrArg (List.drop 2) same
    rw [asked, drop_withTxid _ _ _ (Nat.le_refl 2)] at behind
    exact absurd behind (by decide)

end DnsHijacker.DnsRelay
