import DnsHijacker.DnsRelay.DoqPool
import DnsHijacker.DnsRelay.Relay
import DnsHijacker.Shared.Dns.ARecords
import DnsHijacker.Shared.Dns.EcsSpec

/-!
# Lookups without a relay

`ResolverPicker::resolve` looks a name up for the command line and for the client of a relay: it asks
the fastest resolver, or a given one, for the addresses of the name, with the network of the machine's
own public address as the client subnet.  A resolver is reached over HTTPS, QUIC or a UDP socket; what
these come to is left to the network.
-/

namespace DnsHijacker.DnsRelay

open DnsHijacker.Rust
open DnsHijacker.Wire
open DnsHijacker.Shared
open DnsHijacker.Shared.Dns
open DnsHijacker.DnsRelay.AppsScript (HttpResponse)
open DnsHijacker.DnsRelay.DoqPool (readToEnd)

/-! ## The source functions -/

/-- How a resolver is reached. -/
inductive Channel (Addr : Type) where
  | doh (url : Text)
  | doq (resolver : Text)
  | udp (addr : Addr)

/-- What becomes of a message that is sent over a channel. -/
structure Network (Addr : Type) where
  /-- The first datagram that comes back to the socket. -/
  udp : Addr → Bytes → Except Error Bytes
  doh : Text → Bytes → Except Error HttpResponse
  /-- The stream the resolver answers on. -/
  doq : Text → Bytes → Except Error Bytes

variable {Addr : Type}

/-- The branches of `resolve_from_upstream`; which texts are socket addresses is left to the standard
library. -/
def channelTo (parseAddr : Text → Option Addr) (upstreamResolver : Text) :
    Except Error (Channel Addr) :=
  if "https://".toList.isPrefixOf upstreamResolver then .ok (.doh upstreamResolver)
  else if "quic://".toList.isPrefixOf upstreamResolver then .ok (.doq upstreamResolver)
  else
    match parseAddr upstreamResolver with
    | some addr => .ok (.udp addr)
    | none => .error (.invalidResolver upstreamResolver)

/-- `resolve_via_doh`, `DoqPool::resolve`, and the end of `resolve_from_upstream`. -/
def Network.exchange (network : Network Addr) (message : Bytes) : Channel Addr → Except Error Bytes
  | .doh url =>
      match network.doh url message with
      | .error err => .error err
      | .ok response =>
          if isSuccess response.code then .ok response.content
          else .error (.doh (.status response.code))
  | .doq resolver => readToEnd (network.doq resolver (sendQuery message))
  | .udp addr =>
      match network.udp addr message with
      | .error err => .error err
      | .ok datagram => .ok (datagram.take 4096)

/-- `resolve_from_upstream` -/
def resolveFromUpstream (parseAddr : Text → Option Addr) (network : Network Addr) (payload : Bytes)
    (upstreamResolver : Text) (srcAddr : ClientIp) : Exec (Except Error Bytes) := do
  let finalPayload := (← setEcsOption payload srcAddr none).getD payload
  match channelTo parseAddr upstreamResolver with
  | .error err => return .error err
  | .ok channel => return network.exchange finalPayload channel

/-- `normalize_resolver` -/
def normalizeResolver (resolver : Text) : Text :=
  if "https://".toList.isPrefixOf resolver || "http://".toList.isPrefixOf resolver then resolver
  else if ':' ∈ resolver then resolver
  else resolver ++ ":53".toList

/-- The resolver of a lookup, as `select_resolver` has it as well. -/
def selectResolver (healthy : List Resolver) (resolver : Option Text) : Exec Text :=
  match resolver with
  | some resolver => .ok (normalizeResolver resolver)
  | none => pick healthy

/-- The address that stands in for the public one. -/
def fallbackIp : Ipv4Addr :=
  ⟨185, 143, 233, 5⟩

/-- `ResolverPicker::resolve`, with what `get_public_ip` came to and the transaction ID that was
drawn. -/
def pickerResolve (parseAddr : Text → Option Addr) (network : Network Addr)
    (healthy : List Resolver) (domain : Text) (resolver : Option Text) (publicIp : Option ClientIp)
    (txid : UInt16) : Exec (Except Error (List Ipv4Addr)) := do
  let resolver ← selectResolver healthy resolver
  let srcAddr := publicIp.getD (.v4 fallbackIp)
  match ← resolveFromUpstream parseAddr network (buildLookupQuery txid domain) resolver srcAddr with
  | .error err => return .error err
  | .ok reply => return .ok (← parseARecords reply)

/-! ## The query -/

theorem subnet_short (client : Ipv4Addr) :
    (encodeOptions (replaceSubnet client [])).length < 65536 :=
  (length_replaceSubnet_le client []).trans_lt (by decide)

/-- The client's subnet as the only option of an OPT record. -/
def subnetRecord (client : Ipv4Addr) : Record :=
  withOptions syntheticOpt (encodeOptions (replaceSubnet client [])) (subnet_short client)

theorem subnetRecord_short (client : Ipv4Addr) : [subnetRecord client].length < 65536 :=
  Nat.succ_lt_succ (Nat.zero_lt_succ 65534)

/-- The standard query with the subnet of a client. -/
def subnetQuery (txid : UInt16) (question : Question) (client : Ipv4Addr) : Query :=
  { Query.standard txid question with
    additional := [subnetRecord client]
    additional_short := subnetRecord_short client }

/-- The client whose subnet a lookup names: the fallback where the public address is not known, and
nobody where it is an IPv6 or a loopback address. -/
def subnetClient (publicIp : Option ClientIp) : Option Ipv4Addr :=
  match publicIp.getD (.v4 fallbackIp) with
  | .v4 client => if client.a = 127 then none else some client
  | .v6 => none

/-- The query for the addresses of a name. -/
def lookupMessage (txid : UInt16) (labels : List Label) (publicIp : Option ClientIp) : Query :=
  match subnetClient publicIp with
  | none => .standard txid ⟨labels, 1, 1⟩
  | some client => subnetQuery txid ⟨labels, 1, 1⟩ client

theorem setEcs_standard (txid : UInt16) (question : Question) (client : Ipv4Addr) :
    setEcs (Query.standard txid question).encode client =
      .ok (some (subnetQuery txid question client).encode) := by
  have set := @setEcs_append (Query.standard txid question).toMessage.toPacket [] syntheticOpt client
    rfl (fun record mem => absurd mem List.not_mem_nil) rfl (subnet_short client)
    (subnetRecord_short client)
  rw [Message.encode_toPacket] at set
  rw [Query.encode, set, Query.encode, ← Message.encode_toPacket]
  rfl

/-- What is sent is the query with the subnet of its client. -/
theorem setEcsOption_lookup (txid : UInt16) {domain : Text} {labels : List Label}
    (spells : Spells labels ((trimEndMatches '.' domain).splitOn '.')) (publicIp : Option ClientIp) :
    ∃ set, setEcsOption (buildLookupQuery txid domain) (publicIp.getD (.v4 fallbackIp)) none =
      .ok set ∧
        set.getD (buildLookupQuery txid domain) = (lookupMessage txid labels publicIp).encode := by
  rw [buildLookupQuery_eq_encode spells, lookupMessage]
  dsimp only [subnetClient]
  cases publicIp.getD (.v4 fallbackIp) with
  | v6 => exact ⟨none, rfl, rfl⟩
  | v4 client =>
      by_cases loopback : client.a = 127
      · exact ⟨_, if_pos loopback, by simp only [if_pos loopback]; rfl⟩
      · refine ⟨_, (setEcsOption_of_not_loopback loopback none).trans (setEcs_standard _ _ _), ?_⟩
        simp only [if_neg loopback]
        rfl

/-! ## What a lookup returns -/

/-- The resolver that is asked: the one that was given, or else the first of the pool. -/
def Asks (healthy : List Resolver) (given : Option Text) (resolver : Text) : Prop :=
  match given with
  | some named => resolver = normalizeResolver named
  | none => ∃ latency, healthy.head? = some (resolver, latency)

/-- The addresses that are read from a reply: of an encoded packet those of its answer section, in
order, and of a packet that is cut off the first of them. -/
structure Reads (reply : Bytes) (ips : List Ipv4Addr) : Prop where
  whole : ∀ packet : Packet, reply = packet.encode → ips = packet.answers.filterMap aRecord
  cut : ∀ (packet : Packet) count, reply = packet.encode.take count →
    ips <+: packet.answers.filterMap aRecord

theorem exists_reads (reply : Bytes) : ∃ ips, parseARecords reply = .ok ips ∧ Reads reply ips := by
  obtain ⟨ips, parsed⟩ := parseARecords_returns reply
  refine ⟨ips, parsed, ?_, ?_⟩
  · rintro packet rfl
    exact Except.ok.inj (parsed.symm.trans (parseARecords_packet packet))
  · rintro packet count rfl
    obtain ⟨first, all, firstRead, allRead, isPrefix⟩ := parseARecords_take packet.encode count
    cases parsed.symm.trans firstRead
    cases allRead.symm.trans (parseARecords_packet packet)
    exact isPrefix

variable (parseAddr : Text → Option Addr) (network : Network Addr)

/-- What comes of a message to a resolver. -/
def outcomeAt (resolver : Text) (message : Bytes) : Except Error Bytes :=
  channelTo parseAddr resolver >>= network.exchange message

/-- What a lookup returns: the error it has met, or the addresses that are read from the reply. -/
def Returned (resolver : Text) (query : Query) (result : Except Error (List Ipv4Addr)) : Prop :=
  match outcomeAt parseAddr network resolver query.encode with
  | .error err => result = .error err
  | .ok reply => ∃ ips, result = .ok ips ∧ Reads reply ips

variable {parseAddr network}

theorem resolveFromUpstream_eq {payload : Bytes} {srcAddr : ClientIp} {set : Option Bytes}
    (sent : setEcsOption payload srcAddr none = .ok set) (resolver : Text) :
    resolveFromUpstream parseAddr network payload resolver srcAddr =
      .ok (outcomeAt parseAddr network resolver (set.getD payload)) := by
  rw [resolveFromUpstream, sent, outcomeAt]
  cases channelTo parseAddr resolver <;> rfl

theorem exists_asks {healthy : List Resolver} (nonempty : healthy ≠ []) (given : Option Text) :
    ∃ resolver, Asks healthy given resolver ∧ selectResolver healthy given = .ok resolver := by
  cases given with
  | some named => exact ⟨normalizeResolver named, rfl, rfl⟩
  | none =>
      obtain ⟨first, rest, rfl⟩ := List.exists_cons_of_ne_nil nonempty
      exact ⟨first.1, ⟨first.2, rfl⟩, rfl⟩

/-- A lookup of a name whose parts fit into labels, with a pool that is not empty, whatever the network
does: it asks the given resolver, or the fastest one, for the addresses of exactly that name, in the
client's subnet, and returns the addresses of the reply or the error it has met. -/
theorem lookup_direct (parseAddr : Text → Option Addr) (network : Network Addr)
    {healthy : List Resolver} (nonempty : healthy ≠ []) {domain : Text}
    (fits : ∀ part ∈ (trimEndMatches '.' domain).splitOn '.', FitsLabel part) (given : Option Text)
    (publicIp : Option ClientIp) (txid : UInt16) :
    ∃ labels resolver result, Spells labels ((trimEndMatches '.' domain).splitOn '.') ∧
      Asks healthy given resolver ∧
      pickerResolve parseAddr network healthy domain given publicIp txid = .ok result ∧
      Returned parseAddr network resolver (lookupMessage txid labels publicIp) result := by
  obtain ⟨labels, spells⟩ := exists_spells fits
  obtain ⟨resolver, asks, picked⟩ := exists_asks nonempty given
  obtain ⟨set, sent, message⟩ := setEcsOption_lookup txid spells publicIp
  simp only [pickerResolve, picked, bind, Except.bind]
  rw [resolveFromUpstream_eq sent, message]
  cases outcome : outcomeAt parseAddr network resolver (lookupMessage txid labels publicIp).encode with
  | error err =>
      refine ⟨labels, resolver, .error err, spells, asks, rfl, ?_⟩
      simp only [Returned, outcome]
  | ok reply =>
      obtain ⟨ips, parsed, reads⟩ := exists_reads reply
      refine ⟨labels, resolver, .ok ips, spells, asks, ?_, ?_⟩
      · simp only [parsed]
        rfl
      · simp only [Returned, outcome]
        exact ⟨ips, rfl, reads⟩

/-! ## A resolver that answers any query with one address -/

/-- A reply with one address in its answer section. -/
def oneAddress : Packet where
  txid := 1
  flagsHigh := 0x81
  flagsLow := 0x80
  questions := []
  answers := [⟨⟨[], none⟩, 1, 1, 60, [10, 0, 0, 1], by decide⟩]
  authority := []
  additional := []
  questions_short := by decide
  answers_short := by decide
  authority_short := by decide
  additional_short := by decide

/-- A network in which every socket address gives `oneAddress`, and nothing else is reached. -/
def oneAddressNetwork : Network Unit where
  udp _ _ := .ok oneAddress.encode
  doh _ _ := .error .resolveTimeout
  doq _ _ := .error .resolveTimeout

theorem lookup_direct_one_address :
    pickerResolve (fun _ => some ()) oneAddressNetwork [("9.9.9.9:53".toList, 1)] ['a', '.'] none none
      7 = .ok (.ok [⟨10, 0, 0, 1⟩]) := by
  obtain ⟨labels, resolver, result, -, ⟨latency, head⟩, resolved, returned⟩ :=
    lookup_direct (fun _ => some ()) oneAddressNetwork
      (by decide : [("9.9.9.9:53".toList, 1)] ≠ [])
      (by decide : ∀ part ∈ (trimEndMatches '.' ['a', '.']).splitOn '.', FitsLabel part) none none 7
  cases head
  obtain ⟨ips, rfl, reads⟩ := returned
  rw [resolved, reads.whole oneAddress (by decide +kernel)]
  rfl

end DnsHijacker.DnsRelay
