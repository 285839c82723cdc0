import DnsHijacker.DnsRelay.HandlerSpec

/-!
# DNS over QUIC

On a QUIC stream a message stands behind its length in two octets, and its ID is 0.
`send_query` clears the ID and leaves the length out, and what it reads is taken for
the message itself.
-/

namespace DnsHijacker.DnsRelay

open DnsHijacker.Rust
open DnsHijacker.Wire
open DnsHijacker.Shared
open DnsHijacker.Shared.Dns

/-- What `send_query` writes on its stream. -/
def sendQuery (payload : Bytes) : Bytes :=
  if payload.length ≥ 2 then (payload.set 0 0).set 1 0 else payload

/-! ## A conforming server -/

/-- A message on a stream. -/
def framed (message : Bytes) : Bytes :=
  u16ToBeBytes (UInt16.ofNat message.length) ++ message

/-- The message of a stream that holds one message and nothing else. -/
def messageOn : Bytes → Option Bytes
  | high :: low :: message =>
      if message.length = (u16FromBeBytes high low).toNat then some message else none
  | _ => none

/-- A server reads what another conforming party writes. -/
theorem messageOn_framed {message : Bytes} (short : message.length < 65536) :
    messageOn (framed message) = some message := by
  have length : (u16FromBeBytes (UInt8.ofNat ((UInt16.ofNat message.length).toNat / 256))
      (UInt8.ofNat ((UInt16.ofNat message.length).toNat % 256))).toNat = message.length := by
    rw [u16FromBeBytes_toBeBytes]
    exact UInt16.toNat_ofNat_of_lt' short
  exact if_pos length.symm

theorem length_framed (message : Bytes) : (framed message).length = 2 + message.length := by
  rw [framed, List.length_append, length_u16ToBeBytes]

/-- The server accepts the stream as the query, which has the ID 0 there. -/
def Accepts (payload stream : Bytes) : Prop :=
  messageOn stream = some (withTxid payload 0 0)

/-- `resolve_query` returns the message of the server under the ID of the query, when the
query was forwarded and the server has answered on its stream. -/
def Passes (ucd : UnicodeData) (aead : Aead) (payload message : Bytes) (domain : Text)
    (cacheKey : CacheKey) (now : Nat) (relay : RelayState) : Prop :=
  ∃ first second after, payload[0]? = some first ∧ payload[1]? = some second ∧
    finishResolve ucd payload domain cacheKey ((Delivery.doq (framed message)).outcome aead) now
      relay = .ok (some (withTxid message first second), after)

/-! ## No query gets through -/

theorem sendQuery_eq {payload : Bytes} (long : 2 ≤ payload.length) :
    sendQuery payload = 0 :: 0 :: payload.drop 2 :=
  withTxid_eq long 0 0

/-- The cleared ID is read as the length. -/
theorem messageOn_sendQuery {payload : Bytes} (long : 12 ≤ payload.length) :
    messageOn (sendQuery payload) = none := by
  have zero : (u16FromBeBytes 0 0).toNat = 0 := rfl
  have more : (payload.drop 2).length ≠ 0 := by
    rw [List.length_drop]
    omega
  rw [sendQuery_eq (Nat.le_trans (by decide) long), messageOn, zero, if_neg more]

/-- A reply that is read has its length in front of it. -/
theorem not_passes {ucd : UnicodeData} {aead : Aead} {payload message : Bytes} {domain : Text}
    {cacheKey : CacheKey} {now : Nat} {relay : RelayState}
    (read : message.length + 2 ≤ doqReadLimit) :
    ¬ Passes ucd aead payload message domain cacheKey now relay := by
  rintro ⟨first, second, after, _, _, finished⟩
  rw [Delivery.outcome, if_pos (by rw [length_framed]; omega)] at finished
  rcases finishResolve_eq_ok finished with ⟨replyBuf, _, _, same, _, _, reply, _⟩ | ⟨error, failed, _⟩
  · cases same
    have lengths := congrArg List.length (Option.some.inj reply)
    rw [length_withTxid, length_withTxid, length_framed] at lengths
    omega
  · contradiction

/-- No query is accepted.  No answer that can be read is passed on as the server's
message, and a longer one is an error. -/
theorem doq_never_agrees (ucd : UnicodeData) (aead : Aead) {payload : Bytes}
    (long : 12 ≤ payload.length) (message : Bytes) :
    ¬ Accepts payload (sendQuery payload) ∧
      (message.length + 2 ≤ doqReadLimit → ∀ domain cacheKey now relay,
        ¬ Passes ucd aead payload message domain cacheKey now relay) ∧
      (doqReadLimit < message.length + 2 → ∃ error,
        (Delivery.doq (framed message)).outcome aead = .error error) := by
  refine ⟨?_, fun read _ _ _ _ => not_passes read, ?_⟩
  · intro accepts
    rw [Accepts, messageOn_sendQuery long] at accepts
    contradiction
  · intro tooLong
    rw [Delivery.outcome, if_neg (by rw [length_framed]; omega)]
    exact ⟨_, rfl⟩

/-- A query for the addresses of `a`. -/
def doqPayload : Bytes :=
  (Query.standard 0x1234 ⟨[labelA], 1, 1⟩).encode

theorem doq_never_agrees_query :
    ¬ Accepts doqPayload (sendQuery doqPayload) ∧
      (doqPayload.length + 2 ≤ doqReadLimit → ∀ domain cacheKey now relay,
        ¬ Passes .ascii Aead.transparent doqPayload doqPayload domain cacheKey now relay) ∧
      (doqReadLimit < doqPayload.length + 2 → ∃ error,
        (Delivery.doq (framed doqPayload)).outcome Aead.transparent = .error error) :=
  doq_never_agrees .ascii Aead.transparent (by decide) doqPayload

/-- The server's reply to the query for `a`. -/
def doqMessage : Bytes :=
  withTxid ((Query.standard 0x1234 ⟨[labelA], 1, 1⟩).withFlags 0x81 0x80).encode 0 0

/-- The stream of the query has no message for the server, which would accept the query in
a frame, and the frame of the reply goes to the client with the ID in place of its length. -/
theorem doq_frame_passed_on :
    messageOn (sendQuery doqPayload) = none ∧
      Accepts doqPayload (framed (sendQuery doqPayload)) ∧
      (finishResolve .ascii doqPayload ['a'] ⟨['a'], 1⟩
        ((Delivery.doq (framed doqMessage)).outcome Aead.transparent) 0
        ⟨newCache, none, none⟩).map Prod.fst = .ok (some ([0x12, 0x34] ++ doqMessage)) := by
  refine ⟨messageOn_sendQuery (by decide), messageOn_framed (by decide), ?_⟩
  decide +kernel

end DnsHijacker.DnsRelay
