import DnsHijacker.Shared.Pipeline

/-!
# What comes back from upstream

A reply reaches the handler over a connected UDP socket, an HTTPS or QUIC
stream, or an encrypted relay.  `Delivery` is what arrives on such a channel and
`Delivery.outcome` what the handler makes of it.  No transport compares a reply
with the query it was asked.
-/

namespace DnsHijacker.DnsRelay

open DnsHijacker.Rust
open DnsHijacker.Shared

/-- AES-256-GCM under one relay key.  The cipher is a crate; all that is used of
it is that a message decrypts to itself under the nonce it was encrypted
with. -/
structure Aead where
  encrypt : Bytes → Bytes → Bytes
  decrypt : Bytes → Bytes → Option Bytes
  decrypt_encrypt : ∀ nonce message, decrypt nonce (encrypt nonce message) = some message

namespace Aead

variable (aead : Aead)

/-- `encode_for_relay` with the nonce drawn for the message. -/
def encodeForRelay (nonce dnsMessage : Bytes) : Bytes :=
  nonce ++ aead.encrypt nonce dnsMessage

/-- `decode_from_relay` -/
def decodeFromRelay (packet : Bytes) : Option Bytes :=
  if packet.length < 12 then none
  else aead.decrypt (packet.take 12) (packet.drop 12)

variable {aead}

/-- A relay packet decodes to the message it was made from. -/
theorem decodeFromRelay_encodeForRelay {nonce : Bytes} (twelve : nonce.length = 12)
    (message : Bytes) : aead.decodeFromRelay (aead.encodeForRelay nonce message) = some message := by
  have long : ¬ (nonce ++ aead.encrypt nonce message).length < 12 := by
    rw [List.length_append, twelve]
    exact Nat.not_lt.mpr (Nat.le_add_right 12 _)
  have head : (nonce ++ aead.encrypt nonce message).take 12 = nonce := by
    rw [← twelve]
    exact List.take_left
  have tail : (nonce ++ aead.encrypt nonce message).drop 12 = aead.encrypt nonce message := by
    rw [← twelve]
    exact List.drop_left
  rw [decodeFromRelay, encodeForRelay, if_neg long, head, tail]
  exact aead.decrypt_encrypt nonce message

/-- A cipher that does nothing. -/
def transparent : Aead where
  encrypt _ message := message
  decrypt _ ciphertext := some ciphertext
  decrypt_encrypt _ _ := rfl

end Aead

/-- What arrives for one forwarded query. -/
inductive Delivery where
  /-- A datagram from the address the query's own socket is connected to. -/
  | udp (datagram : Bytes)
  /-- The response to the HTTPS request. -/
  | doh (status : Nat) (body : Bytes)
  /-- The stream the query was sent on, up to its end. -/
  | doq (stream : Bytes)
  /-- The response body of a relay worker. -/
  | relay (body : Bytes)
  /-- Any failure of the transport, a timeout included. -/
  | failed (error : Error)

/-- `DOQ_READ_LIMIT` -/
def doqReadLimit : Nat :=
  65535

/-- The result of `resolve_from_upstream`, of `resolve_via_relay` and of the
timeout around them. -/
def Delivery.outcome (aead : Aead) : Delivery → Except Error Bytes
  | .udp datagram => .ok (datagram.take 4096)
  | .doh status body =>
      if 200 ≤ status ∧ status < 300 then .ok body else .error (.doh (.status status))
  | .doq stream =>
      if stream.length ≤ doqReadLimit then .ok stream
      else .error (.config "failed to read DoQ response: stream too long".toList)
  | .relay body =>
      match aead.decodeFromRelay body with
      | some reply => .ok reply
      | none => .error (.config "decrypt failed".toList)
  | .failed error => .error error

end DnsHijacker.DnsRelay
