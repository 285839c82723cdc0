import DnsHijacker.DnsRelay.AppsScript
import DnsHijacker.Shared.Dns.Lookup
import DnsHijacker.Shared.Dns.Message

/-!
# The relay's client

A query for the relay is encrypted, posted to the worker's URL, and the body of the response is
decrypted.  `resolve_via_relay` does so for the queries of the server, and `resolve_domain_via_relay`
for a name on the command line; only the latter looks at the status of the response.
-/

namespace DnsHijacker.DnsRelay

open DnsHijacker.Rust
open DnsHijacker.Shared
open DnsHijacker.Shared.Dns
open DnsHijacker.DnsRelay.AppsScript (Nonce HttpResponse)

/-- What the request with a body comes to: a response that was read to its end, or the message of
`reqwest`. -/
abbrev Post := Bytes → Except Text HttpResponse

/-- What `is_success` accepts. -/
def isSuccess (status : Nat) : Bool :=
  200 ≤ status ∧ status < 300

/-- `resolve_via_relay`, with the nonce that was drawn. -/
def resolveViaRelay (aead : Aead) (nonce : Nonce) (post : Post) (dnsQuery : Bytes) :
    Except Error Bytes :=
  match post (aead.encodeForRelay nonce.bytes dnsQuery) with
  | .error err => .error (.config err)
  | .ok response =>
      match aead.decodeFromRelay response.content with
      | some reply => .ok reply
      | none => .error (.config "decrypt failed".toList)

/-- What has arrived for the handler when the request is through. -/
def relayDelivery (response : Except Text HttpResponse) : Delivery :=
  match response with
  | .error err => .failed (.config err)
  | .ok response => .relay response.content

/-- The handler's task gets what the call returns. -/
theorem outcome_relayDelivery (aead : Aead) (nonce : Nonce) (post : Post) (dnsQuery : Bytes) :
    (relayDelivery (post (aead.encodeForRelay nonce.bytes dnsQuery))).outcome aead =
      resolveViaRelay aead nonce post dnsQuery := by
  rw [resolveViaRelay]
  cases post (aead.encodeForRelay nonce.bytes dnsQuery) <;> rfl

/-! ## Names on the command line -/

/-- The error of a response without success.  How `http` displays a status is left to it. -/
def refused (statusText : Nat → Text) (status : Nat) (domain text : Text) : Error :=
  .config ("relay returned ".toList ++ statusText status ++ " for ".toList ++ domain ++
    ": ".toList ++ text)

/-- The error of a reply without addresses. -/
def noARecords (domain : Text) : Error :=
  .config ("no A records for ".toList ++ domain)

/-- What `resolve_domain_via_relay` makes of the response. -/
def readDomainResponse (statusText : Nat → Text) (aead : Aead) (domain : Text)
    (response : HttpResponse) : Exec (Except Error (List Ipv4Addr)) := do
  if !isSuccess response.code then
    return .error (refused statusText response.code domain (fromUtf8Lossy response.content))
  match aead.decodeFromRelay response.content with
  | none => return .error (.config "decrypt failed".toList)
  | some reply =>
      let ips ← parseARecords reply
      if ips.isEmpty then return .error (noARecords domain)
      return .ok ips

/-- `resolve_domain_via_relay`, with the transaction ID and the nonce that were drawn. -/
def resolveDomainViaRelay (statusText : Nat → Text) (aead : Aead) (txid : UInt16) (nonce : Nonce)
    (post : Post) (domain : Text) : Exec (Except Error (List Ipv4Addr)) :=
  match post (aead.encodeForRelay nonce.bytes (buildLookupQuery txid domain)) with
  | .error err => .ok (.error (.config err))
  | .ok response => readDomainResponse statusText aead domain response

/-- An error of the worker is shown as it is. -/
theorem readDomainResponse_refused (statusText : Nat → Text) (aead : Aead) (domain text : Text)
    {status : Nat} (failed : isSuccess status = false) :
    readDomainResponse statusText aead domain ⟨status, toUtf8 text⟩ =
      .ok (.error (refused statusText status domain text)) := by
  simp only [readDomainResponse, failed, fromUtf8Lossy_toUtf8]
  rfl

/-- A reply that decrypts is read. -/
theorem readDomainResponse_reply (statusText : Nat → Text) (domain : Text) {aead : Aead}
    {status : Nat} {content reply : Bytes} {ips : List Ipv4Addr} (success : isSuccess status = true)
    (decoded : aead.decodeFromRelay content = some reply) (parsed : parseARecords reply = .ok ips) :
    readDomainResponse statusText aead domain ⟨status, content⟩ =
      .ok (if ips.isEmpty then .error (noARecords domain) else .ok ips) := by
  simp only [readDomainResponse, success, decoded, parsed, bind, Except.bind]
  cases ips <;> rfl

end DnsHijacker.DnsRelay
