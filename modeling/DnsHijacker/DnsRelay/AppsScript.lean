import DnsHijacker.Library.Run
import DnsHijacker.Rust.Base64
import DnsHijacker.DnsRelay.Upstream

/-!
# The Google Apps Script hop

A relay may be reached through a script that forwards encrypted queries to a
worker and caches the encrypted replies.  The script sees neither names nor
types; it files a reply under the tag that came with the query, and the tag is
made of the name alone.
-/

namespace DnsHijacker.DnsRelay.AppsScript

open DnsHijacker.Rust
open DnsHijacker.Library
open DnsHijacker.Shared

/-! ## The client -/

/-- HMAC-SHA256 under the relay key, in hexadecimal.  Different texts have
different tags. -/
structure Hmac where
  tag : Text → Text
  injective : Function.Injective tag
  nonempty : ∀ text, tag text ≠ []

/-- The nonce of one message. -/
structure Nonce where
  bytes : Bytes
  twelve : bytes.length = 12

def zeroNonce : Nonce :=
  ⟨List.replicate 12 0, rfl⟩

/-- `cache_key_for_domain` -/
def cacheKeyForDomain (hmac : Hmac) (domain : Text) : Text :=
  hmac.tag (domain.map Char.toLower)

/-- `AppsScriptRequest` -/
structure AppsScriptRequest where
  data : Text
  k : Text

/-- `AppsScriptResponse` -/
structure AppsScriptResponse where
  data : Option Text
  error : Option Text

/-- The request of `resolve_via_relay_apps_script`. -/
def makeRequest (aead : Aead) (hmac : Hmac) (domain : Text) (nonce : Nonce) (dnsQuery : Bytes) :
    AppsScriptRequest where
  data := Base64.encode (aead.encodeForRelay nonce.bytes dnsQuery)
  k := cacheKeyForDomain hmac domain

/-- What `resolve_via_relay_apps_script` makes of the response.  The base64
decoder's own message is left out of the error. -/
def readResponse (aead : Aead) (parsed : AppsScriptResponse) : Except Error Bytes :=
  match parsed.error with
  | some err => .error (.config ("apps script error: ".toList ++ err))
  | none =>
      match parsed.data with
      | none => .error (.config "apps script response missing data field".toList)
      | some dataB64 =>
          match Base64.decode dataB64 with
          | none => .error (.config "invalid base64 in apps script response".toList)
          | some encryptedReply =>
              match aead.decodeFromRelay encryptedReply with
              | none => .error (.config "decrypt failed".toList)
              | some reply => .ok reply

/-! ## The script -/

/-- `CACHE_TTL_SECONDS` -/
def cacheTtlSeconds : Nat :=
  300

/-- An entry of the script's cache.  The script does not know the question its
value was fetched for; it is written down here for the statements below. -/
structure Entry where
  tag : Text
  value : Text
  expiresAt : Nat
  question : CacheKey

/-- `cache.get` -/
def cacheGet (entries : List Entry) (tag : Text) (now : Nat) : Option Entry :=
  entries.find? fun entry => entry.tag = tag ∧ now < entry.expiresAt

/-- `cache.put` -/
def cachePut (entries : List Entry) (entry : Entry) : List Entry :=
  entry :: entries.filter fun other => other.tag ≠ entry.tag

/-- A response of the worker. -/
structure HttpResponse where
  code : Nat
  content : Bytes

def errorResponse (message : Text) : AppsScriptResponse where
  data := none
  error := some message

def dataResponse (data : Text) : AppsScriptResponse where
  data := some data
  error := none

/-- How far `doPost` comes before it needs the worker. -/
inductive Post where
  | respond (response : AppsScriptResponse)
  | fetch (payload : Bytes)

/-- `doPost` up to the call of the worker; an empty string counts as missing. -/
def doPost (workerUrl : Text) (entries : List Entry) (body : AppsScriptRequest) (now : Nat) :
    Post :=
  if body.k.isEmpty || body.data.isEmpty then .respond (errorResponse "bad request".toList)
  else
    match (cacheGet entries body.k now).filter (!·.value.isEmpty) with
    | some cached => .respond (dataResponse cached.value)
    | none =>
        if workerUrl.isEmpty then .respond (errorResponse "worker url not configured".toList)
        else
          match Base64.decode body.data with
          | none => .respond (errorResponse "Exception: Could not decode string.".toList)
          | some payload => .fetch payload

/-- `doPost` after the call of the worker, which may throw. -/
def doPostFetched (entries : List Entry) (cacheKey : Text) (question : CacheKey)
    (fetched : Except Text HttpResponse) (now : Nat) : AppsScriptResponse × List Entry :=
  match fetched with
  | .error err => (errorResponse err, entries)
  | .ok response =>
      if response.code ≠ 200 then
        (errorResponse ("upstream error: ".toList ++ Nat.toDigits 10 response.code), entries)
      else
        let replyB64 := Base64.encode response.content
        (dataResponse replyB64,
          cachePut entries ⟨cacheKey, replyB64, now + cacheTtlSeconds * second, question⟩)

/-! ## Queries through the hop -/

/-- A worker that answers each query's own question, if it answers at all. -/
structure Worker (ucd : UnicodeData) (aead : Aead) where
  answer : Bytes → Except Text HttpResponse
  honest : ∀ packet query key content, aead.decodeFromRelay packet = some query →
    cacheKeyFromQuery ucd query = .ok (some key) → answer packet = .ok ⟨200, content⟩ →
      ∃ reply, aead.decodeFromRelay content = some reply ∧ AnswersKey ucd key reply

/-- A query whose `doPost` waits for the worker. -/
structure Fetching where
  id : Nat
  question : CacheKey
  tag : Text
  packet : Bytes

/-- What `resolve_via_relay_apps_script` returned for a query. -/
structure Served where
  question : CacheKey
  result : Except Error Bytes

structure System where
  entries : List Entry
  fetching : List Fetching
  served : List Served

namespace System

/-- Before the first query. -/
def empty : System :=
  ⟨[], [], []⟩

end System

/-- Queries may overlap, the script's cache may lose entries at any time, and the
way from the script back to the client may fail. -/
inductive Event (ucd : UnicodeData) (aead : Aead) where
  | query (id : Nat) (payload : Bytes) (nonce : Nonce) (failure : Option Error) (now : Nat)
  | fetched (id : Nat) (worker : Worker ucd aead) (failure : Option Error) (now : Nat)
  | evict (tag : Text)

/-- The result at the client. -/
def heard (aead : Aead) (failure : Option Error) (response : AppsScriptResponse) :
    Except Error Bytes :=
  match failure with
  | some error => .error error
  | none => readResponse aead response

/-- One event.  `resolve_query` passes the name of the query's key as the domain;
a query without a key is not passed on. -/
def step (ucd : UnicodeData) (aead : Aead) (hmac : Hmac) (workerUrl : Text) (system : System) :
    Event ucd aead → Option System
  | .query id payload nonce failure now =>
      if system.fetching.any (·.id = id) then none
      else
        match cacheKeyFromQuery ucd payload with
        | .ok (some question) =>
            let request := makeRequest aead hmac question.name nonce payload
            match doPost workerUrl system.entries request now with
            | .respond response =>
                some { system with
                  served := ⟨question, heard aead failure response⟩ :: system.served }
            | .fetch packet =>
                some { system with
                  fetching := ⟨id, question, request.k, packet⟩ :: system.fetching }
        | _ => none
  | .fetched id worker failure now =>
      match system.fetching.find? (·.id = id) with
      | none => none
      | some query =>
          let (response, entries) := doPostFetched system.entries query.tag query.question
            (worker.answer query.packet) now
          some {
            entries
            fetching := system.fetching.filter (·.id ≠ id)
            served := ⟨query.question, heard aead failure response⟩ :: system.served }
  | .evict tag => some { system with entries := system.entries.filter (·.tag ≠ tag) }

end DnsHijacker.DnsRelay.AppsScript
