import DnsHijacker.DnsRelay.AppsScript
import DnsHijacker.Library.FirstSeen
import DnsHijacker.Worker.Termination

/-!
# A request to the worker

The worker asks every resolver, a query for addresses in three rounds.  It keeps each address that a
reply has, and the last reply it could read as the template of its own.
-/

namespace DnsHijacker.Worker

open DnsHijacker.Rust
open DnsHijacker.Library
open DnsHijacker.DnsRelay (Aead)
open DnsHijacker.DnsRelay.AppsScript (Nonce HttpResponse)

/-! ## The resolvers -/

/-- `DOH_ENDPOINTS` -/
def dohEndpoints : List Text :=
  ["https://cloudflare-dns.com/dns-query".toList, "https://dns.google/dns-query".toList,
    "https://dns.quad9.net/dns-query".toList]

/-- What comes back from each resolver in each round; nothing where the call throws. -/
abbrev Upstream := Nat → Text → Option HttpResponse

/-- `queryDoh` -/
def queryDoh (upstream : Upstream) (round : Nat) (url : Text) : Option Bytes :=
  match upstream round url with
  | none => none
  | some resp => if 200 ≤ resp.code ∧ resp.code < 300 then some resp.content else none

/-! ## Rounds -/

/-- `allIps` and `lastReply` -/
structure Collected where
  allIps : List Text
  lastReply : Option Bytes
  deriving DecidableEq

/-- Before the first round. -/
def Collected.empty : Collected :=
  ⟨[], none⟩

/-- What is tried with a reply; one that cannot be read is skipped. -/
def takeReply (budget : Nat) (collected : Collected) (reply : Bytes) : Js Collected :=
  match extractARecords budget reply with
  | .ok ips => .ok ⟨firstSeen collected.allIps ips, some reply⟩
  | .error .rangeError => .ok collected
  | .error .running => .error .running

/-- The body of the loop over the responses of a round. -/
def takeResponse (budget : Nat) (collected : Collected) : Option Bytes → Js Collected
  | none => .ok collected
  | some reply => takeReply budget collected reply

/-- The body of the loop over the rounds. -/
def collectRound (budget : Nat) (upstream : Upstream) (collected : Collected) (round : Nat) :
    Js Collected :=
  (dohEndpoints.map (queryDoh upstream round)).foldlM (takeResponse budget) collected

def collectRounds (budget : Nat) (upstream : Upstream) (rounds : Nat) : Js Collected :=
  (List.range rounds).foldlM (collectRound budget upstream) .empty

/-! ## The response -/

/-- `rounds` of a query for addresses -/
def addressRounds : Nat :=
  3

/-- The final reply to a query, if a resolver answered. -/
def finalReply (budget : Nat) (upstream : Upstream) (dnsQuery : Bytes) : Js (Option Bytes) := do
  let isAQuery : Bool := (← getQuestionType budget dnsQuery) = 1
  let rounds := if isAQuery then addressRounds else 1
  let collected ← collectRounds budget upstream rounds
  match collected.lastReply with
  | none => return none
  | some lastReply =>
      if isAQuery then
        return some (← rewriteAnswersWithIps budget lastReply collected.allIps)
      else return some lastReply

structure Request where
  method : Text
  body : Bytes

/-- `Response`, with the headers it is made with. -/
structure Response where
  body : Bytes
  status : Nat
  headers : List (Text × Text)

/-- A response that says why there is no reply. -/
def plainResponse (text : Text) (status : Nat) : Response :=
  ⟨toUtf8 text, status, []⟩

/-- The response with a reply. -/
def replyResponse (aead : Aead) (nonce : Nonce) (reply : Bytes) : Response :=
  ⟨aead.encodeForRelay nonce.bytes reply, 200,
    [("content-type".toList, "application/json".toList)]⟩

/-- What `fetch` makes of the final reply, or of what is thrown on the way to it. -/
def respond (aead : Aead) (nonce : Nonce) : Js (Option Bytes) → Js Response
  | .ok none => .ok (plainResponse "upstream failed".toList 502)
  | .ok (some reply) => .ok (replyResponse aead nonce reply)
  | .error .rangeError => .ok (plainResponse "internal error".toList 500)
  | .error .running => .error .running

/-- `fetch`, with the nonce that is drawn for the reply. -/
def fetch (budget : Nat) (aead : Aead) (nonce : Nonce) (upstream : Upstream) (request : Request) :
    Js Response :=
  if request.method ≠ "POST".toList then .ok (plainResponse "not found".toList 404)
  else
    match aead.decodeFromRelay request.body with
    | none => .ok (plainResponse "bad request".toList 400)
    | some dnsQuery => respond aead nonce (finalReply budget upstream dnsQuery)

/-! ## What the rounds collect -/

/-- The replies in the order in which they are taken. -/
def replies (upstream : Upstream) (rounds : Nat) : List Bytes :=
  (List.range rounds).flatMap fun round => dohEndpoints.filterMap (queryDoh upstream round)

/-- The addresses of a reply that can be read. -/
def readAddresses (reply : Bytes) : Option (List Text) :=
  (extractARecords (reply.length + 1) reply).toOption

/-- The addresses that the replies contribute, with repetitions. -/
def contributed (replies : List Bytes) : List Text :=
  replies.flatMap fun reply => (readAddresses reply).getD []

theorem contributed_cons (reply : Bytes) (replies : List Bytes) :
    contributed (reply :: replies) = (readAddresses reply).getD [] ++ contributed replies :=
  List.flatMap_cons

/-- The last reply that could be read. -/
def lastRead (replies : List Bytes) : Option Bytes :=
  (replies.filter fun reply => (readAddresses reply).isSome).getLast?

/-- What is collected with one more reply. -/
def Collected.add (collected : Collected) (reply : Bytes) : Collected :=
  match readAddresses reply with
  | none => collected
  | some ips => ⟨firstSeen collected.allIps ips, some reply⟩

theorem foldlM_takeResponse (budget : Nat) (responses : List Text) (answer : Text → Option Bytes)
    (collected : Collected) :
    (responses.map answer).foldlM (takeResponse budget) collected =
      (responses.filterMap answer).foldlM (takeReply budget) collected := by
  induction responses generalizing collected with
  | nil => rfl
  | cons url responses ih =>
      rw [List.map_cons, List.foldlM_cons]
      cases here : answer url with
      | none =>
          rw [List.filterMap_cons_none here]
          exact ih collected
      | some reply =>
          rw [List.filterMap_cons_some here, List.foldlM_cons]
          exact bind_congr ih

/-- The rounds are one loop over all replies. -/
theorem collectRounds_eq (budget : Nat) (upstream : Upstream) (rounds : Nat) :
    collectRounds budget upstream rounds =
      (replies upstream rounds).foldlM (takeReply budget) .empty := by
  rw [collectRounds, replies]
  generalize Collected.empty = collected
  induction List.range rounds generalizing collected with
  | nil => rfl
  | cons round later ih =>
      rw [List.foldlM_cons, List.flatMap_cons, List.foldlM_append, collectRound,
        foldlM_takeResponse]
      exact bind_congr ih

variable {budget : Nat} {reply : Bytes}

theorem extractARecords_eq (enough : reply.length < budget) :
    extractARecords budget reply = extractARecords (reply.length + 1) reply :=
  extractARecords_stable (Nat.lt_succ_self _) enough

theorem takeReply_eq (enough : reply.length < budget) (ends : SectionsEnd reply)
    (collected : Collected) : takeReply budget collected reply = .ok (collected.add reply) := by
  have ended := (extractARecords_ne_running_iff reply).mpr ends
  rw [takeReply, Collected.add, readAddresses, extractARecords_eq enough]
  cases read : extractARecords (reply.length + 1) reply with
  | ok ips => rfl
  | error fault =>
      cases fault with
      | running => contradiction
      | rangeError => rfl

theorem takeReply_running (enough : reply.length < budget) (endless : ¬ SectionsEnd reply)
    (collected : Collected) : takeReply budget collected reply = .error .running := by
  have running := Classical.not_not.mp (mt (extractARecords_ne_running_iff reply).mp endless)
  rw [takeReply, extractARecords_eq enough, running]

variable {taken : List Bytes}

/-- If every reply can be walked over, each of them is added. -/
theorem foldlM_takeReply (enough : ∀ reply ∈ taken, reply.length < budget)
    (ends : ∀ reply ∈ taken, SectionsEnd reply) (collected : Collected) :
    taken.foldlM (takeReply budget) collected = .ok (taken.foldl Collected.add collected) := by
  induction taken generalizing collected with
  | nil => rfl
  | cons reply taken ih =>
      rw [List.forall_mem_cons] at enough ends
      rw [List.foldlM_cons, takeReply_eq enough.1 ends.1]
      exact ih enough.2 ends.2 (collected.add reply)

/-- One reply that cannot keeps the worker busy for ever. -/
theorem foldlM_takeReply_running (enough : ∀ reply ∈ taken, reply.length < budget)
    (endless : ¬ ∀ reply ∈ taken, SectionsEnd reply) (collected : Collected) :
    taken.foldlM (takeReply budget) collected = .error .running := by
  induction taken generalizing collected with
  | nil => exact absurd (fun _ mem => nomatch mem) endless
  | cons reply taken ih =>
      rw [List.forall_mem_cons] at enough endless
      rw [List.foldlM_cons]
      by_cases ends : SectionsEnd reply
      · rw [takeReply_eq enough.1 ends]
        exact ih enough.2 (fun later => endless ⟨ends, later⟩) (collected.add reply)
      · rw [takeReply_running enough.1 ends]
        rfl

/-- Each address is kept once. -/
theorem allIps_foldl_add (taken : List Bytes) (collected : Collected) :
    (taken.foldl Collected.add collected).allIps =
      firstSeen collected.allIps (contributed taken) := by
  induction taken generalizing collected with
  | nil => rfl
  | cons reply taken ih =>
      rw [List.foldl_cons, ih, contributed_cons, firstSeen_append, Collected.add]
      cases readAddresses reply <;> rfl

/-- The template is the last reply that was read. -/
theorem lastReply_foldl_add (taken : List Bytes) :
    (taken.foldl Collected.add .empty).lastReply = lastRead taken := by
  induction taken using List.reverseRecOn with
  | nil => rfl
  | append_singleton taken reply ih =>
      rw [List.foldl_append, List.foldl_cons, List.foldl_nil, lastRead, List.filter_append,
        Collected.add]
      cases read : readAddresses reply with
      | none => simpa [read, lastRead] using ih
      | some ips => simp [read]

end DnsHijacker.Worker
