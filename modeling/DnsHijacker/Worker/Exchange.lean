import DnsHijacker.DnsRelay.Relay
import DnsHijacker.Worker.Addresses
import DnsHijacker.Worker.ReplyStatus

/-!
# An exchange with the worker

Which response the worker comes to depends on the type of the query and on the replies of the
resolvers, and it comes to one exactly if every name that it walks over in them has an end.
-/

namespace DnsHijacker.Worker

open DnsHijacker.Rust
open DnsHijacker.Library
open DnsHijacker.DnsRelay (Aead)
open DnsHijacker.DnsRelay.AppsScript (Nonce)

/-- The worker's response to a packet; it does not depend on the number of turns from some number
on. -/
def Responds (aead : Aead) (nonce : Nonce) (upstream : Upstream) (packet : Bytes)
    (response : Response) : Prop :=
  ∀ᶠ budget in Filter.atTop, fetch budget aead nonce upstream ⟨"POST".toList, packet⟩ = .ok response

/-- The packet holds a query of the type. -/
structure Asks (aead : Aead) (packet dnsQuery : Bytes) (qtype : Nat) : Prop where
  decoded : aead.decodeFromRelay packet = some dnsQuery
  type : ∀ budget, dnsQuery.length < budget → getQuestionType budget dnsQuery = .ok qtype

/-- `rounds` of a query of the type -/
def roundsOf (qtype : Nat) : Nat :=
  if qtype = 1 then addressRounds else 1

/-- The addresses of all replies that were taken are put into the last one that was read; other
queries get that one as it is. -/
def replyTo (budget : Nat) (qtype : Nat) (taken : List Bytes) : Js (Option Bytes) :=
  match lastRead taken with
  | none => .ok none
  | some last =>
      if qtype = 1 then
        (rewriteAnswersWithIps budget last (firstSeen [] (contributed taken))).map some
      else .ok (some last)

variable {aead : Aead} {nonce : Nonce} {upstream : Upstream} {packet dnsQuery : Bytes}
  {qtype budget : Nat}

theorem finalReply_eq (asks : Asks aead packet dnsQuery qtype) (query : dnsQuery.length < budget)
    (enough : ∀ reply ∈ replies upstream (roundsOf qtype), reply.length < budget)
    (ends : ∀ reply ∈ replies upstream (roundsOf qtype), SectionsEnd reply) :
    finalReply budget upstream dnsQuery =
      replyTo budget qtype (replies upstream (roundsOf qtype)) := by
  have template := lastReply_foldl_add (replies upstream (roundsOf qtype))
  have kept : ((replies upstream (roundsOf qtype)).foldl Collected.add .empty).allIps =
      firstSeen [] (contributed (replies upstream (roundsOf qtype))) := allIps_foldl_add _ .empty
  have rounds : (if qtype = 1 then addressRounds else 1) = roundsOf qtype := rfl
  rw [finalReply, asks.type budget query, replyTo]
  simp only [bind, Except.bind, decide_eq_true_eq, rounds, collectRounds_eq,
    foldlM_takeReply enough ends, template, kept]
  cases lastRead (replies upstream (roundsOf qtype)) with
  | none => rfl
  | some last =>
      by_cases address : qtype = 1
      · simp only [if_pos address]
        cases rewriteAnswersWithIps budget last _ <;> rfl
      · simp only [if_neg address]
        rfl

theorem finalReply_endless (asks : Asks aead packet dnsQuery qtype) (query : dnsQuery.length < budget)
    (enough : ∀ reply ∈ replies upstream (roundsOf qtype), reply.length < budget)
    (endless : ¬ ∀ reply ∈ replies upstream (roundsOf qtype), SectionsEnd reply) :
    finalReply budget upstream dnsQuery = .error .running := by
  have rounds : (if qtype = 1 then addressRounds else 1) = roundsOf qtype := rfl
  rw [finalReply, asks.type budget query]
  simp only [bind, Except.bind, decide_eq_true_eq, rounds, collectRounds_eq,
    foldlM_takeReply_running enough endless]

theorem fetch_asks (asks : Asks aead packet dnsQuery qtype) (budget : Nat) :
    fetch budget aead nonce upstream ⟨"POST".toList, packet⟩ =
      respond aead nonce (finalReply budget upstream dnsQuery) := by
  rw [fetch, if_neg (not_not_intro rfl), asks.decoded]

/-- From some number of turns on they are enough for the query and for all replies. -/
theorem eventually_enough_for (dnsQuery : Bytes) (taken : List Bytes) :
    ∀ᶠ budget in Filter.atTop, dnsQuery.length < budget ∧ ∀ reply ∈ taken, reply.length < budget :=
  (Filter.eventually_gt_atTop dnsQuery.length).and (eventually_enough taken)

theorem mem_of_lastRead {taken : List Bytes} {last : Bytes} (found : lastRead taken = some last) :
    last ∈ taken ∧ ∃ texts, readAddresses last = some texts := by
  have mem : last ∈ taken.filter fun reply => (readAddresses reply).isSome :=
    List.mem_of_getLast? found
  exact ⟨List.mem_of_mem_filter mem, Option.isSome_iff_exists.mp (List.mem_filter.mp mem).2⟩

/-- The reply is settled if all names end. -/
theorem replyTo_ends {taken : List Bytes} (ends : ∀ reply ∈ taken, SectionsEnd reply) (qtype : Nat) :
    Ends fun budget => replyTo budget qtype taken := by
  simp only [replyTo]
  cases found : lastRead taken with
  | none => exact ⟨.ok none, nofun, .of_forall fun _ => rfl⟩
  | some last =>
      by_cases address : qtype = 1
      · obtain ⟨result, ended, settled⟩ := (rewriteAnswersWithIps_ends_iff last
          (firstSeen [] (contributed taken))).mpr (.inr (ends last (mem_of_lastRead found).1))
        refine ⟨result.map some, ?_, ?_⟩
        · cases result with
          | ok reply => nofun
          | error fault =>
              cases fault with
              | running => contradiction
              | rangeError => nofun
        · filter_upwards [settled] with budget settled
          simp only [if_pos address, settled]
      · exact ⟨.ok (some last), nofun, .of_forall fun _ => by simp only [if_neg address]⟩

/-- For every query, the worker comes to a response if every name it walks over in the replies has
an end, and then only. -/
theorem responds_iff (asks : Asks aead packet dnsQuery qtype) :
    (∃ response, Responds aead nonce upstream packet response) ↔
      ∀ reply ∈ replies upstream (roundsOf qtype), SectionsEnd reply := by
  have enough := eventually_enough_for dnsQuery (replies upstream (roundsOf qtype))
  constructor
  · rintro ⟨response, responds⟩
    by_contra endless
    obtain ⟨budget, here, query, enough⟩ := (responds.and enough).exists
    rw [fetch_asks asks, finalReply_endless asks query enough endless] at here
    contradiction
  · intro ends
    obtain ⟨result, ended, settled⟩ := replyTo_ends ends qtype
    have through : ∀ᶠ budget in Filter.atTop,
        fetch budget aead nonce upstream ⟨"POST".toList, packet⟩ = respond aead nonce result := by
      filter_upwards [enough, settled] with budget enough settled
      rw [fetch_asks asks, finalReply_eq asks enough.1 enough.2 ends, settled]
    cases result with
    | ok reply => cases reply <;> exact ⟨_, through⟩
    | error fault =>
        cases fault with
        | running => contradiction
        | rangeError => exact ⟨_, through⟩

/-- With as many turns as it takes, the response is made of the reply. -/
theorem Responds.exists_budget {response : Response} (asks : Asks aead packet dnsQuery qtype)
    (responds : Responds aead nonce upstream packet response) :
    ∃ budget, respond aead nonce (replyTo budget qtype (replies upstream (roundsOf qtype))) =
        .ok response ∧
      ∀ reply ∈ replies upstream (roundsOf qtype), reply.length < budget := by
  have ends := (responds_iff asks).mp ⟨response, responds⟩
  obtain ⟨budget, here, query, enough⟩ := (responds.and
    (eventually_enough_for dnsQuery (replies upstream (roundsOf qtype)))).exists
  rw [fetch_asks asks, finalReply_eq asks query enough ends] at here
  exact ⟨budget, here, enough⟩

/-! ## What addresses are put into -/

/-- A template without a whole header cannot be rewritten; in another one the answers are replaced. -/
theorem rewriteAnswersWithIps_cases {last : Bytes} {texts : List Text}
    (read : readAddresses last = some texts) (enough : last.length < budget) (ips : List Ipv4Addr) :
    (last.length < 12 ∧
      rewriteAnswersWithIps budget last (ips.map Ipv4Addr.toText) = .error .rangeError) ∨
    ∃ qdCount questionEnd answersEnd, 12 ≤ last.length ∧ getUint16 last 4 = .ok qdCount ∧
      Shared.Dns.skipQuestions last qdCount 12 = some questionEnd ∧
      rewriteAnswersWithIps budget last (ips.map Ipv4Addr.toText) =
        .ok (merged last questionEnd answersEnd ips) := by
  obtain ⟨qdCount, anCount, questionEnd, answersEnd, questionCount, answerCount, questions, walks⟩ :=
    exists_walks read
  obtain ⟨walked, answers⟩ := walks budget enough
  by_cases short : last.length < 12
  · have cut : getUint16 last 10 = .error .rangeError := by
      rw [getUint16, List.getElem?_eq_none (by omega : last.length ≤ 10 + 1)]
      split
      · contradiction
      · rfl
    refine .inl ⟨short, ?_⟩
    rw [rewriteAnswersWithIps, questionCount, answerCount, cut]
    have ended := getUint16_ne_running last 8
    cases authority : getUint16 last 8 with
    | ok nsCount => rfl
    | error fault =>
        cases fault with
        | running => contradiction
        | rangeError => rfl
  · have long := Nat.le_of_not_lt short
    obtain ⟨nsCount, authority⟩ := exists_getUint16 (by omega : 8 + 1 < last.length)
    obtain ⟨arCount, additional⟩ := exists_getUint16 (by omega : 10 + 1 < last.length)
    exact .inr ⟨qdCount, questionEnd, answersEnd, long, questionCount, questions,
      rewriteAnswersWithIps_of_walks questionCount answerCount authority additional walked answers
        (Shared.Dns.le_of_skipQuestions questions) ips⟩

end DnsHijacker.Worker
