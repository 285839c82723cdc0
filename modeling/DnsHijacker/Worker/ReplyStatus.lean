import DnsHijacker.Worker.Fetch
import DnsHijacker.Worker.Merging
import Mathlib.Data.Set.List

/-!
# The response code of the worker's reply

The addresses come from all replies and the header from the last one that could be read, whatever
its response code is.  So a resolver that denies the name or fails gives its response code to a
message with the addresses of the others.
-/

namespace DnsHijacker.Worker

open DnsHijacker.Rust
open DnsHijacker.Library
open DnsHijacker.DnsRelay (Aead)
open DnsHijacker.DnsRelay.AppsScript (Nonce zeroNonce HttpResponse)

/-! ## What is asked -/

/-- A query for addresses. -/
def IsAQuery (dnsQuery : Bytes) : Prop :=
  ∃ stop, NameEnds dnsQuery 12 stop ∧ Occurs dnsQuery stop [0x00, 0x01]

/-- The response code of a message. -/
def rcode (message : Bytes) : Option Nat :=
  message[3]?.map fun flags => flags.toNat &&& 0x0F

/-- The answers of a message are the records of these addresses. -/
structure Carries (message : Bytes) (addresses : List Ipv4Addr) : Prop where
  count : getUint16 message 6 = .ok addresses.length
  records : ∃ qdCount questionEnd, getUint16 message 4 = .ok qdCount ∧
    Shared.Dns.skipQuestions message qdCount 12 = some questionEnd ∧
      Occurs message questionEnd (addresses.flatMap answerRecord)

/-- If a reply contributes an address, the worker's reply is no error and has all addresses that
were contributed, each once. -/
def StatusConsistent (aead : Aead) (nonce : Nonce) (upstream : Upstream) (request : Request) :
    Prop :=
  contributed (replies upstream addressRounds) ≠ [] →
    ∃ response message addresses,
      (∀ᶠ budget in Filter.atTop, fetch budget aead nonce upstream request = .ok response) ∧
      response.status = 200 ∧ aead.decodeFromRelay response.body = some message ∧
      rcode message = some 0 ∧ addresses.Nodup ∧
      (∀ text, text ∈ contributed (replies upstream addressRounds) ↔
        text ∈ addresses.map Ipv4Addr.toText) ∧
      Carries message addresses

/-- A reply that can stand for all of them: its header is whole, it is no error, and its questions
lie inside it. -/
structure Usable (template : Bytes) : Prop where
  header : 12 ≤ template.length
  noError : rcode template = some 0
  questions : ∃ qdCount questionEnd, getUint16 template 4 = .ok qdCount ∧
    Shared.Dns.skipQuestions template qdCount 12 = some questionEnd ∧
      questionEnd ≤ template.length

/-- Every reply can be walked over, no address is cut, the addresses can be counted, and the last
reply that could be read can stand for all. -/
structure Mergeable (taken : List Bytes) : Prop where
  ends : ∀ reply ∈ taken, SectionsEnd reply
  whole : ∀ text ∈ contributed taken, ∃ address : Ipv4Addr, address.toText = text
  few : (firstSeen [] (contributed taken)).length ≤ 65535
  template : ∃ last, lastRead taken = some last ∧ Usable last

/-! ## Walks over the template -/

variable {packet template : Bytes} {budget questionEnd answersEnd : Nat}

theorem getQuestionType_of_isAQuery (isA : IsAQuery packet) (enough : packet.length < budget) :
    getQuestionType budget packet = .ok 1 := by
  obtain ⟨stop, ends, here⟩ := isA
  rw [occurs_cons, occurs_cons] at here
  rw [getQuestionType, skipName_eq (by omega), nameEnds_iff.mpr ends]
  simp only [endOf, bind, Except.bind, pure, Except.pure, here.1, here.2.1]
  rfl

/-- Where the addresses can be read, the answers can be skipped. -/
theorem exists_skipAnswers {count offset : Nat} {ips : List Text}
    (read : extractFrom budget packet count offset = .ok ips) :
    ∃ stop, skipAnswers budget packet count offset = .ok stop := by
  induction count generalizing offset ips with
  | zero => exact ⟨offset, rfl⟩
  | succ count ih =>
      simp only [extractFrom, bind_eq_ok] at read
      obtain ⟨nameEnd, name, _, _, rdlength, lengthRead, rest, restRead, _⟩ := read
      simp only [skipAnswers, name, bind, Except.bind, lengthRead, ← Nat.add_assoc]
      exact ih restRead

/-- Where the walks over a reply stop, whatever the number of turns is. -/
theorem exists_walks {ips : List Text} (read : readAddresses packet = some ips) :
    ∃ qdCount anCount questionEnd answersEnd,
      getUint16 packet 4 = .ok qdCount ∧ getUint16 packet 6 = .ok anCount ∧
      Shared.Dns.skipQuestions packet qdCount 12 = some questionEnd ∧
      ∀ budget, packet.length < budget →
        skipQuestions budget packet qdCount 12 = .ok questionEnd ∧
        skipAnswers budget packet anCount questionEnd = .ok answersEnd := by
  have self := Nat.lt_succ_self packet.length
  have extracted : extractARecords (packet.length + 1) packet = .ok ips := by
    cases result : extractARecords (packet.length + 1) packet with
    | error fault => simp [readAddresses, result, Except.toOption] at read
    | ok found =>
        rw [readAddresses, result] at read
        cases read
        rfl
  simp only [extractARecords, bind_eq_ok] at extracted
  obtain ⟨qdCount, questionCount, anCount, answerCount, questionEnd, questions, answers⟩ := extracted
  obtain ⟨answersEnd, skipped⟩ := exists_skipAnswers answers
  rw [skipQuestions_eq_ok_iff self] at questions
  refine ⟨qdCount, anCount, questionEnd, answersEnd, questionCount, answerCount, questions,
    fun budget enough => ⟨(skipQuestions_eq_ok_iff enough).mpr questions, ?_⟩⟩
  rw [skipAnswers_stable self enough, skipped]

/-- The last question may be cut, but the name before it is not. -/
theorem skipQuestions_le {count pos stop : Nat}
    (skipped : Shared.Dns.skipQuestions packet count pos = some stop) :
    stop = pos ∨ stop ≤ packet.length + 5 := by
  induction count generalizing pos with
  | zero =>
      cases skipped
      exact .inl rfl
  | succ count ih =>
      obtain ⟨nameEnd, name, rest⟩ := Option.bind_eq_some_iff.mp skipped
      have near := (Shared.Dns.skipName_bounds name).2
      rcases ih rest with same | inside
      · exact .inr (by omega)
      · exact .inr inside

/-! ## The merged message -/

variable {ips : List Ipv4Addr}

theorem rcode_merged (header : 12 ≤ questionEnd) (long : 12 ≤ template.length) :
    rcode (merged template questionEnd answersEnd ips) = rcode template := by
  rw [rcode, rcode, getElem?_merged_of_lt header ips (by omega) (by omega) (by decide) (by decide)]

theorem getUint16_merged (header : 12 ≤ questionEnd) (long : 12 ≤ template.length) :
    getUint16 (merged template questionEnd answersEnd ips) 4 = getUint16 template 4 := by
  rw [getUint16, getUint16,
    getElem?_merged_of_lt header ips (by omega) (by omega) (by decide) (by decide),
    getElem?_merged_of_lt header ips (by omega) (by omega) (by decide) (by decide)]

/-- The questions end where they did, also if the template ends before. -/
theorem skipQuestions_merged {qdCount : Nat}
    (skipped : Shared.Dns.skipQuestions template qdCount 12 = some questionEnd) :
    Shared.Dns.skipQuestions (merged template questionEnd answersEnd ips) qdCount 12 =
      some questionEnd := by
  have header := Shared.Dns.le_of_skipQuestions skipped
  refine Shared.Dns.skipQuestions_of_agree skipped fun i byte above below found => ?_
  rw [getElem?_merged_of_lt header ips below (List.getElem?_eq_some_iff.mp found).1 (by omega)
    (by omega)]
  exact found

/-- If a question is cut, the records stand too early: what stands where they should begin is not
the pointer they begin with. -/
theorem not_occurs_of_cut (long : 8 ≤ template.length) (cut : template.length < questionEnd)
    (near : questionEnd ≤ template.length + 5) (some : ips ≠ []) {addresses : List Ipv4Addr}
    (nonempty : addresses ≠ []) :
    ¬ Occurs (merged template questionEnd answersEnd ips) questionEnd
      (addresses.flatMap answerRecord) := by
  obtain ⟨address, addresses, rfl⟩ := List.exists_cons_of_ne_nil nonempty
  obtain ⟨ip, ips, rfl⟩ := List.exists_cons_of_ne_nil some
  have front : (mergedFront template questionEnd (ip :: ips).length).length = template.length := by
    rw [mergedFront, slice, List.length_append, List.length_append, List.length_drop,
      List.take_of_length_le (Nat.le_of_lt cut), List.length_take_of_le (by omega),
      length_u16ToBeBytes]
    omega
  intro here
  have pointer := (occurs_cons.mp here).1
  rw [merged, List.getElem?_append_right (by omega), front, List.flatMap_cons, List.append_assoc,
    List.getElem?_append_left (by rw [length_answerRecord]; omega), answerRecord,
    List.getElem?_append_left (by rw [recordStart]; simp; omega)] at pointer
  obtain ⟨k, rfl⟩ := Nat.exists_eq_add_of_lt cut
  have small : k < 5 := by omega
  have place : template.length + k + 1 - template.length = k + 1 := by omega
  rw [place] at pointer
  have table : ∀ k < 5, recordStart[k + 1]? ≠ Option.some 0xC0 := by decide
  exact table k small pointer

/-- So the records stand where they should only if no question is cut. -/
theorem le_length_of_carries {qdCount : Nat} (long : 12 ≤ template.length)
    (questionCount : getUint16 template 4 = .ok qdCount)
    (questions : Shared.Dns.skipQuestions template qdCount 12 = some questionEnd) (some : ips ≠ [])
    {addresses : List Ipv4Addr} (nonempty : addresses ≠ [])
    (carries : Carries (merged template questionEnd answersEnd ips) addresses) :
    questionEnd ≤ template.length := by
  by_contra cut
  obtain ⟨qdCount', questionEnd', questionCount', questions', records⟩ := carries.records
  rw [getUint16_merged (Shared.Dns.le_of_skipQuestions questions) long, questionCount,
    Except.ok.injEq] at questionCount'
  rw [← questionCount', skipQuestions_merged questions, Option.some.injEq] at questions'
  rw [← questions'] at records
  have near := skipQuestions_le questions
  exact not_occurs_of_cut (by omega) (Nat.lt_of_not_le cut) (by omega) some nonempty records

/-! ## The response -/

variable {taken : List Bytes} {aead : Aead} {nonce : Nonce} {upstream : Upstream}
  {request : Request} {dnsQuery : Bytes}

/-- As many turns as the replies have octets are enough for all of them. -/
theorem eventually_enough (taken : List Bytes) :
    ∀ᶠ budget in Filter.atTop, ∀ reply ∈ taken, reply.length < budget := by
  induction taken with
  | nil => exact .of_forall fun _ _ mem => nomatch mem
  | cons reply taken ih =>
      simp only [List.forall_mem_cons]
      exact (Filter.eventually_gt_atTop reply.length).and ih

theorem exists_lastRead (seen : contributed taken ≠ []) :
    ∃ last ips, lastRead taken = some last ∧ last ∈ taken ∧ readAddresses last = some ips := by
  obtain ⟨text, mem⟩ := List.exists_mem_of_ne_nil _ seen
  obtain ⟨reply, replyMem, read⟩ := List.mem_flatMap.mp mem
  have readable : reply ∈ taken.filter fun reply => (readAddresses reply).isSome := by
    rw [List.mem_filter]
    refine ⟨replyMem, ?_⟩
    cases found : readAddresses reply with
    | none => simp [found] at read
    | some ips => rfl
  have last := List.getLast?_eq_some_getLast (List.ne_nil_of_mem readable)
  obtain ⟨lastMem, some⟩ := List.mem_filter.mp (List.getLast_mem (List.ne_nil_of_mem readable))
  obtain ⟨ips, found⟩ := Option.isSome_iff_exists.mp some
  exact ⟨_, ips, last, lastMem, found⟩

/-- The reply is the last one that was read, with all addresses. -/
theorem finalReply_of_lastRead {last : Bytes} (isA : IsAQuery dnsQuery)
    (query : dnsQuery.length < budget)
    (enough : ∀ reply ∈ replies upstream addressRounds, reply.length < budget)
    (ends : ∀ reply ∈ replies upstream addressRounds, SectionsEnd reply)
    (found : lastRead (replies upstream addressRounds) = some last) :
    finalReply budget upstream dnsQuery =
      (rewriteAnswersWithIps budget last
        (firstSeen [] (contributed (replies upstream addressRounds)))).map some := by
  have kept : ((replies upstream addressRounds).foldl Collected.add .empty).allIps =
      firstSeen [] (contributed (replies upstream addressRounds)) := allIps_foldl_add _ .empty
  have template := lastReply_foldl_add (replies upstream addressRounds)
  rw [found] at template
  rw [finalReply, getQuestionType_of_isAQuery isA query]
  simp only [bind, Except.bind, decide_true, if_true, collectRounds_eq,
    foldlM_takeReply enough ends, template, kept]
  cases rewriteAnswersWithIps budget last _ <;> rfl

theorem finalReply_running (isA : IsAQuery dnsQuery) (query : dnsQuery.length < budget)
    (enough : ∀ reply ∈ replies upstream addressRounds, reply.length < budget)
    (endless : ¬ ∀ reply ∈ replies upstream addressRounds, SectionsEnd reply) :
    finalReply budget upstream dnsQuery = .error .running := by
  rw [finalReply, getQuestionType_of_isAQuery isA query]
  simp only [bind, Except.bind, decide_true, if_true, collectRounds_eq,
    foldlM_takeReply_running enough endless]

/-- What the request has to be for the worker to ask the resolvers for addresses. -/
structure AsksForAddresses (aead : Aead) (request : Request) (dnsQuery : Bytes) : Prop where
  post : request.method = "POST".toList
  decoded : aead.decodeFromRelay request.body = some dnsQuery
  isA : IsAQuery dnsQuery

theorem fetch_eq (asks : AsksForAddresses aead request dnsQuery) (budget : Nat) :
    fetch budget aead nonce upstream request =
      respond aead nonce (finalReply budget upstream dnsQuery) := by
  rw [fetch, if_neg (not_not_intro asks.post), asks.decoded]

theorem fetch_merged {qdCount anCount : Nat} {last : Bytes}
    (asks : AsksForAddresses aead request dnsQuery) (query : dnsQuery.length < budget)
    (enough : ∀ reply ∈ replies upstream addressRounds, reply.length < budget)
    (ends : ∀ reply ∈ replies upstream addressRounds, SectionsEnd reply)
    (found : lastRead (replies upstream addressRounds) = some last)
    (texts : ips.map Ipv4Addr.toText = firstSeen [] (contributed (replies upstream addressRounds)))
    (long : 12 ≤ last.length) (questionCount : getUint16 last 4 = .ok qdCount)
    (answerCount : getUint16 last 6 = .ok anCount)
    (questions : skipQuestions budget last qdCount 12 = .ok questionEnd)
    (answers : skipAnswers budget last anCount questionEnd = .ok answersEnd)
    (header : 12 ≤ questionEnd) :
    fetch budget aead nonce upstream request =
      .ok (replyResponse aead nonce (merged last questionEnd answersEnd ips)) := by
  obtain ⟨nsCount, authority⟩ := exists_getUint16 (by omega : 8 + 1 < last.length)
  obtain ⟨arCount, additional⟩ := exists_getUint16 (by omega : 10 + 1 < last.length)
  rw [fetch_eq asks, finalReply_of_lastRead asks.isA query enough ends found, ← texts,
    rewriteAnswersWithIps_of_walks questionCount answerCount authority additional questions answers
      header ips]
  rfl

/-- A template without a whole header cannot be rewritten. -/
theorem fetch_short {qdCount anCount : Nat} {last : Bytes}
    (asks : AsksForAddresses aead request dnsQuery) (query : dnsQuery.length < budget)
    (enough : ∀ reply ∈ replies upstream addressRounds, reply.length < budget)
    (ends : ∀ reply ∈ replies upstream addressRounds, SectionsEnd reply)
    (found : lastRead (replies upstream addressRounds) = some last) (short : last.length < 12)
    (questionCount : getUint16 last 4 = .ok qdCount)
    (answerCount : getUint16 last 6 = .ok anCount) :
    fetch budget aead nonce upstream request = .ok (plainResponse "internal error".toList 500) := by
  have cut : getUint16 last 10 = .error .rangeError := by
    rw [getUint16, List.getElem?_eq_none (by omega : last.length ≤ 10 + 1)]
    split
    · contradiction
    · rfl
  rw [fetch_eq asks, finalReply_of_lastRead asks.isA query enough ends found,
    rewriteAnswersWithIps, questionCount, answerCount]
  simp only [bind, Except.bind]
  cases authority : getUint16 last 8 with
  | error fault =>
      have ended := getUint16_ne_running last 8
      cases fault with
      | running => contradiction
      | rangeError => rfl
  | ok nsCount =>
      simp only [cut]
      rfl

/-- The texts that are kept are those of different addresses. -/
theorem exists_addresses
    (whole : ∀ text ∈ contributed taken, ∃ address : Ipv4Addr, address.toText = text) :
    ∃ ips : List Ipv4Addr, ips.map Ipv4Addr.toText = firstSeen [] (contributed taken) ∧ ips.Nodup ∧
      ∀ text, text ∈ contributed taken ↔ text ∈ ips.map Ipv4Addr.toText := by
  have kept (text : Text) : text ∈ firstSeen [] (contributed taken) ↔ text ∈ contributed taken := by
    simp [mem_firstSeen]
  have range : firstSeen [] (contributed taken) ∈ Set.range (List.map Ipv4Addr.toText) := by
    rw [Set.range_list_map]
    exact fun text mem => whole text ((kept text).mp mem)
  obtain ⟨ips, texts⟩ := range
  have nodup : (ips.map Ipv4Addr.toText).Nodup := texts ▸ nodup_firstSeen List.nodup_nil _
  exact ⟨ips, texts, nodup.of_map _, fun text => by rw [texts, kept]⟩

/-- A consistent response needs a template that can stand for all replies. -/
theorem mergeable_of_consistent (asks : AsksForAddresses aead request dnsQuery)
    (seen : contributed (replies upstream addressRounds) ≠ [])
    (consistent : StatusConsistent aead nonce upstream request) :
    Mergeable (replies upstream addressRounds) := by
  obtain ⟨response, message, addresses, returned, ok, opened, noError, nodup, same, carries⟩ :=
    consistent seen
  obtain ⟨budget, here, query, enough⟩ := (returned.and
    ((Filter.eventually_gt_atTop dnsQuery.length).and (eventually_enough _))).exists
  have ends : ∀ reply ∈ replies upstream addressRounds, SectionsEnd reply := by
    by_contra endless
    rw [fetch_eq asks, finalReply_running asks.isA query enough endless] at here
    contradiction
  have whole : ∀ text ∈ contributed (replies upstream addressRounds),
      ∃ address : Ipv4Addr, address.toText = text := by
    intro text mem
    obtain ⟨address, _, rfl⟩ := List.mem_map.mp ((same text).mp mem)
    exact ⟨address, rfl⟩
  obtain ⟨last, read, found, mem, addressesRead⟩ := exists_lastRead seen
  obtain ⟨qdCount, anCount, questionEnd, answersEnd, questionCount, answerCount, questions, walks⟩ :=
    exists_walks addressesRead
  obtain ⟨walked, answers⟩ := walks budget (enough last mem)
  have header := Shared.Dns.le_of_skipQuestions questions
  have long : 12 ≤ last.length := by
    by_contra short
    rw [fetch_short asks query enough ends found (Nat.lt_of_not_le short) questionCount
      answerCount] at here
    cases here
    exact absurd ok (by decide)
  obtain ⟨ips, texts, different, all⟩ := exists_addresses whole
  rw [fetch_merged asks query enough ends found texts long questionCount answerCount walked answers
    header] at here
  cases here
  rw [replyResponse, Aead.decodeFromRelay_encodeForRelay nonce.twelve] at opened
  cases opened
  have perm : addresses.Perm ips := by
    rw [List.perm_ext_iff_of_nodup nodup different]
    intro address
    rw [← List.mem_map_of_injective toText_injective, ← same, all,
      List.mem_map_of_injective toText_injective]
  have count := carries.count
  rw [getUint16_of_occurs (occurs_count_merged (by omega) ips), UInt16.toNat_ofNat',
    Except.ok.injEq, perm.length_eq] at count
  have some : ips ≠ [] := by
    rintro rfl
    exact seen (List.eq_nil_iff_forall_not_mem.mpr fun text => by simp [all text])
  have nonempty : addresses ≠ [] := by
    rintro rfl
    exact some perm.nil_eq.symm
  have inside := le_length_of_carries long questionCount questions some nonempty carries
  rw [rcode_merged header long] at noError
  refine ⟨ends, whole, ?_, last, found, long, noError, qdCount, questionEnd, questionCount, questions,
    inside⟩
  rw [← texts, List.length_map]
  omega

/-- Such a template makes the response consistent. -/
theorem consistent_of_mergeable (asks : AsksForAddresses aead request dnsQuery)
    (mergeable : Mergeable (replies upstream addressRounds)) :
    StatusConsistent aead nonce upstream request := by
  intro seen
  obtain ⟨last, read, found, mem, addressesRead⟩ := exists_lastRead seen
  obtain ⟨last', found', usable⟩ := mergeable.template
  rw [found, Option.some.injEq] at found'
  subst found'
  obtain ⟨qdCount, anCount, questionEnd, answersEnd, questionCount, answerCount, questions, walks⟩ :=
    exists_walks addressesRead
  obtain ⟨qdCount', questionEnd', questionCount', questions', inside⟩ := usable.questions
  rw [questionCount, Except.ok.injEq] at questionCount'
  rw [← questionCount', questions, Option.some.injEq] at questions'
  rw [← questions'] at inside
  obtain ⟨ips, texts, different, all⟩ := exists_addresses mergeable.whole
  have few : ips.length ≤ 65535 := by
    rw [← List.length_map Ipv4Addr.toText, texts]
    exact mergeable.few
  have header := Shared.Dns.le_of_skipQuestions questions
  refine ⟨replyResponse aead nonce (merged last questionEnd answersEnd ips),
    merged last questionEnd answersEnd ips, ips, ?_, rfl,
    Aead.decodeFromRelay_encodeForRelay nonce.twelve _,
    (rcode_merged header usable.header).trans usable.noError, different, all, ?_⟩
  · filter_upwards [Filter.eventually_gt_atTop dnsQuery.length,
      eventually_enough (replies upstream addressRounds)] with budget query enough
    obtain ⟨walked, answers⟩ := walks budget (enough last mem)
    exact fetch_merged asks query enough mergeable.ends found texts usable.header questionCount
      answerCount walked answers header
  · refine ⟨?_, qdCount, questionEnd, ?_, skipQuestions_merged questions,
      occurs_records_merged header inside ips⟩
    · have six := usable.header
      rw [getUint16_of_occurs (occurs_count_merged (by omega) ips),
        Shared.Dns.toNat_ofNat_of_short (Nat.lt_succ_of_le few)]
    · rw [getUint16_merged header usable.header, questionCount]

/-- For every query for addresses, and whatever comes back from the resolvers, the worker's response
is consistent if no reply contributes an address, or if all replies can be walked over and the last
one that was read can stand for all of them.  It is consistent then only. -/
theorem fetch_statusConsistent_iff (asks : AsksForAddresses aead request dnsQuery) :
    StatusConsistent aead nonce upstream request ↔
      contributed (replies upstream addressRounds) = [] ∨
        Mergeable (replies upstream addressRounds) := by
  constructor
  · intro consistent
    by_cases seen : contributed (replies upstream addressRounds) = []
    · exact .inl seen
    · exact .inr (mergeable_of_consistent asks seen consistent)
  · rintro (none | mergeable)
    · exact fun seen => absurd none seen
    · exact consistent_of_mergeable asks mergeable

/-! ## A resolver that denies the name -/

/-- A query for the address of `a`. -/
def aQuery : Bytes :=
  [0x00, 0x01, 0x01, 0x00, 0x00, 0x01, 0x00, 0x00, 0x00, 0x00, 0x00, 0x00] ++
    [0x01, 0x61, 0x00, 0x00, 0x01, 0x00, 0x01]

/-- It has one address. -/
def aReply : Bytes :=
  [0x00, 0x01, 0x81, 0x80, 0x00, 0x01, 0x00, 0x01, 0x00, 0x00, 0x00, 0x00] ++
    [0x01, 0x61, 0x00, 0x00, 0x01, 0x00, 0x01] ++
    [0xC0, 0x0C, 0x00, 0x01, 0x00, 0x01, 0x00, 0x00, 0x00, 0x3C, 0x00, 0x04, 10, 0, 0, 1]

/-- There is no such name. -/
def deniedReply : Bytes :=
  [0x00, 0x01, 0x81, 0x83, 0x00, 0x01, 0x00, 0x00, 0x00, 0x00, 0x00, 0x00] ++
    [0x01, 0x61, 0x00, 0x00, 0x01, 0x00, 0x01]

def aRequest : Request :=
  ⟨"POST".toList, Aead.transparent.encodeForRelay zeroNonce.bytes aQuery⟩

/-- The last resolver's reply may differ from that of the others. -/
def lastAnswers (content : Bytes) : Upstream :=
  fun _ url =>
    if url = "https://dns.quad9.net/dns-query".toList then some ⟨200, content⟩
    else some ⟨200, aReply⟩

theorem aRequest_asks : AsksForAddresses Aead.transparent aRequest aQuery where
  post := rfl
  decoded := Aead.decodeFromRelay_encodeForRelay zeroNonce.twelve aQuery
  isA := by
    have letter : aQuery[12]? = some 1 := rfl
    have root : aQuery[14]? = some 0 := rfl
    exact ⟨15, .label letter (by decide) (by decide) (.root root rfl), by decide⟩

/-- If all resolvers agree, the response is consistent. -/
theorem fetch_statusConsistent_agreed :
    StatusConsistent Aead.transparent zeroNonce (lastAnswers aReply) aRequest := by
  have all : replies (lastAnswers aReply) addressRounds = List.replicate 9 aReply := by
    decide +kernel
  have texts : contributed (List.replicate 9 aReply) =
      List.replicate 9 (Ipv4Addr.toText ⟨10, 0, 0, 1⟩) := by
    decide +kernel
  have questions : Shared.Dns.skipQuestions aReply 1 12 = some 19 :=
    (skipQuestions_eq_ok_iff (by decide : aReply.length < 36)).mp (by decide)
  refine (fetch_statusConsistent_iff aRequest_asks).mpr (.inr ?_)
  rw [all]
  refine ⟨?_, ?_, ?_, aReply, by decide +kernel, by decide, by decide, 1, 19, rfl, questions,
    by decide⟩
  · intro reply mem
    rw [List.eq_of_mem_replicate mem, ← extractARecords_ne_running_iff]
    decide
  · intro text mem
    rw [texts] at mem
    exact ⟨_, (List.eq_of_mem_replicate mem).symm⟩
  · rw [texts]
    decide +kernel

/-- Two resolvers have an address; the third denies the name, and the response says so. -/
theorem denied_not_statusConsistent :
    AsksForAddresses Aead.transparent aRequest aQuery ∧
      contributed (replies (lastAnswers deniedReply) addressRounds) ≠ [] ∧
        ¬ StatusConsistent Aead.transparent zeroNonce (lastAnswers deniedReply) aRequest := by
  have seen : contributed (replies (lastAnswers deniedReply) addressRounds) ≠ [] := by
    decide +kernel
  have last : lastRead (replies (lastAnswers deniedReply) addressRounds) = some deniedReply := by
    decide +kernel
  refine ⟨aRequest_asks, seen, fun consistent => ?_⟩
  obtain ⟨template, found, usable⟩ :=
    (mergeable_of_consistent aRequest_asks seen consistent).template
  rw [last, Option.some.injEq] at found
  subst found
  exact absurd usable.noError (by decide)

end DnsHijacker.Worker
