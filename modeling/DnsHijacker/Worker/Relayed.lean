import DnsHijacker.DnsRelay.AppsScriptSpec
import DnsHijacker.Worker.Lookup

/-!
# Queries through the worker

A query of the server goes through the worker as it came from its client, with any type.  Where the
resolvers answer the question that was asked, what the relay decrypts is a response to that question:
to a query for addresses with the addresses of all replies, and to any other the last reply as it is.
-/

namespace DnsHijacker.Worker

open DnsHijacker.Rust
open DnsHijacker.Library
open DnsHijacker.Wire
open DnsHijacker.Shared (AnswersKey cacheKeyFromQuery questionKey)
open DnsHijacker.Shared.Dns (parseDomain_encodeName parseARecords)
open DnsHijacker.DnsRelay
open DnsHijacker.DnsRelay.AppsScript (Nonce zeroNonce)

/-- A response to the question: one question, the one that was asked. -/
structure Echoes (question : Question) (reply : Bytes) : Prop where
  response : ∃ flags, reply[2]? = some flags ∧ 128 ≤ flags
  count : getUint16 reply 4 = .ok 1
  question : Occurs reply 12 question.encode

/-- The tag of a ciphertext has sixteen octets; what is shorter does not decrypt. -/
def HasTag (aead : Aead) : Prop :=
  ∀ nonce ciphertext, ciphertext.length < 16 → aead.decrypt nonce ciphertext = none

/-! ## The question -/

variable {ucd : UnicodeData} {question : Question} {packet reply : Bytes}

/-- A packet that begins with the question has its key. -/
theorem cacheKeyFromQuery_of_occurs (here : Occurs packet 12 question.encode)
    (utf8 : ∀ label ∈ question.labels, label.IsUtf8) :
    cacheKeyFromQuery ucd packet = .ok (some (questionKey ucd question)) := by
  have inside := here.add_length_le (by simp [Question.encode, u16ToBeBytes])
  rw [Question.encode, occurs_append] at here
  rw [Question.encode, List.length_append, List.length_append,
    length_u16ToBeBytes, length_u16ToBeBytes] at inside
  obtain ⟨name, typeClass⟩ := here
  have qtype := (occurs_append.mp typeClass).1
  rw [cacheKeyFromQuery, parseDomain_encodeName name utf8]
  simp only [bind, Except.bind, pure, Except.pure]
  rw [if_neg (by omega), qtype.readU16_eq]
  rfl

theorem Echoes.answersKey (echoes : Echoes question reply)
    (utf8 : ∀ label ∈ question.labels, label.IsUtf8) :
    AnswersKey ucd (questionKey ucd question) reply :=
  ⟨cacheKeyFromQuery_of_occurs echoes.question utf8, echoes.response⟩

/-- The one question of an echo is all there is to skip. -/
theorem Echoes.skipQuestions (echoes : Echoes question reply) :
    Shared.Dns.skipQuestions reply 1 12 = some (12 + question.encode.length) := by
  have name : Occurs reply 12 (NameForm.encode ⟨question.labels, none⟩) := by
    have here := echoes.question
    rw [Question.encode, occurs_append] at here
    exact here.1
  rw [Shared.Dns.skipQuestions, Shared.Dns.skipName_form name, Option.bind_some,
    Shared.Dns.skipQuestions, Question.encode, List.length_append, List.length_append, Nat.add_assoc]
  rfl

theorem Echoes.le_length (echoes : Echoes question reply) :
    12 + question.encode.length ≤ reply.length :=
  echoes.question.add_length_le (by simp [Question.encode, u16ToBeBytes])

/-- With other answers it is still a response to the question. -/
theorem Echoes.merged {answersEnd : Nat} (echoes : Echoes question reply) (ips : List Ipv4Addr) :
    Echoes question (merged reply (12 + question.encode.length) answersEnd ips) := by
  have inside := echoes.le_length
  have header : 12 ≤ 12 + question.encode.length := Nat.le_add_right 12 _
  have kept {i : Nat} (below : i < 12 + question.encode.length) (high : i ≠ 6) (low : i ≠ 7) :
      (Worker.merged reply (12 + question.encode.length) answersEnd ips)[i]? = reply[i]? :=
    getElem?_merged_of_lt header ips below (by omega) high low
  refine ⟨?_, ?_, ?_⟩
  · rw [kept (by omega) (by decide) (by decide)]
    exact echoes.response
  · rw [getUint16_merged header (by omega)]
    exact echoes.count
  · refine occurs_of_getElem? (fun i small => ?_) echoes.question
    rw [kept (by omega) (by omega) (by omega)]

/-! ## The type -/

/-- The worker reads the type of a query. -/
theorem getQuestionType_query (query : Query) {budget : Nat} (enough : query.encode.length < budget) :
    getQuestionType budget query.encode = .ok query.question.qtype.toNat := by
  have name : Occurs query.encode 12 (NameForm.encode ⟨query.question.labels, none⟩) :=
    query.toMessage.occurs_name
  have stop : 12 + (NameForm.encode ⟨query.question.labels, none⟩).length = query.nameEnd := rfl
  have qtype : Occurs query.encode query.nameEnd (u16ToBeBytes query.question.qtype) :=
    query.toMessage.occurs_qtype
  have number := getUint16_of_occurs qtype
  obtain ⟨high, low, first, second, value⟩ := getUint16_eq_ok_iff.mp number
  rw [getQuestionType, skipName_eq (by omega), Shared.Dns.skipName_form name, stop]
  simp only [endOf, bind, Except.bind, pure, Except.pure, first, second, Option.map_some,
    Option.getD_some]
  rw [value, ← Nat.shiftLeft_add_eq_or_of_lt low.toNat_lt, Nat.shiftLeft_eq]

theorem asks_query (aead : Aead) (nonce : Nonce) (query : Query) :
    Asks aead (aead.encodeForRelay nonce.bytes query.encode) query.encode
      query.question.qtype.toNat where
  decoded := Aead.decodeFromRelay_encodeForRelay nonce.twelve _
  type _ := getQuestionType_query query

/-! ## The relay's result -/

/-- What the relay's client gets for a query when these replies were taken. -/
structure RelayedFor (ucd : UnicodeData) (query : Query) (taken : List Bytes) (last reply : Bytes) :
    Prop where
  answers : AnswersKey ucd (questionKey ucd query.question) reply
  txid : reply.take 2 = last.take 2
  addresses : query.question.qtype = 1 → parseARecords reply = .ok (counted taken)
  others : query.question.qtype ≠ 1 → reply = last

/-- A plain text is no packet. -/
theorem decodeFromRelay_short {aead : Aead} (tagged : HasTag aead) {text : Bytes}
    (short : text.length < 28) : aead.decodeFromRelay text = none := by
  rw [Aead.decodeFromRelay]
  split
  · rfl
  · apply tagged
    rw [List.length_drop]
    omega

variable {aead : Aead} {nonce workerNonce : Nonce} {upstream : Upstream} {post : Post}
  {response : Response} {query : Query} {dnsQuery : Bytes}

theorem resolveViaRelay_failed (posted : post (aead.encodeForRelay nonce.bytes dnsQuery) =
      .ok ⟨response.status, response.body⟩) (undecodable : aead.decodeFromRelay response.body = none) :
    resolveViaRelay aead nonce post dnsQuery = .error (.config "decrypt failed".toList) := by
  rw [resolveViaRelay, posted]
  simp only [undecodable]

theorem resolveViaRelay_reply (posted : post (aead.encodeForRelay nonce.bytes dnsQuery) =
      .ok ⟨response.status, response.body⟩) (made : response = replyResponse aead workerNonce reply) :
    resolveViaRelay aead nonce post dnsQuery = .ok reply := by
  subst made
  rw [resolveViaRelay, posted]
  simp only [replyResponse, Aead.decodeFromRelay_encodeForRelay workerNonce.twelve]

theorem take_two_merged {questionEnd answersEnd : Nat} (long : 12 ≤ reply.length)
    (ips : List Ipv4Addr) : (merged reply questionEnd answersEnd ips).take 2 = reply.take 2 := by
  have six : (reply.take 6).length = 6 := List.length_take_of_le (by omega)
  rw [merged, mergedFront, List.append_assoc, List.take_append_of_le_length (by omega),
    List.take_take]
  rfl

/-- For every query whose labels are text, with a cipher that tags what it encrypts, and if every reply
that the worker can read is a response to the question: the worker responds exactly if every name it
walks over ends, and with any response it comes to, the relay's client gets a response to the very
question it asked, or the error of a packet that does not decrypt where no reply could be read. -/
theorem relayed_reply (ucd : UnicodeData) {aead : Aead} (tagged : HasTag aead)
    (nonce workerNonce : Nonce) (upstream : Upstream) {query : Query}
    (utf8 : ∀ label ∈ query.question.labels, label.IsUtf8)
    (echo : ∀ reply ∈ replies upstream (roundsOf query.question.qtype.toNat),
      (readAddresses reply).isSome → Echoes query.question reply)
    (whole : query.question.qtype = 1 →
      Whole (replies upstream (roundsOf query.question.qtype.toNat))) :
    let packet := aead.encodeForRelay nonce.bytes query.encode
    let taken := replies upstream (roundsOf query.question.qtype.toNat)
    ((∃ response, Responds aead workerNonce upstream packet response) ↔
      ∀ reply ∈ taken, SectionsEnd reply) ∧
    ∀ (post : Post) (response : Response), Responds aead workerNonce upstream packet response →
      post packet = .ok ⟨response.status, response.body⟩ →
        match lastRead taken with
        | none =>
            resolveViaRelay aead nonce post query.encode =
              .error (.config "decrypt failed".toList)
        | some last =>
            ∃ reply, resolveViaRelay aead nonce post query.encode = .ok reply ∧
              RelayedFor ucd query taken last reply := by
  intro packet taken
  have asks := asks_query aead nonce query
  refine ⟨responds_iff asks, fun post response responds posted => ?_⟩
  obtain ⟨budget, here, enough⟩ := responds.exists_budget asks
  rw [replyTo] at here
  cases found : lastRead taken with
  | none =>
      rw [found] at here
      cases here
      exact resolveViaRelay_failed posted (decodeFromRelay_short tagged (by decide))
  | some last =>
      obtain ⟨mem, texts, read⟩ := mem_of_lastRead found
      have echoes := echo last mem (by rw [read]; rfl)
      rw [found] at here
      by_cases address : query.question.qtype = 1
      · have isOne : query.question.qtype.toNat = 1 := by
          rw [address]
          rfl
        simp only [if_pos isOne, ← firstSeen_contributed (whole address)] at here
        rcases rewriteAnswersWithIps_cases read (enough last mem) (firstSeen [] (addresses taken))
          with ⟨short, _⟩ | ⟨qdCount, questionEnd, answersEnd, long, count, questions, rewritten⟩
        · have inside := echoes.le_length
          omega
        · rw [rewritten] at here
          cases echoes.count.symm.trans count
          cases echoes.skipQuestions.symm.trans questions
          cases here
          exact ⟨_, resolveViaRelay_reply posted rfl, (echoes.merged _).answersKey utf8,
            take_two_merged long _, fun _ => parseARecords_merged echoes.le_length count questions,
            fun other => absurd address other⟩
      · have notOne : ¬ query.question.qtype.toNat = 1 := fun one =>
          address (UInt16.toNat_inj.mp one)
        simp only [if_neg notOne] at here
        cases here
        exact ⟨last, resolveViaRelay_reply posted rfl, echoes.answersKey utf8, rfl,
          fun one => absurd one address, fun _ => rfl⟩

/-- Ciphertexts with sixteen octets more than what they hold. -/
def taggedAead : Aead where
  encrypt _ message := List.replicate 16 0 ++ message
  decrypt _ ciphertext := if ciphertext.length < 16 then none else some (ciphertext.drop 16)
  decrypt_encrypt _ message := by
    rw [if_neg (by simp)]
    rfl

theorem hasTag_taggedAead : HasTag taggedAead :=
  fun _ _ short => if_pos short

/-- A query for the addresses of `a`, where the last resolver denies the name. -/
theorem relayed_reply_denied : ∃ response reply,
    Responds taggedAead zeroNonce (lastAnswers deniedReply)
      (taggedAead.encodeForRelay zeroNonce.bytes (AppsScript.typedQuery 1).encode) response ∧
    resolveViaRelay taggedAead zeroNonce (fun _ => .ok ⟨response.status, response.body⟩)
      (AppsScript.typedQuery 1).encode = .ok reply ∧
    RelayedFor .ascii (AppsScript.typedQuery 1)
      (replies (lastAnswers deniedReply) addressRounds) deniedReply reply := by
  have echoes : ∀ reply ∈ [aReply, aReply, deniedReply],
      Echoes (AppsScript.typedQuery 1).question reply := by
    intro reply mem
    simp only [List.mem_cons, List.not_mem_nil, or_false, or_self_left] at mem
    rcases mem with rfl | rfl
    · exact ⟨⟨0x81, rfl, by decide⟩, rfl, by decide⟩
    · exact ⟨⟨0x81, rfl, by decide⟩, rfl, by decide⟩
  have echo : ∀ reply ∈ replies (lastAnswers deniedReply)
      (roundsOf (AppsScript.typedQuery 1).question.qtype.toNat),
      (readAddresses reply).isSome → Echoes (AppsScript.typedQuery 1).question reply := by
    intro reply mem _
    exact echoes reply (mem_replies_denied mem)
  obtain ⟨responds, relayed⟩ := relayed_reply .ascii hasTag_taggedAead zeroNonce zeroNonce
    (lastAnswers deniedReply) (by decide) echo fun _ => whole_denied
  obtain ⟨response, here⟩ := responds.mpr fun reply mem => ends_denied mem
  have result := relayed (fun _ => .ok ⟨response.status, response.body⟩) response here rfl
  have last : lastRead (replies (lastAnswers deniedReply)
      (roundsOf (AppsScript.typedQuery 1).question.qtype.toNat)) = some deniedReply :=
    lastRead_denied
  rw [last] at result
  obtain ⟨reply, resolved, relayedFor⟩ := result
  exact ⟨response, reply, here, resolved, relayedFor⟩

end DnsHijacker.Worker
