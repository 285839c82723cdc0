import DnsHijacker.Shared.Dns.EcsSpec
import DnsHijacker.Wire.Response

/-!
# What a message says, without its header

`questionSection` and `answerTtls` are what a client reads off a message: the
octets of its question section and the TTLs of its answer records.  Both depend
on the two counts and on what stands behind the header only, so neither changes
with the transaction ID, and a longer message says the same as the message it
begins with.
-/

namespace DnsHijacker.Shared.Dns

open DnsHijacker.Rust
open DnsHijacker.Wire

/-- The octets of the question section, if it ends inside the message. -/
def questionSection (message : Bytes) : Option Bytes :=
  match readU16 message 4 with
  | .error _ => none
  | .ok qdcount =>
      match skipQuestions message qdcount.toNat 12 with
      | none => none
      | some stop => if stop ≤ message.length then some ((message.take stop).drop 12) else none

/-- The TTLs of so many records from an offset on. -/
def ttlsFrom (message : Bytes) : Nat → Nat → Option (List UInt32)
  | 0, _ => some []
  | count + 1, pos =>
      match skipName message pos with
      | none => none
      | some nameEnd =>
          match readU32 message (nameEnd + 4), readU16 message (nameEnd + 8) with
          | .ok ttl, .ok rdlength =>
              (ttlsFrom message count (nameEnd + 10 + rdlength.toNat)).map (ttl :: ·)
          | _, _ => none

/-- The TTLs of the answer records. -/
def answerTtls (message : Bytes) : Option (List UInt32) :=
  match readU16 message 4, readU16 message 6 with
  | .ok qdcount, .ok ancount =>
      (skipQuestions message qdcount.toNat 12).bind (ttlsFrom message ancount.toNat)
  | _, _ => none

/-- The data of the client subnet option. -/
def subnetOf (message : Bytes) : Option Bytes :=
  match findOptRecord message with
  | .ok (some opt) =>
      match parseOptions opt.fields.options with
      | .ok options => (options.find? (·.code = optCodeEcs)).map EdnsOption.data
      | .error _ => none
  | _ => none

/-! ## A message that goes on like another -/

section Occurs

variable {message reply : Bytes} {start : Nat}

theorem getElem?_of_occurs_drop (same : Occurs reply start (message.drop start)) {pos : Nat}
    (behind : start ≤ pos) {byte : UInt8} (found : message[pos]? = some byte) :
    reply[pos]? = some byte := by
  rcases same with ⟨rest, whole⟩
  have inside : (message.drop start)[pos - start]? = some byte := by
    rw [List.getElem?_drop, Nat.add_sub_cancel' behind]
    exact found
  have carried : (reply.drop start)[pos - start]? = some byte := by
    rw [← whole, List.getElem?_append_left (List.getElem?_eq_some_iff.mp inside).1]
    exact inside
  rw [List.getElem?_drop, Nat.add_sub_cancel' behind] at carried
  exact carried

theorem readU16_of_occurs_drop (same : Occurs reply start (message.drop start)) {pos : Nat}
    (behind : start ≤ pos) {value : UInt16} (read : readU16 message pos = .ok value) :
    readU16 reply pos = .ok value := by
  simp only [readU16, bind_eq_ok, index_eq_ok_iff] at read ⊢
  rcases read with ⟨high, highFound, low, lowFound, value⟩
  exact ⟨high, getElem?_of_occurs_drop same behind highFound, low,
    getElem?_of_occurs_drop same (by omega) lowFound, value⟩

theorem readU32_of_occurs_drop (same : Occurs reply start (message.drop start)) {pos : Nat}
    (behind : start ≤ pos) {value : UInt32} (read : readU32 message pos = .ok value) :
    readU32 reply pos = .ok value := by
  simp only [readU32, bind_eq_ok, index_eq_ok_iff] at read ⊢
  rcases read with ⟨b0, found0, b1, found1, b2, found2, b3, found3, value⟩
  exact ⟨b0, getElem?_of_occurs_drop same behind found0,
    b1, getElem?_of_occurs_drop same (by omega) found1,
    b2, getElem?_of_occurs_drop same (by omega) found2,
    b3, getElem?_of_occurs_drop same (by omega) found3, value⟩

/-- A name is skipped without a look at what a pointer points to. -/
theorem skipName_of_occurs_drop (same : Occurs reply start (message.drop start)) {pos stop : Nat}
    (behind : start ≤ pos) (skipped : skipName message pos = some stop) :
    skipName reply pos = some stop ∧ pos < stop :=
  ⟨skipName_of_agree skipped fun _ _ above _ => getElem?_of_occurs_drop same (behind.trans above),
    (skipName_bounds skipped).1⟩

theorem skipQuestions_of_occurs_drop (same : Occurs reply start (message.drop start))
    {count pos stop : Nat} (behind : start ≤ pos)
    (skipped : skipQuestions message count pos = some stop) :
    skipQuestions reply count pos = some stop ∧ pos ≤ stop :=
  ⟨skipQuestions_of_agree skipped fun _ _ above _ =>
    getElem?_of_occurs_drop same (behind.trans above), le_of_skipQuestions skipped⟩

theorem ttlsFrom_of_occurs_drop (same : Occurs reply start (message.drop start))
    {count pos : Nat} {ttls : List UInt32} (behind : start ≤ pos)
    (read : ttlsFrom message count pos = some ttls) : ttlsFrom reply count pos = some ttls := by
  induction count generalizing pos ttls with
  | zero => exact read
  | succ count ih =>
      rw [ttlsFrom] at read ⊢
      cases name : skipName message pos with
      | none => simp [name] at read
      | some nameEnd =>
          obtain ⟨replyName, longer⟩ := skipName_of_occurs_drop same behind name
          rw [name] at read
          rw [replyName]
          dsimp only at read ⊢
          cases ttl : readU32 message (nameEnd + 4) with
          | error fault => simp [ttl] at read
          | ok value =>
              cases length : readU16 message (nameEnd + 8) with
              | error fault => simp [ttl, length] at read
              | ok rdlength =>
                  simp only [ttl, length, Option.map_eq_some_iff] at read
                  rcases read with ⟨rest, readRest, rfl⟩
                  rw [readU32_of_occurs_drop same (by omega) ttl,
                    readU16_of_occurs_drop same (by omega) length]
                  simp only [ih (by omega) readRest, Option.map_some]

/-- A message that has the other's number of questions and everything behind its
header has its question section. -/
theorem questionSection_of_occurs_drop (same : Occurs reply 12 (message.drop 12))
    (long : message.length ≤ reply.length)
    (count : ∀ qdcount, readU16 message 4 = .ok qdcount → readU16 reply 4 = .ok qdcount)
    {octets : Bytes} (found : questionSection message = some octets) :
    questionSection reply = some octets := by
  rw [questionSection] at found ⊢
  cases read : readU16 message 4 with
  | error fault => simp [read] at found
  | ok qdcount =>
      rw [count qdcount read]
      cases skipped : skipQuestions message qdcount.toNat 12 with
      | none => simp [read, skipped] at found
      | some stop =>
          obtain ⟨replySkipped, later⟩ := skipQuestions_of_occurs_drop same (Nat.le_refl 12) skipped
          simp only [read, skipped] at found
          simp only [replySkipped]
          split at found
          · rename_i inside
            rw [if_pos (inside.trans long), ← found]
            rcases same with ⟨rest, whole⟩
            rw [List.drop_take, List.drop_take, ← whole, List.take_append_of_le_length]
            rw [List.length_drop]
            omega
          · contradiction

end Occurs

/-! ## The transaction ID -/

theorem drop_withTxid (packet : Bytes) (first second : UInt8) {start : Nat} (behind : 2 ≤ start) :
    (withTxid packet first second).drop start = packet.drop start := by
  rcases packet with _ | ⟨x, _ | ⟨y, rest⟩⟩
  · rfl
  · rfl
  · obtain ⟨more, rfl⟩ := Nat.exists_eq_add_of_le' behind
    rfl

/-- What is read behind the transaction ID does not depend on it. -/
theorem eq_of_withTxid {α : Type} (reads : Bytes → Option α)
    (carried : ∀ {message reply : Bytes}, Occurs reply 2 (message.drop 2) →
      message.length ≤ reply.length →
        ∀ {value : α}, reads message = some value → reads reply = some value)
    (packet : Bytes) (first second : UInt8) :
    reads (withTxid packet first second) = reads packet := by
  have same := drop_withTxid packet first second (Nat.le_refl 2)
  have length := length_withTxid packet first second
  apply Option.ext
  intro value
  constructor
  · exact carried (by rw [Occurs, same]) length.le
  · exact carried (by rw [Occurs, same]) length.ge

theorem occurs_drop_of_le {message reply : Bytes} {start later : Nat} (le : start ≤ later)
    (same : Occurs reply start (message.drop start)) : Occurs reply later (message.drop later) := by
  have dropped := List.IsPrefix.drop same (later - start)
  rw [List.drop_drop, List.drop_drop, Nat.add_sub_cancel' le] at dropped
  exact dropped

theorem questionSection_withTxid (packet : Bytes) (first second : UInt8) :
    questionSection (withTxid packet first second) = questionSection packet := by
  apply eq_of_withTxid
  intro message reply same long octets found
  apply questionSection_of_occurs_drop (occurs_drop_of_le (by decide) same) long _ found
  intro qdcount read
  exact readU16_of_occurs_drop same (by decide) read

theorem answerTtls_withTxid (packet : Bytes) (first second : UInt8) :
    answerTtls (withTxid packet first second) = answerTtls packet := by
  apply eq_of_withTxid
  intro message reply same _ ttls found
  rw [answerTtls] at found ⊢
  cases qd : readU16 message 4 with
  | error fault => simp [qd] at found
  | ok qdcount =>
      cases an : readU16 message 6 with
      | error fault => simp [qd, an] at found
      | ok ancount =>
          simp only [qd, an, Option.bind_eq_some_iff] at found
          rcases found with ⟨stop, skipped, read⟩
          obtain ⟨replySkipped, later⟩ := skipQuestions_of_occurs_drop same (by decide) skipped
          rw [readU16_of_occurs_drop same (by decide) qd, readU16_of_occurs_drop same (by decide) an]
          simp only [replySkipped, Option.bind_some]
          exact ttlsFrom_of_occurs_drop same (by omega) read

/-! ## Encoded packets -/

theorem questionSection_of_occurs {message : Bytes} {questions : List QuestionForm}
    (short : questions.length < 65536) (long : 12 ≤ message.length)
    (count : readU16 message 4 = .ok (UInt16.ofNat questions.length))
    (occurs : Occurs message 12 (encodeQuestions questions)) :
    questionSection message = some (encodeQuestions questions) := by
  have inside : 12 + (encodeQuestions questions).length ≤ message.length := by
    have fits := List.IsPrefix.length_le occurs
    rw [List.length_drop] at fits
    omega
  rw [questionSection, count]
  simp only [toNat_ofNat_of_short short, skipQuestions_forms occurs]
  rw [if_pos inside, occurs.take_drop]

theorem occurs_questions (packet : Packet) :
    Occurs packet.encode 12 (encodeQuestions packet.questions) :=
  (occurs_append.mp packet.occurs_middle).1

/-- The question section of a packet is its encoded questions. -/
theorem questionSection_packet (packet : Packet) :
    questionSection packet.encode = some (encodeQuestions packet.questions) :=
  questionSection_of_occurs packet.questions_short packet.twelve_le_length
    (readU16_counts packet).1 (occurs_questions packet)

theorem readU16_take {buf : Bytes} {pos n : Nat} (before : pos + 2 ≤ n) :
    readU16 (buf.take n) pos = readU16 buf pos := by
  simp only [readU16, index]
  rw [List.getElem?_take_of_lt (by omega), List.getElem?_take_of_lt (by omega)]

/-- The subnet option does not change the questions. -/
theorem EcsSet.questionSection_eq {packet : Packet} {client : Ipv4Addr} {out : Bytes}
    (set : EcsSet packet client out) :
    questionSection out = some (encodeQuestions packet.questions) := by
  rcases set.arcount with ⟨count, read, _⟩
  have long : 12 ≤ out.length := by
    simp only [readU16, bind_eq_ok, index_eq_ok_iff] at read
    rcases read with ⟨_, _, low, found, _⟩
    exact (List.getElem?_eq_some_iff.mp found).1
  apply questionSection_of_occurs packet.questions_short long
  · rw [← readU16_take (n := 10) (by decide), set.header, readU16_take (by decide)]
    exact (readU16_counts packet).1
  · have fits : (encodeQuestions packet.questions).length ≤ optStart packet - 12 := by
      rw [optStart, Packet.additionalStart, Packet.middle, List.length_append]
      omega
    have front := set.front
    rw [List.drop_take, List.drop_take] at front
    have here : encodeQuestions packet.questions <+: (out.drop 12).take (optStart packet - 12) := by
      rw [front, List.prefix_take_iff]
      exact ⟨occurs_questions packet, fits⟩
    exact here.trans (List.take_prefix _ _)

theorem length_rdata_optTemplate_le (packet : Packet) :
    (optTemplate packet).rdata.length ≤ packet.encode.length := by
  rcases firstOpt_cases packet with ⟨absent, _⟩ | ⟨opt, after, first, _, split, _⟩
  · rw [optTemplate, absent]
    exact Nat.zero_le _
  · have inside := congrArg List.length (encode_eq_frontOf split)
    rw [encodeRecords_cons, List.length_append, List.length_append, opt.length_encode] at inside
    rw [optTemplate, first, Option.getD_some]
    omega

theorem find?_replaceSubnet (client : Ipv4Addr) (options : List EdnsOption) :
    (replaceSubnet client options).find? (·.code = optCodeEcs) = some (subnetOption client) := by
  have others : (options.filter (·.code ≠ 8)).find? (·.code = optCodeEcs) = none := by
    rw [List.find?_eq_none]
    intro option mem isSubnet
    have other := of_decide_eq_true (List.mem_filter.mp mem).2
    exact other (of_decide_eq_true isSubnet)
  rw [replaceSubnet, List.find?_append, others]
  rfl

/-- The subnet that is read is the one that was set. -/
theorem EcsSet.subnetOf_eq {packet : Packet} {client : Ipv4Addr} {out : Bytes}
    (set : EcsSet packet client out) (fits : packet.encode.length ≤ 1310) :
    subnetOf out = some (ecsData client) := by
  rcases set.opt with ⟨options, stop, written, found, _⟩
  have old := length_rdata_optTemplate_le packet
  have new := length_replaceSubnet_le client options
  rw [written] at old
  have parsed : parseOptions (encodeOptions (replaceSubnet client options)) =
      .ok (replaceSubnet client options) := parseOptions_encodeOptions (by omega)
  rw [subnetOf, found]
  simp only [parsed, find?_replaceSubnet]
  rfl

/-! ## Responses -/

theorem skipName_nameAt {message : Bytes} {offset stop : Nat} {runs : List (List Label)}
    (nameAt : NameAt message offset runs stop) : skipName message offset = some stop := by
  rcases nameAt.exists_form with ⟨form, occurs, rfl⟩
  exact skipName_form occurs

theorem skipQuestions_questionsAt {message : Bytes} {offset stop : Nat}
    {questions : List (List (List Label))} (questionsAt : QuestionsAt message offset questions stop) :
    skipQuestions message questions.length offset = some stop := by
  induction questionsAt with
  | done => rfl
  | question name _ _ ih =>
      rw [List.length_cons, skipQuestions, skipName_nameAt name, Option.bind_some, ih]

theorem ttlsFrom_answersAt {message : Bytes} {offset stop : Nat} {answers : List Answer}
    (answersAt : AnswersAt message offset answers stop) :
    ttlsFrom message answers.length offset = some (answers.map Answer.ttl) := by
  induction answersAt with
  | done => rfl
  | answer name ttl length _ _ ih =>
      rw [List.length_cons, ttlsFrom, skipName_nameAt name]
      simp only [ttl.readU32_eq, length.readU16_eq, ih, Option.map_some, List.map_cons]

/-- The TTLs that are read are the TTLs of the answer records. -/
theorem answerTtls_responseWith {message : Bytes} {questions : List (List (List Label))}
    {answers : List Answer} (response : ResponseWith message questions answers) :
    answerTtls message = some (answers.map Answer.ttl) := by
  rcases response.qdcount with ⟨qdcount, atFour, questionCount⟩
  rcases response.ancount with ⟨ancount, atSix, answerCount⟩
  rcases response.sections with ⟨_, _, _, _, _, _, questionsAt, answersAt, _⟩
  rw [answerTtls, atFour.readU16_eq, atSix.readU16_eq]
  simp only [questionCount, answerCount, skipQuestions_questionsAt questionsAt, Option.bind_some]
  exact ttlsFrom_answersAt answersAt

end DnsHijacker.Shared.Dns
