import DnsHijacker.Shared.Dns.Message
import DnsHijacker.Shared.Dns.NameSpec
import DnsHijacker.Wire.Packet

/-!
# What the message readers return on encoded messages

The loops over a section read exactly the records of that section, and a message
that was encoded passes every bounds check.
-/

namespace DnsHijacker.Shared.Dns

open DnsHijacker.Rust
open DnsHijacker.Wire

/-! ## Header counts -/

theorem readU16_qdcount (message : Message) : readU16 message.encode 4 = .ok 1 :=
  rfl

theorem readU16_ancount (message : Message) :
    readU16 message.encode 6 = .ok (UInt16.ofNat message.answers.length) :=
  Occurs.readU16_eq ⟨_, rfl⟩

/-- A length that fits a count is read back. -/
theorem toNat_ofNat_of_short {n : Nat} (short : n < 65536) : (UInt16.ofNat n).toNat = n := by
  rw [UInt16.toNat_ofNat']
  exact Nat.mod_eq_of_lt short

/-- The name of the question is read if all its labels are UTF-8 and rejected
otherwise. -/
theorem parseDomain_message (ucd : UnicodeData) (message : Message) :
    parseDomain ucd message.encode 12 =
      .ok (if ∀ label ∈ message.question.labels, label.IsUtf8 then
        some (dottedName ucd message.question.labels, message.nameEnd)
      else none) := by
  split
  · next utf8 => exact parseDomain_encodeName message.occurs_name utf8
  · next invalid =>
      push Not at invalid
      exact parseDomain_not_utf8 message.occurs_name invalid

theorem parseDomain_query (ucd : UnicodeData) (query : Query) :
    parseDomain ucd query.encode 12 =
      .ok (if ∀ label ∈ query.question.labels, label.IsUtf8 then
        some (dottedName ucd query.question.labels, query.nameEnd)
      else none) :=
  parseDomain_message ucd query.toMessage

/-- The type and the class of the question as slices. -/
theorem slice_typeClass (message : Message) :
    slice message.encode message.nameEnd (message.nameEnd + 2) =
        .ok (u16ToBeBytes message.question.qtype) ∧
      slice message.encode (message.nameEnd + 2) (message.nameEnd + 4) =
        .ok (u16ToBeBytes message.question.qclass) := by
  have inside := message.nameEnd_add_four_le
  constructor
  · exact message.occurs_qtype.slice_eq (by rw [length_u16ToBeBytes]; omega)
  · exact message.occurs_qclass.slice_eq (by rw [length_u16ToBeBytes]; omega)

/-- The loop over the single question. -/
theorem skipQuestions_message (message : Message) :
    skipQuestions message.encode 1 12 = some message.recordsStart := by
  have name : Occurs message.encode 12 (NameForm.encode ⟨message.question.labels, none⟩) :=
    message.occurs_name
  rw [skipQuestions, skipName_form name, Option.bind_some, skipQuestions, Message.recordsStart,
    Question.encode, List.length_append, Nat.add_assoc]
  rfl

/-! ## One record -/

/-- What the readers find at a record: the end of its name, its fixed fields and
its data, all inside the buffer. -/
structure RecordAt (buf : Bytes) (offset nameEnd : Nat) (record : Record) : Prop where
  skip : skipName buf offset = some nameEnd
  inside : nameEnd + 10 + record.rdata.length ≤ buf.length
  rtype : readU16 buf nameEnd = .ok record.rtype
  rclass : readU16 buf (nameEnd + 2) = .ok record.rclass
  ttl : slice buf (nameEnd + 4) (nameEnd + 8) = .ok (u32ToBeBytes record.ttl)
  rdlength : readU16 buf (nameEnd + 8) = .ok (UInt16.ofNat record.rdata.length)
  rdata : Occurs buf (nameEnd + 10) record.rdata

theorem recordAt_of_occurs {buf : Bytes} {offset : Nat} {record : Record}
    (occurs : Occurs buf offset record.encode) :
    RecordAt buf offset (offset + record.owner.encode.length) record := by
  have whole := occurs.add_length_le record.encode_ne_nil
  rw [record.length_encode] at whole
  rcases occurs_append.mp occurs with ⟨owner, afterOwner⟩
  rcases occurs_append.mp afterOwner with ⟨fixed, rdata⟩
  rcases occurs_append.mp fixed with ⟨front, rdlength⟩
  rcases occurs_append.mp front with ⟨typeClass, ttl⟩
  rcases occurs_append.mp typeClass with ⟨rtype, rclass⟩
  refine ⟨skipName_form owner, by omega, rtype.readU16_eq, rclass.readU16_eq, ?_,
    rdlength.readU16_eq, rdata⟩
  exact ttl.slice_eq (by simp only [List.length_append, length_u16ToBeBytes,
    length_u32ToBeBytes]; omega)

/-! ## Answer records -/

/-- The address an A record carries. -/
def aRecord (record : Record) : Option Ipv4Addr :=
  if record.rtype = 1 then
    match record.rdata with
    | [a, b, c, d] => some ⟨a, b, c, d⟩
    | _ => none
  else none

theorem aRecord_of_length_ne {record : Record} (other : ¬ (record.rtype = 1 ∧
    record.rdata.length = 4)) : aRecord record = none := by
  rw [aRecord]
  split
  · next isA =>
      split
      · next rdata => exact absurd ⟨isA, by rw [rdata]; rfl⟩ other
      · rfl
  · rfl

/-- The answer loop reads the addresses of the A records, in order. -/
theorem collectARecords_eq {buf : Bytes} {offset : Nat} {records : List Record}
    (occurs : Occurs buf offset (encodeRecords records)) :
    collectARecords buf records.length offset = .ok (records.filterMap aRecord) := by
  induction records generalizing offset with
  | nil => rfl
  | cons record records ih =>
      rw [encodeRecords_cons, occurs_append] at occurs
      have found := recordAt_of_occurs occurs.1
      have rest := ih occurs.2
      rw [record.length_encode, ← Nat.add_assoc, ← Nat.add_assoc] at rest
      have length := toNat_ofNat_of_short record.short
      have inside := found.inside
      rw [List.length_cons, collectARecords, found.skip]
      simp only [found.rtype, found.rdlength, bind, Except.bind, pure, Except.pure, length]
      rw [if_neg (by omega), if_neg (by omega)]
      by_cases isA : record.rtype = 1 ∧ record.rdata.length = 4
      · obtain ⟨a, b, c, d, rdata⟩ : ∃ a b c d, record.rdata = [a, b, c, d] :=
          List.length_eq_four.mp isA.2
        have address : aRecord record = some ⟨a, b, c, d⟩ := by
          rw [aRecord, if_pos isA.1, rdata]
        have octets := found.rdata
        rw [rdata] at octets
        simp only [occurs_cons] at octets
        rw [if_pos isA, index_eq_ok octets.1, index_eq_ok octets.2.1, index_eq_ok octets.2.2.1,
          index_eq_ok octets.2.2.2.1]
        simp only [rest, List.filterMap_cons, address]
        rfl
      · rw [if_neg isA]
        simp only [rest, List.filterMap_cons, aRecord_of_length_ne isA]
        rfl

/-- `parse_a_records` on a buffer with such an answer section. -/
theorem parseARecords_of_occurs {buf : Bytes} {qdcount : UInt16} {start : Nat}
    {answers : List Record} (long : 12 ≤ buf.length) (short : answers.length < 65536)
    (readQd : readU16 buf 4 = .ok qdcount)
    (readAn : readU16 buf 6 = .ok (UInt16.ofNat answers.length))
    (skipped : skipQuestions buf qdcount.toNat 12 = some start)
    (occurs : Occurs buf start (encodeRecords answers)) :
    parseARecords buf = .ok (answers.filterMap aRecord) := by
  rw [parseARecords, if_neg (by omega), readQd, readAn]
  simp only [bind, Except.bind]
  rw [toNat_ofNat_of_short short, skipped]
  exact collectARecords_eq occurs

/-- `parse_a_records` on an encoded message. -/
theorem parseARecords_message (message : Message) :
    parseARecords message.encode = .ok (message.answers.filterMap aRecord) := by
  have answers : Occurs message.encode message.recordsStart (encodeRecords message.answers) := by
    have records := message.occurs_records
    rw [Message.records, List.append_assoc, encodeRecords_append, occurs_append] at records
    exact records.1
  exact parseARecords_of_occurs message.twelve_le_length message.answers_short
    (readU16_qdcount message) (readU16_ancount message) (skipQuestions_message message) answers

/-! ## The OPT record -/

/-- The fields of a record read as an OPT record. -/
def optFields (record : Record) : OptFields where
  udpPayloadSize := record.rclass
  extendedRcode := UInt8.ofNat (record.ttl.toNat / 16777216)
  version := UInt8.ofNat (record.ttl.toNat / 65536 % 256)
  flags := u16FromBeBytes (UInt8.ofNat (record.ttl.toNat / 256 % 256))
    (UInt8.ofNat (record.ttl.toNat % 256))
  options := record.rdata

/-- The first OPT record of a section that starts at an offset. -/
def optRecord (offset : Nat) : List Record → Option EdnsOpt
  | [] => none
  | record :: records =>
      if record.rtype = 41 then
        some ⟨offset, offset + record.encode.length, optFields record⟩
      else optRecord (offset + record.encode.length) records

theorem skipRr_record {buf : Bytes} {offset : Nat} {record : Record}
    (occurs : Occurs buf offset record.encode) :
    skipRr buf offset = .ok (some (offset + record.encode.length)) := by
  have found := recordAt_of_occurs occurs
  have inside := found.inside
  have length := toNat_ofNat_of_short record.short
  rw [skipRr, found.skip]
  simp only [found.rdlength, bind, Except.bind, pure, Except.pure, length]
  rw [if_neg (by omega), if_neg (by omega), record.length_encode, ← Nat.add_assoc,
    ← Nat.add_assoc]

theorem skipRrs_records {buf : Bytes} {offset : Nat} {records : List Record}
    (occurs : Occurs buf offset (encodeRecords records)) :
    skipRrs buf records.length offset =
      .ok (some (offset + (encodeRecords records).length)) := by
  induction records generalizing offset with
  | nil => rfl
  | cons record records ih =>
      rw [encodeRecords_cons, occurs_append] at occurs
      rw [List.length_cons, skipRrs, skipRr_record occurs.1]
      simp only [bind, Except.bind]
      rw [ih occurs.2, encodeRecords_cons, List.length_append, Nat.add_assoc]

/-- The search finds the first OPT record of the section. -/
theorem searchOpt_eq {buf : Bytes} {offset : Nat} {records : List Record}
    (occurs : Occurs buf offset (encodeRecords records)) :
    searchOpt buf records.length offset = .ok (optRecord offset records) := by
  induction records generalizing offset with
  | nil => rfl
  | cons record records ih =>
      rw [encodeRecords_cons, occurs_append] at occurs
      have found := recordAt_of_occurs occurs.1
      have inside := found.inside
      have length := toNat_ofNat_of_short record.short
      have rest := ih occurs.2
      have stop := record.length_encode
      rw [List.length_cons, searchOpt, found.skip, optRecord]
      simp only [found.rtype, found.rclass, found.ttl, found.rdlength, bind, Except.bind, pure,
        Except.pure, length]
      rw [if_neg (by omega), if_neg (by omega)]
      by_cases isOpt : record.rtype = 41
      · rw [if_pos isOpt, if_pos isOpt, found.rdata.slice_eq inside, stop, ← Nat.add_assoc,
          ← Nat.add_assoc]
        rfl
      · rw [if_neg isOpt, if_neg isOpt, ← rest, stop, ← Nat.add_assoc, ← Nat.add_assoc]

theorem skipQuestions_forms {buf : Bytes} {offset : Nat} {questions : List QuestionForm}
    (occurs : Occurs buf offset (encodeQuestions questions)) :
    skipQuestions buf questions.length offset =
      some (offset + (encodeQuestions questions).length) := by
  induction questions generalizing offset with
  | nil => rfl
  | cons question questions ih =>
      rw [encodeQuestions_cons, occurs_append] at occurs
      have name := (occurs_append.mp occurs.1).1
      have length : question.encode.length = question.name.encode.length + 4 := by
        rw [QuestionForm.encode, List.length_append]
        rfl
      have rest := ih occurs.2
      rw [length] at rest
      rw [List.length_cons, skipQuestions, skipName_form name, Option.bind_some, Nat.add_assoc, rest,
        encodeQuestions_cons, List.length_append, length, Nat.add_assoc]

theorem le_of_skipQuestions {buf : Bytes} {count pos stop : Nat}
    (skipped : skipQuestions buf count pos = some stop) : pos ≤ stop := by
  induction count generalizing pos with
  | zero =>
      cases skipped
      exact Nat.le_refl _
  | succ count ih =>
      obtain ⟨nameEnd, name, rest⟩ := Option.bind_eq_some_iff.mp skipped
      have later := (skipName_bounds name).1
      have last := ih rest
      omega

theorem skipQuestions_of_agree {buf other : Bytes} {count pos stop : Nat}
    (skipped : skipQuestions buf count pos = some stop)
    (agree : ∀ i byte, pos ≤ i → i < stop → buf[i]? = some byte → other[i]? = some byte) :
    skipQuestions other count pos = some stop := by
  induction count generalizing pos with
  | zero => exact skipped
  | succ count ih =>
      obtain ⟨nameEnd, name, rest⟩ := Option.bind_eq_some_iff.mp skipped
      have later := (skipName_bounds name).1
      have last := le_of_skipQuestions rest
      have here := skipName_of_agree name fun i byte above below => agree i byte above (by omega)
      rw [skipQuestions, here, Option.bind_some]
      exact ih rest fun i byte above => agree i byte (by omega)

theorem readU16_counts (packet : Packet) :
    readU16 packet.encode 4 = .ok (UInt16.ofNat packet.questions.length) ∧
      readU16 packet.encode 6 = .ok (UInt16.ofNat packet.answers.length) ∧
      readU16 packet.encode 8 = .ok (UInt16.ofNat packet.authority.length) ∧
      readU16 packet.encode 10 = .ok (UInt16.ofNat packet.additional.length) :=
  ⟨Occurs.readU16_eq ⟨_, rfl⟩, Occurs.readU16_eq ⟨_, rfl⟩, Occurs.readU16_eq ⟨_, rfl⟩,
    Occurs.readU16_eq ⟨_, rfl⟩⟩

/-- `find_opt_record` on an encoded packet. -/
theorem findOptRecord_packet (packet : Packet) :
    findOptRecord packet.encode =
      .ok (optRecord packet.additionalStart packet.additional) := by
  have long := packet.twelve_le_length
  rcases readU16_counts packet with ⟨qdcount, ancount, nscount, arcount⟩
  rcases occurs_append.mp packet.occurs_middle with ⟨questions, records⟩
  have skipped := skipRrs_records records
  rw [List.length_append] at skipped
  rw [findOptRecord, if_neg (by omega), qdcount, ancount, nscount, arcount]
  simp only [bind, Except.bind]
  rw [toNat_ofNat_of_short packet.questions_short, toNat_ofNat_of_short packet.answers_short,
    toNat_ofNat_of_short packet.authority_short, toNat_ofNat_of_short packet.additional_short,
    skipQuestions_forms questions]
  simp only [skipped]
  have start : 12 + (encodeQuestions packet.questions).length +
      (encodeRecords (packet.answers ++ packet.authority)).length = packet.additionalStart := by
    rw [Packet.additionalStart, Packet.middle, List.length_append, Nat.add_assoc]
  rw [start]
  exact searchOpt_eq packet.occurs_additional

/-- `find_opt_record` on an encoded message. -/
theorem findOptRecord_message (message : Message) :
    findOptRecord message.encode =
      .ok (optRecord
        (message.recordsStart + (encodeRecords (message.answers ++ message.authority)).length)
        message.additional) := by
  have start : message.toPacket.additionalStart =
      message.recordsStart + (encodeRecords (message.answers ++ message.authority)).length := by
    rw [Packet.additionalStart, Packet.middle, List.length_append, message.encodeQuestions_toPacket,
      Message.recordsStart, Nat.add_assoc]
    rfl
  rw [← message.encode_toPacket, findOptRecord_packet, start]
  rfl

end DnsHijacker.Shared.Dns
