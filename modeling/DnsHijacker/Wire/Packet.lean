import DnsHijacker.Wire.Message

/-!
# Messages with any number of questions

A `Packet` has any number of questions, and every name in it may be written with
a compression pointer.  As with `Message`, the counts of its header are computed
when it is encoded.
-/

namespace DnsHijacker.Wire

open DnsHijacker.Rust

/-- A question with a name of any form. -/
structure QuestionForm where
  name : NameForm
  qtype : UInt16
  qclass : UInt16
  deriving DecidableEq

def QuestionForm.encode (question : QuestionForm) : Bytes :=
  question.name.encode ++ (u16ToBeBytes question.qtype ++ u16ToBeBytes question.qclass)

/-- The octets of a question section. -/
def encodeQuestions (questions : List QuestionForm) : Bytes :=
  questions.flatMap QuestionForm.encode

@[simp]
theorem encodeQuestions_cons (question : QuestionForm) (questions : List QuestionForm) :
    encodeQuestions (question :: questions) = question.encode ++ encodeQuestions questions :=
  rfl

theorem singleton_short (question : QuestionForm) : [question].length < 65536 := by
  rw [List.length_singleton]
  decide

structure Packet where
  txid : UInt16
  flagsHigh : UInt8
  flagsLow : UInt8
  questions : List QuestionForm
  answers : List Record
  authority : List Record
  additional : List Record
  questions_short : questions.length < 65536
  answers_short : answers.length < 65536
  authority_short : authority.length < 65536
  additional_short : additional.length < 65536

namespace Packet

/-- The ten octets of the header before the last count. -/
def headerFront (packet : Packet) : Bytes :=
  u16ToBeBytes packet.txid ++ [packet.flagsHigh, packet.flagsLow] ++
    u16ToBeBytes (UInt16.ofNat packet.questions.length) ++
    u16ToBeBytes (UInt16.ofNat packet.answers.length) ++
    u16ToBeBytes (UInt16.ofNat packet.authority.length)

/-- The header's last count. -/
def arcount (packet : Packet) : Bytes :=
  u16ToBeBytes (UInt16.ofNat packet.additional.length)

@[simp]
theorem length_headerFront (packet : Packet) : packet.headerFront.length = 10 :=
  rfl

@[simp]
theorem length_arcount (packet : Packet) : packet.arcount.length = 2 :=
  rfl

/-- The octets between the header and the additional section. -/
def middle (packet : Packet) : Bytes :=
  encodeQuestions packet.questions ++ encodeRecords (packet.answers ++ packet.authority)

def encode (packet : Packet) : Bytes :=
  packet.headerFront ++ (packet.arcount ++ (packet.middle ++ encodeRecords packet.additional))

/-- The offset of the additional section. -/
def additionalStart (packet : Packet) : Nat :=
  12 + packet.middle.length

theorem length_encode (packet : Packet) :
    packet.encode.length = packet.additionalStart + (encodeRecords packet.additional).length := by
  simp only [encode, additionalStart, List.length_append, length_headerFront, length_arcount]
  omega

theorem twelve_le_length (packet : Packet) : 12 ≤ packet.encode.length := by
  rw [length_encode, additionalStart, Nat.add_assoc]
  exact Nat.le_add_right 12 _

theorem occurs_middle (packet : Packet) : Occurs packet.encode 12 packet.middle := by
  have afterFront := (occurs_append.mp (occurs_self packet.encode)).2
  have afterHeader := (occurs_append.mp afterFront).2
  exact (occurs_append.mp afterHeader).1

theorem occurs_additional (packet : Packet) :
    Occurs packet.encode packet.additionalStart (encodeRecords packet.additional) := by
  have afterFront := (occurs_append.mp (occurs_self packet.encode)).2
  have afterHeader := (occurs_append.mp afterFront).2
  exact (occurs_append.mp afterHeader).2

/-- The packet with another additional section. -/
def withAdditional (packet : Packet) (additional : List Record)
    (short : additional.length < 65536) : Packet :=
  { packet with additional, additional_short := short }

@[simp]
theorem additional_withAdditional (packet : Packet) (additional : List Record)
    (short : additional.length < 65536) :
    (packet.withAdditional additional short).additional = additional :=
  rfl

/-- The packet has no more additional records than octets. -/
theorem additional_length_le (packet : Packet) :
    packet.additional.length ≤ packet.encode.length := by
  have each : ∀ records : List Record, records.length ≤ (encodeRecords records).length := by
    intro records
    induction records with
    | nil => exact Nat.le_refl 0
    | cons record records ih =>
        have positive := List.length_pos_of_ne_nil record.encode_ne_nil
        rw [List.length_cons, encodeRecords_cons, List.length_append]
        omega
  rw [length_encode]
  exact (each packet.additional).trans (Nat.le_add_left _ _)

end Packet

/-- A message is a packet with one question. -/
def Message.toPacket (message : Message) : Packet where
  txid := message.txid
  flagsHigh := message.flagsHigh
  flagsLow := message.flagsLow
  questions := [⟨⟨message.question.labels, none⟩, message.question.qtype, message.question.qclass⟩]
  answers := message.answers
  authority := message.authority
  additional := message.additional
  questions_short := singleton_short _
  answers_short := message.answers_short
  authority_short := message.authority_short
  additional_short := message.additional_short

theorem Message.encodeQuestions_toPacket (message : Message) :
    encodeQuestions message.toPacket.questions = message.question.encode := by
  simp [encodeQuestions, toPacket, QuestionForm.encode, Question.encode, encodeName,
    NameForm.encode, NameForm.ending]

theorem Message.encode_toPacket (message : Message) : message.toPacket.encode = message.encode := by
  simp only [Packet.encode, Packet.middle, message.encodeQuestions_toPacket, Message.encode,
    Message.records, encodeRecords_append, List.append_assoc]
  rfl

end DnsHijacker.Wire
