import DnsHijacker.Wire.Name

/-!
# Messages on the wire

A message is a header with four counts, followed by the questions and three
sections of resource records.  The counts are not data of a message: `encode`
computes them, so a well-formed message cannot disagree with its bytes.
-/

namespace DnsHijacker.Wire

open DnsHijacker.Rust

structure Question where
  labels : List Label
  qtype : UInt16
  qclass : UInt16
  deriving DecidableEq

/-- A question; its name is written without compression. -/
def Question.encode (question : Question) : Bytes :=
  encodeName question.labels ++ (u16ToBeBytes question.qtype ++ u16ToBeBytes question.qclass)

/-- A resource record. -/
structure Record where
  owner : NameForm
  rtype : UInt16
  rclass : UInt16
  ttl : UInt32
  rdata : Bytes
  short : rdata.length < 65536
  deriving DecidableEq

namespace Record

/-- The ten octets between the name and the data of a record. -/
def fixed (record : Record) : Bytes :=
  u16ToBeBytes record.rtype ++ u16ToBeBytes record.rclass ++ u32ToBeBytes record.ttl ++
    u16ToBeBytes (UInt16.ofNat record.rdata.length)

def encode (record : Record) : Bytes :=
  record.owner.encode ++ (record.fixed ++ record.rdata)

@[simp]
theorem length_fixed (record : Record) : record.fixed.length = 10 :=
  rfl

theorem encode_ne_nil (record : Record) : record.encode ≠ [] := by
  simp [encode, record.owner.encode_ne_nil]

theorem length_encode (record : Record) :
    record.encode.length = record.owner.encode.length + 10 + record.rdata.length := by
  rw [encode, List.length_append, List.length_append, length_fixed, Nat.add_assoc]

end Record

/-- The octets of a section. -/
def encodeRecords (records : List Record) : Bytes :=
  records.flatMap Record.encode

@[simp]
theorem encodeRecords_nil : encodeRecords [] = [] :=
  rfl

@[simp]
theorem encodeRecords_cons (record : Record) (records : List Record) :
    encodeRecords (record :: records) = record.encode ++ encodeRecords records :=
  rfl

@[simp]
theorem encodeRecords_append (first second : List Record) :
    encodeRecords (first ++ second) = encodeRecords first ++ encodeRecords second := by
  simp [encodeRecords]

/-- A message.  The second word of the header is kept as its two octets. -/
structure Message where
  txid : UInt16
  flagsHigh : UInt8
  flagsLow : UInt8
  question : Question
  answers : List Record
  authority : List Record
  additional : List Record
  answers_short : answers.length < 65536
  authority_short : authority.length < 65536
  additional_short : additional.length < 65536

theorem nil_short : ([] : List Record).length < 65536 :=
  Nat.zero_lt_succ 65535

namespace Message

/-- The twelve octets of the header. -/
def header (message : Message) : Bytes :=
  u16ToBeBytes message.txid ++ [message.flagsHigh, message.flagsLow] ++ u16ToBeBytes 1 ++
    u16ToBeBytes (UInt16.ofNat message.answers.length) ++
    u16ToBeBytes (UInt16.ofNat message.authority.length) ++
    u16ToBeBytes (UInt16.ofNat message.additional.length)

@[simp]
theorem length_header (message : Message) : message.header.length = 12 :=
  rfl

/-- The records of all sections, in order. -/
def records (message : Message) : List Record :=
  message.answers ++ message.authority ++ message.additional

def encode (message : Message) : Bytes :=
  message.header ++ (message.question.encode ++ encodeRecords message.records)

/-- The message is a response: its QR bit is set. -/
def IsResponse (message : Message) : Prop :=
  128 ≤ message.flagsHigh

end Message

/-- A query: no QR bit and no records but additional ones. -/
structure Query where
  txid : UInt16
  flagsHigh : UInt8
  flagsLow : UInt8
  isQuery : flagsHigh < 128
  question : Question
  additional : List Record
  additional_short : additional.length < 65536

namespace Query

/-- A query that asks for recursion and carries no record. -/
def standard (txid : UInt16) (question : Question) : Query where
  txid := txid
  flagsHigh := 0x01
  flagsLow := 0x00
  isQuery := by decide
  question := question
  additional := []
  additional_short := nil_short

/-- The query as a message. -/
def toMessage (query : Query) : Message where
  txid := query.txid
  flagsHigh := query.flagsHigh
  flagsLow := query.flagsLow
  question := query.question
  answers := []
  authority := []
  additional := query.additional
  answers_short := nil_short
  authority_short := nil_short
  additional_short := query.additional_short

def encode (query : Query) : Bytes :=
  query.toMessage.encode

end Query

/-! ## Reading the parts of an encoded message -/

namespace Message

theorem occurs_question (message : Message) :
    Occurs message.encode 12 message.question.encode := by
  have := occurs_append.mp (occurs_self message.encode)
  exact (occurs_append.mp this.2).1

/-- The offset just past the name of the question. -/
def nameEnd (message : Message) : Nat :=
  12 + (encodeName message.question.labels).length

theorem occurs_name (message : Message) :
    Occurs message.encode 12 (encodeName message.question.labels) :=
  (occurs_append.mp message.occurs_question).1

theorem occurs_typeClass (message : Message) :
    Occurs message.encode message.nameEnd
      (u16ToBeBytes message.question.qtype ++ u16ToBeBytes message.question.qclass) :=
  (occurs_append.mp message.occurs_question).2

theorem nameEnd_add_four_le (message : Message) : message.nameEnd + 4 ≤ message.encode.length :=
  message.occurs_typeClass.add_length_le (by simp [u16ToBeBytes])

theorem occurs_qtype (message : Message) :
    Occurs message.encode message.nameEnd (u16ToBeBytes message.question.qtype) :=
  (occurs_append.mp message.occurs_typeClass).1

theorem occurs_qclass (message : Message) :
    Occurs message.encode (message.nameEnd + 2) (u16ToBeBytes message.question.qclass) :=
  (occurs_append.mp message.occurs_typeClass).2

/-- The offset just past the question. -/
def recordsStart (message : Message) : Nat :=
  12 + message.question.encode.length

theorem occurs_records (message : Message) :
    Occurs message.encode message.recordsStart (encodeRecords message.records) := by
  have := occurs_append.mp (occurs_self message.encode)
  exact (occurs_append.mp this.2).2

theorem twelve_le_length (message : Message) : 12 ≤ message.encode.length := by
  rw [encode, List.length_append, length_header]
  exact Nat.le_add_right 12 _

end Message

namespace Query

theorem twelve_le_length (query : Query) : 12 ≤ query.encode.length :=
  query.toMessage.twelve_le_length

/-- The offset just past the name of the question. -/
def nameEnd (query : Query) : Nat :=
  query.toMessage.nameEnd

/-- The query with other flags. -/
def withFlags (query : Query) (high low : UInt8) : Message :=
  { query.toMessage with flagsHigh := high, flagsLow := low }

@[simp]
theorem question_withFlags (query : Query) (high low : UInt8) :
    (query.withFlags high low).question = query.question :=
  rfl

@[simp]
theorem nameEnd_withFlags (query : Query) (high low : UInt8) :
    (query.withFlags high low).nameEnd = query.nameEnd :=
  rfl

theorem set_flags (query : Query) (high low : UInt8) :
    (query.encode.set 2 high).set 3 low = (query.withFlags high low).encode :=
  rfl

end Query

/-! ## Well-formed responses -/

/-- `count` records follow one another from an offset on, each with a name that
is encoded there and data inside the message. -/
inductive RecordsAt (message : Bytes) : Nat → Nat → Prop where
  | done {offset : Nat} : RecordsAt message offset 0
  | record {offset nameEnd count : Nat} {runs : List (List Label)} {rdlength : UInt16}
      (name : NameAt message offset runs nameEnd)
      (length : Occurs message (nameEnd + 8) (u16ToBeBytes rdlength))
      (inside : nameEnd + 10 + rdlength.toNat ≤ message.length)
      (rest : RecordsAt message (nameEnd + 10 + rdlength.toNat) count) :
      RecordsAt message offset (count + 1)

/-- Fewer records follow one another as well. -/
theorem RecordsAt.take {message : Bytes} {offset count extra : Nat}
    (records : RecordsAt message offset (count + extra)) : RecordsAt message offset count := by
  induction count generalizing offset with
  | zero => exact .done
  | succ count ih =>
      rw [Nat.add_right_comm] at records
      cases records with
      | record name length inside rest => exact .record name length inside (ih rest)

/-- A response to one question, with names of any form: a header with the QR
bit, the question, and as many records as the header counts. -/
structure WellFormedResponse (message : Bytes) : Prop where
  isResponse : ∃ flags, message[2]? = some flags ∧ 128 ≤ flags
  oneQuestion : Occurs message 4 (u16ToBeBytes 1)
  sections : ∃ ancount nscount arcount runs nameEnd,
    Occurs message 6 (u16ToBeBytes ancount) ∧ Occurs message 8 (u16ToBeBytes nscount) ∧
      Occurs message 10 (u16ToBeBytes arcount) ∧ NameAt message 12 runs nameEnd ∧
      nameEnd + 4 ≤ message.length ∧
      RecordsAt message (nameEnd + 4) (ancount.toNat + (nscount.toNat + arcount.toNat))

theorem WellFormedResponse.twelve_le_length {message : Bytes}
    (wellFormed : WellFormedResponse message) : 12 ≤ message.length := by
  rcases wellFormed.sections with ⟨_, _, _, _, _, _, _, arcount, _⟩
  exact arcount.add_length_le (by simp [u16ToBeBytes])

/-! ## Unique decoding -/

theorem Label.encode_append_inj {first second : Label} {rest other : Bytes}
    (eq : first.encode ++ rest = second.encode ++ other) : first = second ∧ rest = other := by
  rw [Label.encode, Label.encode, List.cons_append, List.cons_append, List.cons.injEq] at eq
  have sameLength : first.bytes.length = second.bytes.length := by
    rw [← first.toNat_ofNat_length, ← second.toNat_ofNat_length, eq.1]
  rcases List.append_inj eq.2 sameLength with ⟨sameBytes, sameRest⟩
  cases first
  cases second
  cases sameBytes
  exact ⟨rfl, sameRest⟩

/-- The first octet tells a label from the end of a name. -/
theorem Label.encode_append_ne_ending (label : Label) (target : Option (Fin 0x4000))
    (rest other : Bytes) : label.encode ++ rest ≠ NameForm.ending target ++ other := by
  intro eq
  have short := label.short
  have positive := label.length_pos
  have length := label.toNat_ofNat_length
  cases target with
  | none =>
      have first : UInt8.ofNat label.bytes.length = 0 := (List.cons.inj eq).1
      rw [first] at length
      exact absurd length.symm (Nat.ne_of_gt positive)
  | some target =>
      have first : UInt8.ofNat label.bytes.length = UInt8.ofNat (0xC0 + target / 256) :=
        (List.cons.inj eq).1
      rw [first, UInt8.toNat_ofNat'] at length
      have small := target.isLt
      omega

theorem NameForm.ending_append_inj {first second : Option (Fin 0x4000)} {rest other : Bytes}
    (eq : ending first ++ rest = ending second ++ other) : first = second ∧ rest = other := by
  cases first with
  | none =>
      cases second with
      | none => exact ⟨rfl, (List.cons.inj eq).2⟩
      | some target =>
          have first : (0 : UInt8).toNat = (UInt8.ofNat (0xC0 + target / 256)).toNat :=
            congrArg UInt8.toNat (List.cons.inj eq).1
          rw [UInt8.toNat_ofNat'] at first
          have small := target.isLt
          have : (0 : UInt8).toNat = 0 := rfl
          omega
  | some target =>
      cases second with
      | none =>
          have first : (UInt8.ofNat (0xC0 + target / 256)).toNat = (0 : UInt8).toNat :=
            congrArg UInt8.toNat (List.cons.inj eq).1
          rw [UInt8.toNat_ofNat'] at first
          have small := target.isLt
          have : (0 : UInt8).toNat = 0 := rfl
          omega
      | some next =>
          rcases List.cons.inj eq with ⟨first, tail⟩
          rcases List.cons.inj tail with ⟨second, sameRest⟩
          have high := congrArg UInt8.toNat first
          have low := congrArg UInt8.toNat second
          rw [UInt8.toNat_ofNat', UInt8.toNat_ofNat'] at high low
          have small := target.isLt
          have nextSmall := next.isLt
          refine ⟨congrArg some (Fin.ext ?_), sameRest⟩
          omega

theorem NameForm.encode_append_inj {first second : NameForm} {rest other : Bytes}
    (eq : first.encode ++ rest = second.encode ++ other) : first = second ∧ rest = other := by
  rcases first with ⟨labels, target⟩
  rcases second with ⟨otherLabels, otherTarget⟩
  induction labels generalizing otherLabels with
  | nil =>
      cases otherLabels with
      | nil =>
          rcases ending_append_inj eq with ⟨rfl, sameRest⟩
          exact ⟨rfl, sameRest⟩
      | cons label otherLabels =>
          rw [encode_cons, List.append_assoc] at eq
          exact absurd eq.symm (label.encode_append_ne_ending target _ rest)
  | cons label labels ih =>
      cases otherLabels with
      | nil =>
          rw [encode_cons, List.append_assoc] at eq
          exact absurd eq (label.encode_append_ne_ending otherTarget _ other)
      | cons next otherLabels =>
          rw [encode_cons, encode_cons, List.append_assoc, List.append_assoc] at eq
          rcases Label.encode_append_inj eq with ⟨rfl, tail⟩
          rcases ih otherLabels tail with ⟨same, sameRest⟩
          cases same
          exact ⟨rfl, sameRest⟩

theorem Record.fixed_inj {first second : Record} (eq : first.fixed = second.fixed) :
    first.rtype = second.rtype ∧ first.rclass = second.rclass ∧ first.ttl = second.ttl ∧
      first.rdata.length = second.rdata.length := by
  rcases List.append_inj eq rfl with ⟨front, sameLength⟩
  rcases List.append_inj front rfl with ⟨front, sameTtl⟩
  rcases List.append_inj front rfl with ⟨sameType, sameClass⟩
  refine ⟨u16ToBeBytes_injective sameType, u16ToBeBytes_injective sameClass,
    u32ToBeBytes_injective sameTtl, ?_⟩
  have lengths := congrArg UInt16.toNat (u16ToBeBytes_injective sameLength)
  rwa [UInt16.toNat_ofNat', UInt16.toNat_ofNat', Nat.mod_eq_of_lt first.short,
    Nat.mod_eq_of_lt second.short] at lengths

theorem Record.encode_append_inj {first second : Record} {rest other : Bytes}
    (eq : first.encode ++ rest = second.encode ++ other) : first = second ∧ rest = other := by
  simp only [encode, List.append_assoc] at eq
  rcases NameForm.encode_append_inj eq with ⟨sameOwner, afterOwner⟩
  rcases List.append_inj afterOwner rfl with ⟨sameFixed, afterFixed⟩
  rcases fixed_inj sameFixed with ⟨sameType, sameClass, sameTtl, sameLength⟩
  rcases List.append_inj afterFixed sameLength with ⟨sameData, sameRest⟩
  cases first
  cases second
  cases sameOwner
  cases sameType
  cases sameClass
  cases sameTtl
  cases sameData
  exact ⟨rfl, sameRest⟩

/-- Sections with the same octets and as many records are the same. -/
theorem encodeRecords_append_inj {first second : List Record} {rest other : Bytes}
    (sameCount : first.length = second.length)
    (eq : encodeRecords first ++ rest = encodeRecords second ++ other) :
    first = second ∧ rest = other := by
  induction first generalizing second with
  | nil =>
      cases second with
      | nil => exact ⟨rfl, eq⟩
      | cons record second => contradiction
  | cons record first ih =>
      cases second with
      | nil => contradiction
      | cons next second =>
          rw [encodeRecords_cons, encodeRecords_cons, List.append_assoc, List.append_assoc] at eq
          rcases Record.encode_append_inj eq with ⟨rfl, tail⟩
          rcases ih (Nat.succ.inj sameCount) tail with ⟨rfl, sameRest⟩
          exact ⟨rfl, sameRest⟩

/-- The octets of a section determine its records. -/
theorem encodeRecords_injective : Function.Injective encodeRecords := by
  intro first second eq
  induction first generalizing second with
  | nil =>
      cases second with
      | nil => rfl
      | cons record second => exact absurd (List.append_eq_nil_iff.mp eq.symm).1 record.encode_ne_nil
  | cons record first ih =>
      cases second with
      | nil => exact absurd (List.append_eq_nil_iff.mp eq).1 record.encode_ne_nil
      | cons next second =>
          rcases Record.encode_append_inj eq with ⟨rfl, rest⟩
          rw [ih rest]

theorem encodeName_append_inj {first second : List Label} {rest other : Bytes}
    (eq : encodeName first ++ rest = encodeName second ++ other) :
    first = second ∧ rest = other := by
  have forms : NameForm.encode ⟨first, none⟩ ++ rest = NameForm.encode ⟨second, none⟩ ++ other := eq
  rcases NameForm.encode_append_inj forms with ⟨same, sameRest⟩
  cases same
  exact ⟨rfl, sameRest⟩

theorem Question.encode_append_inj {first second : Question} {rest other : Bytes}
    (eq : first.encode ++ rest = second.encode ++ other) : first = second ∧ rest = other := by
  simp only [encode, List.append_assoc] at eq
  rcases encodeName_append_inj eq with ⟨sameLabels, afterName⟩
  rcases List.append_inj afterName rfl with ⟨sameType, afterType⟩
  rcases List.append_inj afterType rfl with ⟨sameClass, sameRest⟩
  cases first
  cases second
  cases sameLabels
  cases u16ToBeBytes_injective sameType
  cases u16ToBeBytes_injective sameClass
  exact ⟨rfl, sameRest⟩

/-- A count in the header determines the length of its section. -/
theorem length_eq_of_count {first second : List Record} (firstShort : first.length < 65536)
    (secondShort : second.length < 65536)
    (eq : u16ToBeBytes (UInt16.ofNat first.length) = u16ToBeBytes (UInt16.ofNat second.length)) :
    first.length = second.length := by
  have counts := congrArg UInt16.toNat (u16ToBeBytes_injective eq)
  rwa [UInt16.toNat_ofNat', UInt16.toNat_ofNat', Nat.mod_eq_of_lt firstShort,
    Nat.mod_eq_of_lt secondShort] at counts

/-- Different messages have different octets. -/
theorem Message.encode_injective : Function.Injective Message.encode := by
  intro first second eq
  rcases List.append_inj eq rfl with ⟨headers, bodies⟩
  rcases List.append_inj headers rfl with ⟨headers, additionalCount⟩
  rcases List.append_inj headers rfl with ⟨headers, authorityCount⟩
  rcases List.append_inj headers rfl with ⟨headers, answersCount⟩
  rcases List.append_inj headers rfl with ⟨headers, _⟩
  rcases List.append_inj headers rfl with ⟨sameTxid, sameFlags⟩
  have answersLength := length_eq_of_count first.answers_short second.answers_short answersCount
  have authorityLength :=
    length_eq_of_count first.authority_short second.authority_short authorityCount
  have additionalLength :=
    length_eq_of_count first.additional_short second.additional_short additionalCount
  rcases Question.encode_append_inj bodies with ⟨sameQuestion, records⟩
  have sameCount : first.records.length = second.records.length := by
    simp only [Message.records, List.length_append, answersLength, authorityLength,
      additionalLength]
  have padded : encodeRecords first.records ++ [] = encodeRecords second.records ++ [] := by
    rw [records]
  have sameRecords := (encodeRecords_append_inj sameCount padded).1
  rcases List.append_inj' sameRecords additionalLength with ⟨front, sameAdditional⟩
  rcases List.append_inj' front authorityLength with ⟨sameAnswers, sameAuthority⟩
  cases first
  cases second
  cases u16ToBeBytes_injective sameTxid
  cases sameFlags
  cases sameQuestion
  cases sameAnswers
  cases sameAuthority
  cases sameAdditional
  rfl

end DnsHijacker.Wire
