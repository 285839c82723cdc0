import DnsHijacker.Wire.Message

/-!
# What a message says

A whole message is read into its questions and records, with the names inside the data of records
too.  A name is written partly at its own place; where it is continued elsewhere, the relations
take what the pointer has to lead to as a parameter.  So the octets at the places of the names and
the octets behind their pointers can be spoken of separately, which is what a program does that
moves a section without looking at the pointers in it.
-/

namespace DnsHijacker.Wire

open DnsHijacker.Rust

/-! ## Names -/

/-- The name that is written at an offset, however it is compressed. -/
def Spelled (message : Bytes) (offset : Nat) (labels : List Label) : Prop :=
  ∃ runs stop, NameAt message offset runs stop ∧ runs.flatten = labels

/-- A name at its own place; a pointer leads to what continues it. -/
inductive NameVia (message : Bytes) (Continues : Nat → List Label → Prop) :
    Nat → List Label → Nat → Prop where
  | root {offset : Nat} (here : Occurs message offset [0]) :
      NameVia message Continues offset [] (offset + 1)
  | label {offset stop : Nat} {label : Label} {labels : List Label}
      (here : Occurs message offset label.encode)
      (rest : NameVia message Continues (offset + label.encode.length) labels stop) :
      NameVia message Continues offset (label :: labels) stop
  | pointer {offset target : Nat} {labels : List Label}
      (here : Occurs message offset (pointerBytes target)) (small : target < 0x4000)
      (continued : Continues target labels) :
      NameVia message Continues offset labels (offset + 2)

variable {message : Bytes} {Continues Other : Nat → List Label → Prop}

theorem NameVia.mono (weaker : ∀ target labels, Continues target labels → Other target labels)
    {offset stop : Nat} {labels : List Label} (name : NameVia message Continues offset labels stop) :
    NameVia message Other offset labels stop := by
  induction name with
  | root here => exact .root here
  | label here _ ih => exact .label here ih
  | pointer here small continued => exact .pointer here small (weaker _ _ continued)

/-- A name lies at its place as some form. -/
theorem NameVia.exists_form {offset stop : Nat} {labels : List Label}
    (name : NameVia message Continues offset labels stop) :
    ∃ form : NameForm, Occurs message offset form.encode ∧ stop = offset + form.encode.length := by
  induction name with
  | root here => exact ⟨.root, here, rfl⟩
  | pointer here small _ => exact ⟨⟨[], some ⟨_, small⟩⟩, here, rfl⟩
  | @label _ _ label _ here _ ih =>
      obtain ⟨⟨written, target⟩, rest, rfl⟩ := ih
      refine ⟨⟨label :: written, target⟩, ?_, ?_⟩
      · rw [NameForm.encode_cons, occurs_append]
        exact ⟨here, rest⟩
      · rw [NameForm.encode_cons, List.length_append, Nat.add_assoc]

theorem NameVia.lt {offset stop : Nat} {labels : List Label}
    (name : NameVia message Continues offset labels stop) : offset < stop := by
  obtain ⟨form, _, rfl⟩ := name.exists_form
  have positive := List.length_pos_of_ne_nil form.encode_ne_nil
  omega

/-- What stands at one place has a common continuation. -/
theorem exists_append_eq {offset : Nat} {first second : Bytes}
    (firstHere : Occurs message offset first) (secondHere : Occurs message offset second) :
    ∃ rest other, first ++ rest = second ++ other := by
  obtain ⟨rest, whole⟩ := firstHere
  obtain ⟨other, same⟩ := secondHere
  exact ⟨rest, other, whole.trans same.symm⟩

/-- The octets at a place are one form of a name at most. -/
theorem form_unique {offset : Nat} {first second : NameForm}
    (firstHere : Occurs message offset first.encode)
    (secondHere : Occurs message offset second.encode) : first = second := by
  obtain ⟨rest, other, same⟩ := exists_append_eq firstHere secondHere
  exact (NameForm.encode_append_inj same).1

/-- The octets at a place end a name in one way at most. -/
theorem ending_unique {offset : Nat} {first second : Option (Fin 0x4000)}
    (firstHere : Occurs message offset (NameForm.ending first))
    (secondHere : Occurs message offset (NameForm.ending second)) : first = second := by
  obtain ⟨_, _, same⟩ := exists_append_eq firstHere secondHere
  exact (NameForm.ending_append_inj same).1

theorem not_pointer_of_root {offset target : Nat} (root : Occurs message offset [0])
    (small : target < 0x4000) : ¬ Occurs message offset (pointerBytes target) := by
  intro pointer
  have same : (none : Option (Fin 0x4000)) = some ⟨target, small⟩ := ending_unique root pointer
  contradiction

theorem pointer_unique {offset target other : Nat}
    (first : Occurs message offset (pointerBytes target)) (small : target < 0x4000)
    (second : Occurs message offset (pointerBytes other)) (otherSmall : other < 0x4000) :
    target = other := by
  have same : some (⟨target, small⟩ : Fin 0x4000) = some ⟨other, otherSmall⟩ :=
    ending_unique first second
  exact Fin.mk.inj (Option.some.inj same)

/-- No name ends where a label begins. -/
theorem not_ending_of_label {offset : Nat} {label : Label}
    (here : Occurs message offset label.encode) (target : Option (Fin 0x4000)) :
    ¬ Occurs message offset (NameForm.ending target) := by
  intro there
  obtain ⟨_, _, same⟩ := exists_append_eq here there
  exact Label.encode_append_ne_ending label target _ _ same

/-- Where a name ends does not depend on what its pointer leads to. -/
theorem NameVia.stop_unique {offset stop last : Nat} {labels others : List Label}
    (first : NameVia message Continues offset labels stop)
    (second : NameVia message Other offset others last) : stop = last := by
  obtain ⟨form, here, rfl⟩ := first.exists_form
  obtain ⟨again, there, rfl⟩ := second.exists_form
  rw [form_unique here there]

/-- A name is read in one way. -/
theorem NameAt.unique {offset stop last : Nat} {runs others : List (List Label)}
    (first : NameAt message offset runs stop) (second : NameAt message offset others last) :
    runs = others ∧ stop = last := by
  induction first generalizing others last with
  | root here =>
      cases second with
      | root _ => exact ⟨rfl, rfl⟩
      | label there _ => exact absurd here (not_ending_of_label there none)
      | pointer there small _ => exact absurd there (not_pointer_of_root here small)
  | label here _ ih =>
      cases second with
      | root there => exact absurd there (not_ending_of_label here none)
      | label there rest =>
          obtain ⟨_, _, same⟩ := exists_append_eq here there
          obtain ⟨rfl, _⟩ := Label.encode_append_inj same
          obtain ⟨runsEq, stopEq⟩ := ih rest
          cases runsEq
          exact ⟨rfl, stopEq⟩
      | pointer there small _ =>
          exact absurd there (not_ending_of_label here (some ⟨_, small⟩))
  | pointer here small _ ih =>
      cases second with
      | root there => exact absurd here (not_pointer_of_root there small)
      | label there _ => exact absurd here (not_ending_of_label there (some ⟨_, small⟩))
      | pointer there otherSmall rest =>
          cases pointer_unique here small there otherSmall
          obtain ⟨rfl, _⟩ := ih rest
          exact ⟨rfl, rfl⟩

theorem Spelled.unique {offset : Nat} {labels others : List Label}
    (first : Spelled message offset labels) (second : Spelled message offset others) :
    labels = others := by
  obtain ⟨runs, stop, name, rfl⟩ := first
  obtain ⟨again, last, other, rfl⟩ := second
  rw [(name.unique other).1]

/-- A name whose pointer leads to the rest of it is spelled at its place. -/
theorem NameVia.spelled {offset stop : Nat} {labels : List Label}
    (name : NameVia message (Spelled message) offset labels stop) :
    Spelled message offset labels := by
  suffices general : ∃ runs, NameAt message offset runs stop ∧ runs.flatten = labels by
    obtain ⟨runs, nameAt, flat⟩ := general
    exact ⟨runs, stop, nameAt, flat⟩
  induction name with
  | root here => exact ⟨[[]], .root here, rfl⟩
  | label here _ ih =>
      obtain ⟨runs, nameAt, rfl⟩ := ih
      cases runs with
      | nil => exact absurd rfl nameAt.runs_ne_nil
      | cons run runs => exact ⟨(_ :: run) :: runs, .label here nameAt, rfl⟩
  | pointer here small continued =>
      obtain ⟨runs, stop, nameAt, rfl⟩ := continued
      exact ⟨[] :: runs, .pointer here small nameAt, rfl⟩

/-- Where there is a pointer, it leads to the whole name. -/
theorem NameVia.continues {offset stop target : Nat} {labels : List Label}
    (name : NameVia message Continues offset labels stop)
    (here : Occurs message offset (pointerBytes target)) (small : target < 0x4000) :
    Continues target labels := by
  cases name with
  | root there => exact absurd here (not_pointer_of_root there small)
  | label there _ => exact absurd here (not_ending_of_label there (some ⟨_, small⟩))
  | pointer there otherSmall continued =>
      cases pointer_unique there otherSmall here small
      exact continued

/-! ## Questions -/

structure DecodedQuestion where
  name : List Label
  qtype : UInt16
  qclass : UInt16
  deriving DecidableEq

/-- The four octets behind the name of a question. -/
def DecodedQuestion.fixed (question : DecodedQuestion) : Bytes :=
  u16ToBeBytes question.qtype ++ u16ToBeBytes question.qclass

@[simp]
theorem DecodedQuestion.length_fixed (question : DecodedQuestion) : question.fixed.length = 4 :=
  rfl

/-- Questions that follow one another, and the offset just past them. -/
inductive QuestionsVia (message : Bytes) (Continues : Nat → List Label → Prop) :
    Nat → List DecodedQuestion → Nat → Prop where
  | done {offset : Nat} : QuestionsVia message Continues offset [] offset
  | question {offset nameEnd stop : Nat} {question : DecodedQuestion}
      {questions : List DecodedQuestion}
      (name : NameVia message Continues offset question.name nameEnd)
      (fixed : Occurs message nameEnd question.fixed)
      (rest : QuestionsVia message Continues (nameEnd + 4) questions stop) :
      QuestionsVia message Continues offset (question :: questions) stop

theorem QuestionsVia.mono (weaker : ∀ target labels, Continues target labels → Other target labels)
    {offset stop : Nat} {questions : List DecodedQuestion}
    (sectionVia : QuestionsVia message Continues offset questions stop) :
    QuestionsVia message Other offset questions stop := by
  induction sectionVia with
  | done => exact .done
  | question name fixed _ ih => exact .question (name.mono weaker) fixed ih

theorem QuestionsVia.le {offset stop : Nat} {questions : List DecodedQuestion}
    (sectionVia : QuestionsVia message Continues offset questions stop) : offset ≤ stop := by
  induction sectionVia with
  | done => exact Nat.le_refl _
  | question name _ _ ih =>
      have later := name.lt
      omega

theorem QuestionsVia.stop_unique {offset stop last : Nat} {questions others : List DecodedQuestion}
    (first : QuestionsVia message Continues offset questions stop)
    (second : QuestionsVia message Other offset others last)
    (count : questions.length = others.length) : stop = last := by
  induction first generalizing others last with
  | done =>
      cases second with
      | done => rfl
      | question => contradiction
  | question name _ _ ih =>
      cases second with
      | done => contradiction
      | question other _ rest =>
          cases name.stop_unique other
          exact ih rest (Nat.succ.inj count)

/-! ## Records -/

/-- What the data of a record is made of, up to octets that are taken as they are. -/
inductive RdataField where
  | octets (count : Nat)
  | name
  deriving DecidableEq

/-- The data of the types whose names may be compressed. -/
def rdataFields (rtype : UInt16) : List RdataField :=
  match rtype.toNat with
  | 2 | 3 | 4 | 5 | 7 | 8 | 9 | 12 => [.name]
  | 6 | 14 => [.name, .name]
  | 15 => [.octets 2, .name]
  | _ => []

inductive RdataPart where
  | octets (bytes : Bytes)
  | name (labels : List Label)
  deriving DecidableEq

/-- The data of a record between two offsets. -/
inductive RdataVia (message : Bytes) (Continues : Nat → List Label → Prop) :
    List RdataField → Nat → List RdataPart → Nat → Prop where
  | rest {offset : Nat} {bytes : Bytes} (here : Occurs message offset bytes) :
      RdataVia message Continues [] offset [.octets bytes] (offset + bytes.length)
  | octets {offset stop : Nat} {bytes : Bytes} {fields : List RdataField} {parts : List RdataPart}
      (here : Occurs message offset bytes)
      (rest : RdataVia message Continues fields (offset + bytes.length) parts stop) :
      RdataVia message Continues (.octets bytes.length :: fields) offset (.octets bytes :: parts) stop
  | name {offset next stop : Nat} {labels : List Label} {fields : List RdataField}
      {parts : List RdataPart} (name : NameVia message Continues offset labels next)
      (rest : RdataVia message Continues fields next parts stop) :
      RdataVia message Continues (.name :: fields) offset (.name labels :: parts) stop

structure DecodedRecord where
  owner : List Label
  rtype : UInt16
  rclass : UInt16
  ttl : UInt32
  rdata : List RdataPart
  deriving DecidableEq

/-- The ten octets between the name and the data of a record. -/
def DecodedRecord.fixed (record : DecodedRecord) (rdlength : UInt16) : Bytes :=
  u16ToBeBytes record.rtype ++ u16ToBeBytes record.rclass ++ u32ToBeBytes record.ttl ++
    u16ToBeBytes rdlength

@[simp]
theorem DecodedRecord.length_fixed (record : DecodedRecord) (rdlength : UInt16) :
    (record.fixed rdlength).length = 10 :=
  rfl

/-- Records that follow one another, and the offset just past them. -/
inductive RecordsVia (message : Bytes) (Continues : Nat → List Label → Prop) :
    Nat → List DecodedRecord → Nat → Prop where
  | done {offset : Nat} : RecordsVia message Continues offset [] offset
  | record {offset nameEnd stop : Nat} {record : DecodedRecord} {records : List DecodedRecord}
      {rdlength : UInt16} (owner : NameVia message Continues offset record.owner nameEnd)
      (fixed : Occurs message nameEnd (record.fixed rdlength))
      (inside : nameEnd + 10 + rdlength.toNat ≤ message.length)
      (rdata : RdataVia message Continues (rdataFields record.rtype) (nameEnd + 10) record.rdata
        (nameEnd + 10 + rdlength.toNat))
      (rest : RecordsVia message Continues (nameEnd + 10 + rdlength.toNat) records stop) :
      RecordsVia message Continues offset (record :: records) stop

theorem RdataVia.mono (weaker : ∀ target labels, Continues target labels → Other target labels)
    {fields : List RdataField} {offset stop : Nat} {parts : List RdataPart}
    (rdata : RdataVia message Continues fields offset parts stop) :
    RdataVia message Other fields offset parts stop := by
  induction rdata with
  | rest here => exact .rest here
  | octets here _ ih => exact .octets here ih
  | name name _ ih => exact .name (name.mono weaker) ih

theorem RdataVia.le {fields : List RdataField} {offset stop : Nat} {parts : List RdataPart}
    (rdata : RdataVia message Continues fields offset parts stop) : offset ≤ stop := by
  induction rdata with
  | rest => exact Nat.le_add_right _ _
  | octets _ _ ih => omega
  | name name _ ih =>
      have later := name.lt
      omega

theorem RecordsVia.mono (weaker : ∀ target labels, Continues target labels → Other target labels)
    {offset stop : Nat} {records : List DecodedRecord}
    (sectionVia : RecordsVia message Continues offset records stop) :
    RecordsVia message Other offset records stop := by
  induction sectionVia with
  | done => exact .done
  | record owner fixed inside rdata _ ih =>
      exact .record (owner.mono weaker) fixed inside (rdata.mono weaker) ih

theorem RecordsVia.le {offset stop : Nat} {records : List DecodedRecord}
    (sectionVia : RecordsVia message Continues offset records stop) : offset ≤ stop := by
  induction sectionVia with
  | done => exact Nat.le_refl _
  | record owner _ _ _ _ ih =>
      have later := owner.lt
      omega

/-- The last octets of the fixed part are the length of the data. -/
theorem DecodedRecord.rdlength_unique {offset : Nat} {first second : DecodedRecord}
    {rdlength other : UInt16} (here : Occurs message offset (first.fixed rdlength))
    (there : Occurs message offset (second.fixed other)) : rdlength = other := by
  obtain ⟨_, _, same⟩ := exists_append_eq here there
  have fixed := (List.append_inj same rfl).1
  exact u16ToBeBytes_injective (List.append_inj fixed rfl).2

theorem RecordsVia.stop_unique {offset stop last : Nat} {records others : List DecodedRecord}
    (first : RecordsVia message Continues offset records stop)
    (second : RecordsVia message Other offset others last)
    (count : records.length = others.length) : stop = last := by
  induction first generalizing others last with
  | done =>
      cases second with
      | done => rfl
      | record => contradiction
  | record owner fixed _ _ _ ih =>
      cases second with
      | done => contradiction
      | record other otherFixed _ _ rest =>
          cases owner.stop_unique other
          cases DecodedRecord.rdlength_unique fixed otherFixed
          exact ih rest (Nat.succ.inj count)

/-- Sections that follow one another are one. -/
theorem RecordsVia.append {offset middle stop : Nat} {first second : List DecodedRecord}
    (front : RecordsVia message Continues offset first middle)
    (back : RecordsVia message Continues middle second stop) :
    RecordsVia message Continues offset (first ++ second) stop := by
  induction front with
  | done => exact back
  | record owner fixed inside rdata _ ih => exact .record owner fixed inside rdata (ih back)

/-! ## Messages -/

structure DecodedMessage where
  questions : List DecodedQuestion
  answers : List DecodedRecord
  authority : List DecodedRecord
  additional : List DecodedRecord

/-- The four counts of the header. -/
def DecodedMessage.counts (decoded : DecodedMessage) : Bytes :=
  u16ToBeBytes (UInt16.ofNat decoded.questions.length) ++
    u16ToBeBytes (UInt16.ofNat decoded.answers.length) ++
    u16ToBeBytes (UInt16.ofNat decoded.authority.length) ++
    u16ToBeBytes (UInt16.ofNat decoded.additional.length)

/-- The records behind the answers. -/
def DecodedMessage.later (decoded : DecodedMessage) : List DecodedRecord :=
  decoded.authority ++ decoded.additional

/-- A well-formed message, what it says, and the offsets just past its questions and its answers:
every name in it is spelled, and nothing stands behind its last record. -/
structure Decodes (message : Bytes) (decoded : DecodedMessage) (questionEnd answersEnd : Nat) :
    Prop where
  questions_short : decoded.questions.length < 65536
  answers_short : decoded.answers.length < 65536
  authority_short : decoded.authority.length < 65536
  additional_short : decoded.additional.length < 65536
  counts : Occurs message 4 decoded.counts
  questions : QuestionsVia message (Spelled message) 12 decoded.questions questionEnd
  answers : RecordsVia message (Spelled message) questionEnd decoded.answers answersEnd
  later : RecordsVia message (Spelled message) answersEnd decoded.later message.length

end DnsHijacker.Wire
