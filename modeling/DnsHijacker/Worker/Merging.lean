import DnsHijacker.Wire.Relocation
import DnsHijacker.Worker.Termination

/-!
# Merging answers

`rewriteAnswersWithIps` cuts the answer section out of a reply and puts records for the addresses
in its place.  What stands behind it moves, but the pointers in it stay as they are, and they hold
absolute offsets.  So a name that is continued inside the question section is kept, and one that
is continued in the answers, or behind them, is continued by whatever comes to stand there.
-/

namespace DnsHijacker.Worker

open DnsHijacker.Rust
open DnsHijacker.Wire

/-! ## Walking over sections -/

variable {packet : Bytes} {Continues : Nat → List Label → Prop} {budget : Nat}

theorem skipName_nameVia {offset stop : Nat} {labels : List Label}
    (name : NameVia packet Continues offset labels stop) (enough : packet.length < budget) :
    skipName packet budget (some offset) = .ok stop := by
  obtain ⟨form, here, rfl⟩ := name.exists_form
  rw [skipName_eq (by omega), Shared.Dns.skipName_form here]
  rfl

theorem getUint16_of_occurs {offset : Nat} {value : UInt16}
    (here : Occurs packet offset (u16ToBeBytes value)) : getUint16 packet offset = .ok value.toNat := by
  rw [u16ToBeBytes, occurs_cons, occurs_cons] at here
  obtain ⟨high, low, _⟩ := here
  have bound := value.toNat_lt
  rw [getUint16, high, low]
  simp only [UInt8.toNat_ofNat']
  congr 1
  omega

theorem skipQuestions_via {offset stop : Nat} {questions : List DecodedQuestion}
    (sectionVia : QuestionsVia packet Continues offset questions stop)
    (enough : packet.length < budget) :
    skipQuestions budget packet questions.length offset = .ok stop := by
  induction sectionVia with
  | done => rfl
  | question name _ _ ih =>
      rw [List.length_cons, skipQuestions, skipName_nameVia name enough]
      exact ih

/-- The length of the data of a record. -/
theorem occurs_rdlength {offset : Nat} {record : DecodedRecord} {rdlength : UInt16}
    (fixed : Occurs packet offset (record.fixed rdlength)) :
    Occurs packet (offset + 8) (u16ToBeBytes rdlength) :=
  (occurs_append.mp fixed).2

theorem skipAnswers_via {offset stop : Nat} {records : List DecodedRecord}
    (sectionVia : RecordsVia packet Continues offset records stop)
    (enough : packet.length < budget) :
    skipAnswers budget packet records.length offset = .ok stop := by
  induction sectionVia with
  | done => rfl
  | record owner fixed _ _ _ ih =>
      rw [List.length_cons, skipAnswers, skipName_nameVia owner enough]
      simp only [bind, Except.bind, getUint16_of_occurs (occurs_rdlength fixed)]
      rw [← Nat.add_assoc]
      exact ih

/-! ## Addresses -/

/-- The text the script keeps of an address. -/
theorem numberOctet_toDigits (octet : UInt8) : numberOctet (Nat.toDigits 10 octet.toNat) = octet := by
  have table : ∀ code : Fin 256, numberOctet (Nat.toDigits 10 code) = UInt8.ofNat code := by
    decide +kernel
  have here := table ⟨octet.toNat, octet.toNat_lt⟩
  rwa [UInt8.ofNat_toNat] at here

/-- Decimal digits have no dots. -/
theorem dot_not_mem_toDigits (octet : UInt8) : '.' ∉ Nat.toDigits 10 octet.toNat := by
  have table : ∀ code : Fin 256, '.' ∉ Nat.toDigits 10 code.val := by decide +kernel
  exact table ⟨octet.toNat, octet.toNat_lt⟩

/-- The octets of a record of the new answer section. -/
def answerRecord (ip : Ipv4Addr) : Bytes :=
  recordStart ++ ip.octets

theorem buildARecord_toText (ip : Ipv4Addr) : buildARecord ip.toText = .ok (answerRecord ip) := by
  have parts : ip.toText.splitOn '.' = ip.octets.map fun octet => Nat.toDigits 10 octet.toNat := by
    apply List.splitOn_intercalate '.'
    · intro part mem
      obtain ⟨octet, _, rfl⟩ := List.mem_map.mp mem
      exact dot_not_mem_toDigits octet
    · simp [Ipv4Addr.octets]
  have octets : (ip.octets.map fun octet => Nat.toDigits 10 octet.toNat).map numberOctet =
      ip.octets := by
    rw [List.map_map]
    exact (List.map_congr_left fun octet _ => numberOctet_toDigits octet).trans (List.map_id _)
  have four : ¬ ip.octets.length > 4 := by
    rw [ip.length_octets]
    decide
  rw [buildARecord, parts, octets, if_neg four, ip.length_octets, Nat.sub_self, List.replicate_zero, List.append_nil]
  rfl

theorem buildARecords_toText (ips : List Ipv4Addr) :
    buildARecords (ips.map Ipv4Addr.toText) = .ok (ips.flatMap answerRecord) := by
  induction ips with
  | nil => rfl
  | cons ip ips ih =>
      rw [List.map_cons, buildARecords, buildARecord_toText, ih]
      rfl

/-- Different addresses have different texts. -/
theorem toText_injective : Function.Injective Ipv4Addr.toText := by
  intro first second same
  have built := buildARecord_toText first
  rw [same, buildARecord_toText, Except.ok.injEq, answerRecord, answerRecord,
    List.append_cancel_left_eq] at built
  cases first
  cases second
  simpa [Ipv4Addr.octets, eq_comm] using built

theorem toText_eq (ip : Ipv4Addr) :
    ip.toText = octetText (some ip.a) ++ '.' :: (octetText (some ip.b) ++
      '.' :: (octetText (some ip.c) ++ '.' :: octetText (some ip.d))) := by
  rw [Ipv4Addr.toText, Ipv4Addr.octets, octetText_some, octetText_some, octetText_some,
    octetText_some]
  simp only [List.map_cons, List.map_nil, List.intercalate_cons_cons, List.intercalate_singleton,
    List.append_assoc, List.singleton_append]

theorem ipText_of_occurs {offset : Nat} {ip : Ipv4Addr} (here : Occurs packet offset ip.octets) :
    ipText packet offset = ip.toText := by
  rw [Ipv4Addr.octets, occurs_cons, occurs_cons, occurs_cons, occurs_cons] at here
  rw [toText_eq, ipText, here.1, here.2.1, here.2.2.1, here.2.2.2.1]

/-! ## The new answer section -/

/-- What a new record says. -/
def answerOf (qname : List Label) (ip : Ipv4Addr) : DecodedRecord where
  owner := qname
  rtype := 1
  rclass := 1
  ttl := 60
  rdata := [.octets ip.octets]

/-- A new record is a pointer to the first question, the fixed part and the address. -/
theorem answerRecord_eq (qname : List Label) (ip : Ipv4Addr) :
    answerRecord ip = pointerBytes 12 ++ ((answerOf qname ip).fixed 4 ++ ip.octets) := by
  have start : recordStart = pointerBytes 12 ++
      (u16ToBeBytes 1 ++ u16ToBeBytes 1 ++ u32ToBeBytes 60 ++ u16ToBeBytes 4) := by decide
  rw [answerRecord, start, List.append_assoc]
  rfl

theorem length_answerRecord (ip : Ipv4Addr) : (answerRecord ip).length = 16 :=
  rfl

theorem length_flatMap_answerRecord (ips : List Ipv4Addr) :
    (ips.flatMap answerRecord).length = 16 * ips.length := by
  induction ips with
  | nil => rfl
  | cons ip ips ih =>
      rw [List.flatMap_cons, List.length_append, ih, length_answerRecord, List.length_cons]
      omega

theorem occurs_answerRecord {offset : Nat} (qname : List Label) {ip : Ipv4Addr}
    (here : Occurs packet offset (answerRecord ip)) :
    Occurs packet offset (pointerBytes 12) ∧
      Occurs packet (offset + 2) ((answerOf qname ip).fixed 4) ∧
        Occurs packet (offset + 2 + 10) ip.octets := by
  rw [answerRecord_eq qname, occurs_append, occurs_append] at here
  exact here

/-- If the pointer of the new records leads to a name, they are records with that name. -/
theorem recordsVia_answers {qname : List Label} (continued : Continues 12 qname) {offset : Nat}
    {ips : List Ipv4Addr} (here : Occurs packet offset (ips.flatMap answerRecord)) :
    RecordsVia packet Continues offset (ips.map (answerOf qname)) (offset + 16 * ips.length) := by
  induction ips generalizing offset with
  | nil => exact .done
  | cons ip ips ih =>
      rw [List.flatMap_cons, occurs_append] at here
      obtain ⟨pointer, fixed, data⟩ := occurs_answerRecord qname here.1
      have inside : offset + 2 + 10 + 4 ≤ packet.length :=
        data.add_length_le (by simp [Ipv4Addr.octets])
      have rest := ih here.2
      rw [length_answerRecord] at rest
      have stop : offset + 16 * (ip :: ips).length = offset + 16 + 16 * ips.length := by
        rw [List.length_cons]
        omega
      rw [List.map_cons, stop]
      have owner : NameVia packet Continues offset qname (offset + 2) :=
        .pointer pointer (by decide) continued
      exact .record owner fixed inside (.rest data) rest

/-- The script reads the addresses back. -/
theorem extractFrom_answers {offset : Nat} {ips : List Ipv4Addr}
    (here : Occurs packet offset (ips.flatMap answerRecord)) (enough : packet.length < budget) :
    extractFrom budget packet ips.length offset = .ok (ips.map Ipv4Addr.toText) := by
  induction ips generalizing offset with
  | nil => rfl
  | cons ip ips ih =>
      rw [List.flatMap_cons, occurs_append] at here
      obtain ⟨pointer, fixed, data⟩ := occurs_answerRecord [] here.1
      have owner : NameVia packet (fun _ _ => True) offset [] (offset + 2) :=
        .pointer pointer (by decide) trivial
      have rtype : Occurs packet (offset + 2) (u16ToBeBytes 1) := by
        have front := (occurs_append.mp (occurs_append.mp (occurs_append.mp fixed).1).1).1
        exact front
      have rest := ih here.2
      rw [length_answerRecord] at rest
      rw [List.length_cons, extractFrom, skipName_nameVia owner enough]
      simp only [bind, Except.bind, getUint16_of_occurs rtype,
        getUint16_of_occurs (occurs_rdlength fixed), pure, Except.pure]
      rw [if_pos ⟨rfl, rfl⟩, ipText_of_occurs data]
      have place : offset + 2 + 10 + (4 : UInt16).toNat = offset + 16 := rfl
      rw [place, rest]
      rfl

/-! ## The merged message -/

/-- The template up to the end of its questions, with another number of answers. -/
def mergedFront (template : Bytes) (questionEnd count : Nat) : Bytes :=
  template.take 6 ++ (u16ToBeBytes (UInt16.ofNat count) ++ slice template 8 questionEnd)

/-- The template with another answer section. -/
def merged (template : Bytes) (questionEnd answersEnd : Nat) (ips : List Ipv4Addr) : Bytes :=
  mergedFront template questionEnd ips.length ++
    (ips.flatMap answerRecord ++ template.drop answersEnd)

variable {template : Bytes} {decoded : DecodedMessage} {questionEnd answersEnd : Nat}

theorem bounds_of_decodes (wellFormed : Decodes template decoded questionEnd answersEnd) :
    12 ≤ questionEnd ∧ questionEnd ≤ answersEnd ∧ answersEnd ≤ template.length :=
  ⟨wellFormed.questions.le, wellFormed.answers.le, wellFormed.later.le⟩

theorem length_mergedFront (header : 12 ≤ questionEnd) (inside : questionEnd ≤ template.length)
    (count : Nat) : (mergedFront template questionEnd count).length = questionEnd := by
  rw [mergedFront, slice, List.length_append, List.length_append, List.length_drop,
    List.length_take_of_le (by omega), List.length_take_of_le inside, length_u16ToBeBytes]
  omega

/-- Up to the end of the questions only the number of answers changes. -/
theorem getElem?_merged_of_lt (header : 12 ≤ questionEnd) (ips : List Ipv4Addr) {i : Nat}
    (below : i < questionEnd) (inside : i < template.length) (high : i ≠ 6) (low : i ≠ 7) :
    (merged template questionEnd answersEnd ips)[i]? = template[i]? := by
  rw [merged, mergedFront]
  by_cases early : i < 6
  · rw [List.append_assoc, List.getElem?_append_left (by rw [List.length_take]; omega),
      List.getElem?_take_of_lt early]
  · have six : (template.take 6).length = 6 := List.length_take_of_le (by omega)
    have behind : i - 6 - 2 < (slice template 8 questionEnd).length := by
      rw [slice, List.length_drop, List.length_take]
      omega
    rw [List.append_assoc, List.append_assoc, List.getElem?_append_right (by omega), six,
      List.getElem?_append_right (by rw [length_u16ToBeBytes]; omega), length_u16ToBeBytes,
      List.getElem?_append_left behind, slice, List.getElem?_drop,
      List.getElem?_take_of_lt (by omega)]
    congr 1
    omega

/-- The number of answers that is written. -/
theorem occurs_count_merged (long : 6 ≤ template.length) (ips : List Ipv4Addr) :
    Occurs (merged template questionEnd answersEnd ips) 6
      (u16ToBeBytes (UInt16.ofNat ips.length)) := by
  have six : (template.take 6).length = 6 := List.length_take_of_le long
  have whole : merged template questionEnd answersEnd ips = template.take 6 ++
      (u16ToBeBytes (UInt16.ofNat ips.length) ++ (slice template 8 questionEnd ++
        (ips.flatMap answerRecord ++ template.drop answersEnd))) := by
    rw [merged, mergedFront, List.append_assoc, List.append_assoc]
  have here := (occurs_append.mp (whole ▸ occurs_self (merged template questionEnd answersEnd ips))).2
  rw [six, Nat.zero_add, ← whole] at here
  exact (occurs_append.mp here).1

theorem occurs_records_merged (header : 12 ≤ questionEnd) (inside : questionEnd ≤ template.length)
    (ips : List Ipv4Addr) :
    Occurs (merged template questionEnd answersEnd ips) questionEnd (ips.flatMap answerRecord) := by
  have whole := (occurs_append.mp (occurs_self (merged template questionEnd answersEnd ips))).2
  rw [length_mergedFront header inside, Nat.zero_add] at whole
  exact (occurs_append.mp whole).1

theorem getElem?_merged (wellFormed : Decodes template decoded questionEnd answersEnd)
    (ips : List Ipv4Addr) {i : Nat} (below : i < questionEnd) (high : i ≠ 6) (low : i ≠ 7) :
    (merged template questionEnd answersEnd ips)[i]? = template[i]? := by
  obtain ⟨header, inside, inside'⟩ := bounds_of_decodes wellFormed
  exact getElem?_merged_of_lt header ips below (by omega) high low

theorem occurs_answers_merged (wellFormed : Decodes template decoded questionEnd answersEnd)
    (ips : List Ipv4Addr) :
    Occurs (merged template questionEnd answersEnd ips) questionEnd (ips.flatMap answerRecord) := by
  obtain ⟨header, inside, inside'⟩ := bounds_of_decodes wellFormed
  exact occurs_records_merged header (inside.trans inside') ips

/-- The octets behind the answers come to stand behind the new ones. -/
theorem drop_merged (wellFormed : Decodes template decoded questionEnd answersEnd)
    (ips : List Ipv4Addr) :
    (merged template questionEnd answersEnd ips).drop (questionEnd + 16 * ips.length) =
      template.drop answersEnd := by
  obtain ⟨header, inside, inside'⟩ := bounds_of_decodes wellFormed
  have front := length_mergedFront header (inside.trans inside') ips.length
  rw [merged, ← List.append_assoc]
  apply List.drop_left'
  rw [List.length_append, front, length_flatMap_answerRecord]

theorem length_merged (wellFormed : Decodes template decoded questionEnd answersEnd)
    (ips : List Ipv4Addr) :
    (merged template questionEnd answersEnd ips).length =
      questionEnd + 16 * ips.length + (template.length - answersEnd) := by
  obtain ⟨header, inside, inside'⟩ := bounds_of_decodes wellFormed
  rw [merged, List.length_append, List.length_append, List.length_drop,
    length_mergedFront header (inside.trans inside'), length_flatMap_answerRecord, Nat.add_assoc]

/-- The questions stay where they are. -/
theorem moves_questions (wellFormed : Decodes template decoded questionEnd answersEnd)
    (ips : List Ipv4Addr) :
    Moves template (merged template questionEnd answersEnd ips) 0 0 12 questionEnd := by
  intro i above below
  rw [Nat.zero_add]
  exact getElem?_merged wellFormed ips below (by omega) (by omega)

/-- What stands behind the answers moves with them. -/
theorem moves_later (wellFormed : Decodes template decoded questionEnd answersEnd)
    (ips : List Ipv4Addr) :
    Moves template (merged template questionEnd answersEnd ips) answersEnd
      (questionEnd + 16 * ips.length) 0 (template.length - answersEnd) := by
  intro i _ _
  rw [← List.getElem?_drop, ← List.getElem?_drop, drop_merged wellFormed]

/-- The counts of the merged message. -/
theorem occurs_counts_merged (wellFormed : Decodes template decoded questionEnd answersEnd)
    {answers : List DecodedRecord} {ips : List Ipv4Addr} (count : answers.length = ips.length) :
    Occurs (merged template questionEnd answersEnd ips) 4 { decoded with answers }.counts := by
  obtain ⟨header, inside, inside'⟩ := bounds_of_decodes wellFormed
  have counts := wellFormed.counts
  rw [DecodedMessage.counts] at counts ⊢
  simp only [List.append_assoc, occurs_append, length_u16ToBeBytes] at counts ⊢
  obtain ⟨questions, _, authority, additional⟩ := counts
  have kept : ∀ offset (value : UInt16), offset + 2 ≤ 12 → offset + 1 < 6 ∨ 7 < offset →
      Occurs template offset (u16ToBeBytes value) →
        Occurs (merged template questionEnd answersEnd ips) offset (u16ToBeBytes value) := by
    intro offset value below away here
    apply occurs_of_getElem? _ here
    intro i small
    rw [length_u16ToBeBytes] at small
    exact getElem?_merged wellFormed ips (by omega) (by omega) (by omega)
  refine ⟨kept _ _ (by omega) (by omega) questions, ?_, kept _ _ (by omega) (by omega) authority,
    kept _ _ (by omega) (by omega) additional⟩
  rw [count]
  exact occurs_count_merged (by omega) ips

/-! ## What is preserved -/

/-- The message has the questions, the authority records and the additional records of the
template, with the same names. -/
def Preserved (decoded : DecodedMessage) (message : Bytes) : Prop :=
  ∃ answers questionEnd answersEnd,
    Decodes message { decoded with answers } questionEnd answersEnd

/-- The names of the template outside its answers are continued as the relation says. -/
def KeptVia (template : Bytes) (decoded : DecodedMessage) (questionEnd answersEnd : Nat)
    (Continues : Nat → List Label → Prop) : Prop :=
  QuestionsVia template Continues 12 decoded.questions questionEnd ∧
    RecordsVia template Continues answersEnd decoded.later template.length

/-- A name that is a pointer to itself is not spelled. -/
theorem not_nameAt_self {message : Bytes} {offset stop : Nat} {runs : List (List Label)}
    (here : Occurs message offset (pointerBytes offset)) (small : offset < 0x4000) :
    ¬ NameAt message offset runs stop := by
  intro name
  -- The pointer would be a second reading, with one more run.
  have runsEq := (name.unique (.pointer here small name)).1
  have lengths := congrArg List.length runsEq
  rw [List.length_cons] at lengths
  omega

/-- The questions of the template end where they did, whatever their pointers lead to. -/
theorem questionsVia_merged (wellFormed : Decodes template decoded questionEnd answersEnd)
    (ips : List Ipv4Addr) {Continues : Nat → List Label → Prop}
    (questions : QuestionsVia template Continues 12 decoded.questions questionEnd) :
    QuestionsVia (merged template questionEnd answersEnd ips) Continues 12 decoded.questions
      questionEnd :=
  (moves_questions wellFormed ips).questions_in_place questions

theorem laterVia_merged (wellFormed : Decodes template decoded questionEnd answersEnd)
    (ips : List Ipv4Addr) {Continues : Nat → List Label → Prop}
    (later : RecordsVia template Continues answersEnd decoded.later template.length) :
    RecordsVia (merged template questionEnd answersEnd ips) Continues
      (questionEnd + 16 * ips.length) decoded.later
        (merged template questionEnd answersEnd ips).length := by
  have inside := (bounds_of_decodes wellFormed).2.2
  rw [← Nat.add_sub_cancel' inside] at later
  rw [length_merged wellFormed]
  exact (moves_later wellFormed ips).records_whole later (length_merged wellFormed ips).ge

/-- The count of answers is that of the header. -/
theorem length_answers_unique {message : Bytes} {first second : DecodedMessage}
    (here : Occurs message 4 first.counts) (there : Occurs message 4 second.counts)
    (firstShort : first.answers.length < 65536) (secondShort : second.answers.length < 65536) :
    first.answers.length = second.answers.length := by
  rw [DecodedMessage.counts, List.append_assoc, List.append_assoc] at here there
  have counts := (occurs_append.mp (occurs_append.mp here).2).1
  have others := (occurs_append.mp (occurs_append.mp there).2).1
  obtain ⟨_, _, same⟩ := exists_append_eq counts others
  have words := congrArg UInt16.toNat (u16ToBeBytes_injective (List.append_inj same rfl).1)
  rwa [UInt16.toNat_ofNat', UInt16.toNat_ofNat', Nat.mod_eq_of_lt firstShort,
    Nat.mod_eq_of_lt secondShort] at words

/-- The sections of the merged message lie where the template's do, as far as they are kept. -/
theorem kept_of_preserved (wellFormed : Decodes template decoded questionEnd answersEnd)
    {ips : List Ipv4Addr} (few : ips.length ≤ 65535)
    (preserved : Preserved decoded (merged template questionEnd answersEnd ips)) :
    ∃ answers, answers.length = ips.length ∧
      Decodes (merged template questionEnd answersEnd ips) { decoded with answers } questionEnd
        (questionEnd + 16 * ips.length) := by
  obtain ⟨answers, lastQuestion, lastAnswer, decodes⟩ := preserved
  have count : answers.length = ips.length := by
    have written : (ips.map (answerOf [])).length = ips.length := List.length_map (answerOf [])
    have placed := occurs_counts_merged wellFormed written
    have same := length_answers_unique decodes.counts placed decodes.answers_short
      (by rw [List.length_map]; omega)
    rwa [List.length_map] at same
  have places : RecordsVia (merged template questionEnd answersEnd ips) (fun _ _ => True)
      questionEnd (ips.map (answerOf [])) (questionEnd + 16 * ips.length) :=
    recordsVia_answers trivial (occurs_answers_merged wellFormed ips)
  cases decodes.questions.stop_unique (questionsVia_merged wellFormed ips wellFormed.questions) rfl
  cases decodes.answers.stop_unique places (by rw [List.length_map]; exact count)
  exact ⟨answers, count, decodes⟩

/-- The merged message preserves the template exactly if the new records have a name to point to
and every pointer outside the answers leads, in the merged message, to the labels that it led to. -/
theorem preserved_merged_iff (wellFormed : Decodes template decoded questionEnd answersEnd)
    {ips : List Ipv4Addr} (few : ips.length ≤ 65535) :
    Preserved decoded (merged template questionEnd answersEnd ips) ↔
      (decoded.questions ≠ [] ∨ ips = []) ∧
        KeptVia template decoded questionEnd answersEnd
          (Spelled (merged template questionEnd answersEnd ips)) := by
  obtain ⟨header, inside, inside'⟩ := bounds_of_decodes wellFormed
  constructor
  · intro preserved
    obtain ⟨answers, count, decodes⟩ := kept_of_preserved wellFormed few preserved
    refine ⟨?_, ?_, ?_⟩
    · by_contra nothing
      rw [not_or, not_not] at nothing
      obtain ⟨ip, rest, rfl⟩ := List.exists_cons_of_ne_nil nothing.2
      have ended := decodes.questions
      simp only [nothing.1] at ended
      cases ended
      have here := occurs_answers_merged wellFormed (ip :: rest)
      rw [List.flatMap_cons, occurs_append] at here
      have pointer := (occurs_answerRecord [] here.1).1
      have answersVia := decodes.answers
      cases answersVia with
      | record owner _ _ _ _ =>
          obtain ⟨runs, stop, name, _⟩ := owner.spelled
          exact not_nameAt_self pointer (by decide) name
    · exact (moves_questions wellFormed ips).symm.questions_in_place decodes.questions
    · have later := decodes.later
      have whole := Nat.add_sub_cancel' inside'
      rw [length_merged wellFormed] at later
      rw [← whole]
      exact (moves_later wellFormed ips).symm.records_whole later whole.le
  · rintro ⟨named, questions, later⟩
    have kept := questionsVia_merged wellFormed ips questions
    have answers : ∃ answers : List DecodedRecord, answers.length = ips.length ∧
        RecordsVia (merged template questionEnd answersEnd ips)
          (Spelled (merged template questionEnd answersEnd ips)) questionEnd answers
            (questionEnd + 16 * ips.length) := by
      rcases named with some | rfl
      · obtain ⟨question, rest, split⟩ := List.exists_cons_of_ne_nil some
        rw [split] at kept
        cases kept with
        | question name _ _ =>
            exact ⟨_, List.length_map _, recordsVia_answers name.spelled
              (occurs_answers_merged wellFormed ips)⟩
      · exact ⟨[], rfl, .done⟩
    obtain ⟨answers, count, sectionVia⟩ := answers
    exact ⟨answers, questionEnd, questionEnd + 16 * ips.length, {
      questions_short := wellFormed.questions_short
      answers_short := by rw [count]; omega
      authority_short := wellFormed.authority_short
      additional_short := wellFormed.additional_short
      counts := occurs_counts_merged wellFormed count
      questions := kept
      answers := sectionVia
      later := laterVia_merged wellFormed ips later }⟩

/-- The octets of the template that the merged message has at the same place whatever the
addresses are: those up to the end of the questions but for the number of answers, and, where the
new answer section is as long as the old one, those behind it. -/
def Stays (questionEnd answersEnd count i : Nat) : Prop :=
  (i < questionEnd ∧ i ≠ 6 ∧ i ≠ 7) ∨
    (answersEnd ≤ i ∧ answersEnd = questionEnd + 16 * count)

theorem getElem?_of_stays (wellFormed : Decodes template decoded questionEnd answersEnd)
    (ips : List Ipv4Addr) {i : Nat} (stays : Stays questionEnd answersEnd ips.length i) :
    (merged template questionEnd answersEnd ips)[i]? = template[i]? := by
  rcases stays with ⟨below, high, low⟩ | ⟨behind, same⟩
  · exact getElem?_merged wellFormed ips below high low
  · have moved := drop_merged wellFormed ips
    rw [← same] at moved
    obtain ⟨k, rfl⟩ := Nat.exists_eq_add_of_le behind
    rw [← List.getElem?_drop, ← List.getElem?_drop, moved]

/-- Names that are continued by octets that stay are kept. -/
theorem keptVia_of_stays (wellFormed : Decodes template decoded questionEnd answersEnd)
    {ips : List Ipv4Addr}
    (kept : KeptVia template decoded questionEnd answersEnd
      (SpelledWithin template (Stays questionEnd answersEnd ips.length))) :
    KeptVia template decoded questionEnd answersEnd
      (Spelled (merged template questionEnd answersEnd ips)) := by
  have weaker : ∀ target labels,
      SpelledWithin template (Stays questionEnd answersEnd ips.length) target labels →
        Spelled (merged template questionEnd answersEnd ips) target labels :=
    fun _ _ within => within.spelled fun _ stays => getElem?_of_stays wellFormed ips stays
  exact ⟨kept.1.mono weaker, kept.2.mono weaker⟩

/-! ## The script's result -/

theorem getUint16_counts {message : Bytes} {said : DecodedMessage}
    (here : Occurs message 4 said.counts) :
    getUint16 message 4 = .ok (UInt16.ofNat said.questions.length).toNat ∧
      getUint16 message 6 = .ok (UInt16.ofNat said.answers.length).toNat ∧
      getUint16 message 8 = .ok (UInt16.ofNat said.authority.length).toNat ∧
      getUint16 message 10 = .ok (UInt16.ofNat said.additional.length).toNat := by
  rw [DecodedMessage.counts] at here
  simp only [List.append_assoc, occurs_append, length_u16ToBeBytes] at here
  exact ⟨getUint16_of_occurs here.1, getUint16_of_occurs here.2.1, getUint16_of_occurs here.2.2.1,
    getUint16_of_occurs here.2.2.2⟩

theorem u16ToBeBytes_ofNat (count : Nat) :
    u16ToBeBytes (UInt16.ofNat count) = [UInt8.ofNat (count / 256), UInt8.ofNat (count % 256)] := by
  have high : UInt8.ofNat (count % 65536 / 256) = UInt8.ofNat (count / 256) := by
    apply UInt8.toNat_inj.mp
    rw [UInt8.toNat_ofNat', UInt8.toNat_ofNat']
    omega
  have low : count % 65536 % 256 = count % 256 := by omega
  rw [u16ToBeBytes, UInt16.toNat_ofNat', high, low]

theorem setUint16_octets (message : Bytes) (offset : Nat) (high low : UInt8) :
    setUint16 message offset (high.toNat * 256 + low.toNat) =
      (message.set offset high).set (offset + 1) low := by
  have bound := low.toNat_lt
  have front : (high.toNat * 256 + low.toNat) / 256 = high.toNat := by omega
  have rest : (high.toNat * 256 + low.toNat) % 256 = low.toNat := by omega
  rw [setUint16, front, rest, UInt8.ofNat_toNat, UInt8.ofNat_toNat]

/-- Writing the counts that are there already changes the number of answers only. -/
theorem setCounts_slice {message : Bytes} {nsCount arCount : Nat}
    (authority : getUint16 message 8 = .ok nsCount)
    (additional : getUint16 message 10 = .ok arCount) (count : Nat) :
    setCounts (slice message 0 12) count nsCount arCount =
      message.take 6 ++ (u16ToBeBytes (UInt16.ofNat count) ++ slice message 8 12) := by
  have inside := lt_of_getUint16 additional
  rw [getUint16_eq_ok_iff] at authority additional
  obtain ⟨a8, a9, found8, found9, rfl⟩ := authority
  obtain ⟨a10, a11, found10, found11, rfl⟩ := additional
  rw [u16ToBeBytes_ofNat]
  rcases message with _ | ⟨x0, _ | ⟨x1, _ | ⟨x2, _ | ⟨x3, _ | ⟨x4, _ | ⟨x5, _ | ⟨x6, _ | ⟨x7, _ | ⟨x8,
    _ | ⟨x9, _ | ⟨x10, _ | ⟨x11, rest⟩⟩⟩⟩⟩⟩⟩⟩⟩⟩⟩⟩
  case cons.cons.cons.cons.cons.cons.cons.cons.cons.cons.cons.cons =>
    cases found8
    cases found9
    cases found10
    cases found11
    rw [setCounts, setUint16_octets, setUint16_octets]
    rfl
  all_goals cases found11

/-- What the script writes when its walks over the template come to an end. -/
theorem rewriteAnswersWithIps_of_walks {qdCount anCount nsCount arCount budget : Nat}
    (questionCount : getUint16 template 4 = .ok qdCount)
    (answerCount : getUint16 template 6 = .ok anCount)
    (authority : getUint16 template 8 = .ok nsCount)
    (additional : getUint16 template 10 = .ok arCount)
    (questions : skipQuestions budget template qdCount 12 = .ok questionEnd)
    (answers : skipAnswers budget template anCount questionEnd = .ok answersEnd)
    (header : 12 ≤ questionEnd) (ips : List Ipv4Addr) :
    rewriteAnswersWithIps budget template (ips.map Ipv4Addr.toText) =
      .ok (merged template questionEnd answersEnd ips) := by
  have inside := lt_of_getUint16 additional
  have question : slice template 8 12 ++ slice template 12 questionEnd =
      slice template 8 questionEnd := by
    have short : template.take 12 = (template.take questionEnd).take 12 := by
      rw [List.take_take, Nat.min_eq_left header]
    have eight : 8 ≤ ((template.take questionEnd).take 12).length := by
      rw [List.length_take, List.length_take]
      omega
    rw [slice, slice, slice, short, ← List.drop_append_of_le_length eight, List.take_append_drop]
  rw [rewriteAnswersWithIps, questionCount, answerCount, authority, additional]
  simp only [bind, Except.bind, pure, Except.pure, buildARecords_toText, questions, answers,
    setCounts_slice authority additional, List.length_map]
  rw [merged, mergedFront, ← question]
  simp only [List.append_assoc]

theorem rewriteAnswersWithIps_eq (wellFormed : Decodes template decoded questionEnd answersEnd)
    (ips : List Ipv4Addr) {budget : Nat} (enough : template.length < budget) :
    rewriteAnswersWithIps budget template (ips.map Ipv4Addr.toText) =
      .ok (merged template questionEnd answersEnd ips) := by
  obtain ⟨header, _, _⟩ := bounds_of_decodes wellFormed
  obtain ⟨qdCount, anCount, nsCount, arCount⟩ := getUint16_counts wellFormed.counts
  rw [Shared.Dns.toNat_ofNat_of_short wellFormed.questions_short] at qdCount
  rw [Shared.Dns.toNat_ofNat_of_short wellFormed.answers_short] at anCount
  exact rewriteAnswersWithIps_of_walks qdCount anCount nsCount arCount
    (skipQuestions_via wellFormed.questions enough) (skipAnswers_via wellFormed.answers enough)
    header ips

theorem extractARecords_merged (wellFormed : Decodes template decoded questionEnd answersEnd)
    {ips : List Ipv4Addr} (few : ips.length ≤ 65535) {budget : Nat}
    (enough : (merged template questionEnd answersEnd ips).length < budget) :
    extractARecords budget (merged template questionEnd answersEnd ips) =
      .ok (ips.map Ipv4Addr.toText) := by
  have written : (ips.map (answerOf [])).length = ips.length := List.length_map (answerOf [])
  have counts := occurs_counts_merged wellFormed written
  obtain ⟨qdCount, anCount, _⟩ := getUint16_counts counts
  have questions := skipQuestions_via (questionsVia_merged wellFormed ips wellFormed.questions) enough
  rw [Shared.Dns.toNat_ofNat_of_short wellFormed.questions_short] at qdCount
  rw [List.length_map, Shared.Dns.toNat_ofNat_of_short (Nat.lt_succ_of_le few)] at anCount
  rw [extractARecords, qdCount, anCount]
  simp only [bind, Except.bind, questions]
  exact extractFrom_answers (occurs_answers_merged wellFormed ips) enough

/-- For every well-formed reply and all addresses the script returns a message from which it reads
the addresses back.  The message preserves the reply exactly if the new records have a name to point
to and all pointers outside the answers still lead to their names; they do if they lead to octets
that stay. -/
theorem rewriteAnswersWithIps_preserves
    (wellFormed : Decodes template decoded questionEnd answersEnd) {ips : List Ipv4Addr}
    (few : ips.length ≤ 65535) :
    ∃ out,
      (∀ budget, template.length < budget →
        rewriteAnswersWithIps budget template (ips.map Ipv4Addr.toText) = .ok out) ∧
      (∀ budget, out.length < budget →
        extractARecords budget out = .ok (ips.map Ipv4Addr.toText)) ∧
      (Preserved decoded out ↔
        (decoded.questions ≠ [] ∨ ips = []) ∧
          KeptVia template decoded questionEnd answersEnd (Spelled out)) ∧
      (decoded.questions ≠ [] ∨ ips = [] →
        KeptVia template decoded questionEnd answersEnd
          (SpelledWithin template (Stays questionEnd answersEnd ips.length)) →
            Preserved decoded out) := by
  have exact := preserved_merged_iff wellFormed few
  refine ⟨merged template questionEnd answersEnd ips,
    fun budget enough => rewriteAnswersWithIps_eq wellFormed ips enough,
    fun budget enough => extractARecords_merged wellFormed few enough, exact, ?_⟩
  intro named kept
  exact exact.mpr ⟨named, keptVia_of_stays wellFormed kept⟩

/-! ## A reply with an alias -/

/-- The reply says that `a` is an alias of `b`, and names the server `a` for a zone.  The name of
the zone is a pointer with this low octet. -/
def aliasReply (low : UInt8) : Bytes :=
  [0x00, 0x01, 0x81, 0x80, 0x00, 0x01, 0x00, 0x01, 0x00, 0x01, 0x00, 0x00] ++
    [0x01, 0x61, 0x00, 0x00, 0x01, 0x00, 0x01] ++
    [0xC0, 0x0C, 0x00, 0x05, 0x00, 0x01, 0x00, 0x00, 0x00, 0x3C, 0x00, 0x03, 0x01, 0x62, 0x00] ++
    [0xC0, low, 0x00, 0x02, 0x00, 0x01, 0x00, 0x00, 0x00, 0x3C, 0x00, 0x02, 0xC0, 0x0C]

/-- The same reply as it is read, with this zone. -/
def aliasDecoded (zone : Label) : DecodedMessage where
  questions := [⟨[labelA], 1, 1⟩]
  answers := [⟨[labelA], 5, 1, 60, [.name [labelB], .octets []]⟩]
  authority := [⟨[zone], 2, 1, 60, [.name [labelA], .octets []]⟩]
  additional := []

theorem spelled_question (low : UInt8) : Spelled (aliasReply low) 12 [labelA] :=
  ⟨[[labelA]], 15, .label ⟨_, rfl⟩ (.root ⟨_, rfl⟩), rfl⟩

theorem occurs_zone (low : UInt8) : Occurs (aliasReply low) 34 (pointerBytes low.toNat) := by
  have bound := low.toNat_lt
  rw [pointerBytes, Nat.div_eq_of_lt bound, Nat.mod_eq_of_lt bound, UInt8.ofNat_toNat]
  exact ⟨_, rfl⟩

theorem aliasQuestions (low : UInt8) {Continues : Nat → List Label → Prop} :
    QuestionsVia (aliasReply low) Continues 12 [⟨[labelA], 1, 1⟩] 19 :=
  .question (.label ⟨_, rfl⟩ (.root ⟨_, rfl⟩)) ⟨_, rfl⟩ .done

theorem aliasAnswers (low : UInt8) :
    RecordsVia (aliasReply low) (Spelled (aliasReply low)) 19
      [⟨[labelA], 5, 1, 60, [.name [labelB], .octets []]⟩] 34 := by
  have fixed : DecodedRecord.fixed ⟨[labelA], 5, 1, 60, [.name [labelB], .octets []]⟩ 3 =
      [0x00, 0x05, 0x00, 0x01, 0x00, 0x00, 0x00, 0x3C, 0x00, 0x03] := by decide
  have pointer : Occurs (aliasReply low) 19 (pointerBytes 12) := ⟨_, rfl⟩
  have owner : NameVia (aliasReply low) (Spelled (aliasReply low)) 19 [labelA] 21 :=
    .pointer pointer (by decide) (spelled_question low)
  have fixedHere : Occurs (aliasReply low) 21
      (DecodedRecord.fixed ⟨[labelA], 5, 1, 60, [.name [labelB], .octets []]⟩ 3) := by
    rw [fixed]
    exact ⟨_, rfl⟩
  exact .record owner fixedHere (by decide : 34 ≤ 48)
    (.name (.label ⟨_, rfl⟩ (.root ⟨_, rfl⟩)) (.rest (occurs_nil _ _))) .done

/-- The authority section, whatever the names in it are continued by. -/
theorem aliasAuthority (low : UInt8) {zone : Label} {Continues : Nat → List Label → Prop}
    (server : Continues 12 [labelA]) (continued : Continues low.toNat [zone]) :
    RecordsVia (aliasReply low) Continues 34 [⟨[zone], 2, 1, 60, [.name [labelA], .octets []]⟩] 48 := by
  have fixed : DecodedRecord.fixed ⟨[zone], 2, 1, 60, [.name [labelA], .octets []]⟩ 2 =
      [0x00, 0x02, 0x00, 0x01, 0x00, 0x00, 0x00, 0x3C, 0x00, 0x02] :=
    (by decide : u16ToBeBytes 2 ++ u16ToBeBytes 1 ++ u32ToBeBytes 60 ++ u16ToBeBytes 2 =
      [0x00, 0x02, 0x00, 0x01, 0x00, 0x00, 0x00, 0x3C, 0x00, 0x02])
  have owner : NameVia (aliasReply low) Continues 34 [zone] 36 :=
    .pointer (occurs_zone low) (low.toNat_lt.trans (by decide)) continued
  have pointer : Occurs (aliasReply low) 46 (pointerBytes 12) := ⟨_, rfl⟩
  have fixedHere : Occurs (aliasReply low) 36
      (DecodedRecord.fixed ⟨[zone], 2, 1, 60, [.name [labelA], .octets []]⟩ 2) := by
    rw [fixed]
    exact ⟨_, rfl⟩
  exact .record owner fixedHere (Nat.le_refl 48)
    (.name (.pointer pointer (by decide) server) (.rest (occurs_nil _ _))) .done

theorem decodes_alias {low : UInt8} {zone : Label}
    (spelled : Spelled (aliasReply low) low.toNat [zone]) :
    Decodes (aliasReply low) (aliasDecoded zone) 19 34 where
  questions_short := (by decide : 1 < 65536)
  answers_short := (by decide : 1 < 65536)
  authority_short := (by decide : 1 < 65536)
  additional_short := (by decide : 0 < 65536)
  counts := by
    have counts : (aliasDecoded labelA).counts = [0x00, 0x01, 0x00, 0x01, 0x00, 0x01, 0x00, 0x00] := by
      decide
    have same : (aliasDecoded zone).counts = (aliasDecoded labelA).counts := rfl
    rw [same, counts]
    exact ⟨_, rfl⟩
  questions := aliasQuestions low
  answers := aliasAnswers low
  later := aliasAuthority low (spelled_question low) spelled

/-- With the pointer into the question section the reply is preserved. -/
theorem rewriteAnswersWithIps_preserves_alias :
    ∃ out, rewriteAnswersWithIps 49 (aliasReply 0x0C) ["10.0.0.1".toList] = .ok out ∧
      Preserved (aliasDecoded labelA) out := by
  have wellFormed := decodes_alias (spelled_question 0x0C)
  have few : [(⟨10, 0, 0, 1⟩ : Ipv4Addr)].length ≤ 65535 := by decide
  obtain ⟨out, returned, _, _, preserved⟩ := rewriteAnswersWithIps_preserves wellFormed few
  have within : SpelledWithin (aliasReply 0x0C) (Stays 19 34 1) 12 [labelA] := by
    refine .label ⟨_, rfl⟩ ?_ (.root ⟨_, rfl⟩ ?_)
    · intro i inside
      have two : i < 2 := inside
      exact .inl ⟨by omega, by omega, by omega⟩
    · exact .inl (by decide)
  have text : [(⟨10, 0, 0, 1⟩ : Ipv4Addr)].map Ipv4Addr.toText = ["10.0.0.1".toList] := by
    decide +kernel
  have returned := returned 49 (by decide)
  rw [text] at returned
  exact ⟨out, returned, preserved (.inl (List.cons_ne_nil _ _))
    ⟨aliasQuestions 0x0C, aliasAuthority 0x0C within within⟩⟩

/-- With the pointer into the answer section the zone is another one afterwards. -/
theorem alias_lost :
    Decodes (aliasReply 0x1F) (aliasDecoded labelB) 19 34 ∧
      ∃ out, rewriteAnswersWithIps 49 (aliasReply 0x1F) ["1.0.0.1".toList] = .ok out ∧
        ¬ Preserved (aliasDecoded labelB) out := by
  have wellFormed : Decodes (aliasReply 0x1F) (aliasDecoded labelB) 19 34 :=
    decodes_alias ⟨[[labelB]], 34, .label ⟨_, rfl⟩ (.root ⟨_, rfl⟩), rfl⟩
  have returned := rewriteAnswersWithIps_eq wellFormed [⟨1, 0, 0, 1⟩] (by decide : 48 < 49)
  have text : [(⟨1, 0, 0, 1⟩ : Ipv4Addr)].map Ipv4Addr.toText = ["1.0.0.1".toList] := by
    decide +kernel
  rw [text] at returned
  refine ⟨wellFormed, _, returned, ?_⟩
  intro preserved
  have few : [(⟨1, 0, 0, 1⟩ : Ipv4Addr)].length ≤ 65535 := by decide
  obtain ⟨_, _, later⟩ := (preserved_merged_iff wellFormed few).mp preserved
  cases later with
  | record owner _ _ _ _ =>
      have zone := owner.continues (occurs_zone 0x1F) (by decide)
      have octet : Spelled (merged (aliasReply 0x1F) 19 34 [⟨1, 0, 0, 1⟩]) 31
          [⟨[0x00], by decide, by decide⟩] :=
        ⟨[[_]], 34, .label (by decide) (.root (by decide)), rfl⟩
      exact absurd (zone.unique octet) (by decide)

end DnsHijacker.Worker
