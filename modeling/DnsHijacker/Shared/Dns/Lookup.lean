import DnsHijacker.Shared.CacheKey

/-!
# The program's own lookups

`build_lookup_query` asks for the addresses of a name it is given as text.  What it sends is read
back by the program's own readers: where every label of the text fits into a label on the wire,
the packet is the standard query for those labels.
-/

namespace DnsHijacker.Shared.Dns

open DnsHijacker.Rust
open DnsHijacker.Wire

/-- One turn of the label loop: the label's length, cut to a byte, and its bytes. -/
def pushLabel (label : Text) : Bytes :=
  UInt8.ofNat (toUtf8 label).length :: toUtf8 label

/-- `build_lookup_query`, with the transaction ID that was drawn. -/
def buildLookupQuery (txid : UInt16) (domain : Text) : Bytes :=
  u16ToBeBytes txid ++ [0x01, 0x00] ++ [0x00, 0x01] ++ [0x00, 0x00] ++ [0x00, 0x00] ++
    [0x00, 0x00] ++ ((trimEndMatches '.' domain).splitOn '.').flatMap pushLabel ++ [0x00] ++
    [0x00, 0x01] ++ [0x00, 0x01]

/-! ## Texts as labels -/

/-- The text fits into a label. -/
def FitsLabel (part : Text) : Prop :=
  1 ≤ (toUtf8 part).length ∧ (toUtf8 part).length ≤ 63

instance (part : Text) : Decidable (FitsLabel part) :=
  inferInstanceAs (Decidable (_ ∧ _))

/-- The label of a text that fits. -/
def FitsLabel.label {part : Text} (fits : FitsLabel part) : Label where
  bytes := toUtf8 part
  nonempty := List.ne_nil_of_length_pos fits.1
  short := fits.2

/-- Labels that spell the parts of a name. -/
def Spells (labels : List Label) (parts : List Text) : Prop :=
  labels.map Label.bytes = parts.map toUtf8

theorem exists_spells {parts : List Text} (fits : ∀ part ∈ parts, FitsLabel part) :
    ∃ labels, Spells labels parts := by
  induction parts with
  | nil => exact ⟨[], rfl⟩
  | cons part parts ih =>
      rw [List.forall_mem_cons] at fits
      obtain ⟨labels, spells⟩ := ih fits.2
      refine ⟨fits.1.label :: labels, ?_⟩
      rw [Spells, List.map_cons, List.map_cons, spells]
      rfl

/-- Each label spells its part. -/
theorem Spells.forall₂ {labels : List Label} {parts : List Text} (spells : Spells labels parts) :
    List.Forall₂ (fun (label : Label) part => label.bytes = toUtf8 part) labels parts := by
  have same : List.Forall₂ Eq (labels.map Label.bytes) (parts.map toUtf8) := by
    rw [List.forall₂_eq_eq_eq]
    exact spells
  rwa [List.forall₂_map_left_iff, List.forall₂_map_right_iff] at same

/-- The texts of the labels are the parts. -/
theorem Spells.text {labels : List Label} {parts : List Text} (spells : Spells labels parts) :
    labels.map Label.text = parts ∧ ∀ label ∈ labels, label.IsUtf8 := by
  have each := spells.forall₂
  clear spells
  induction each with
  | nil => exact ⟨rfl, fun label mem => absurd mem List.not_mem_nil⟩
  | @cons label part labels parts here _ ih =>
      obtain ⟨texts, utf8⟩ := ih
      have decoded : fromUtf8 label.bytes = some part := by
        rw [here]
        exact fromUtf8_toUtf8 part
      have text : label.text = part := by
        rw [Label.text, decoded]
        rfl
      constructor
      · rw [List.map_cons, text, texts]
      · rw [List.forall_mem_cons]
        exact ⟨⟨part, decoded⟩, utf8⟩

/-- The label loop writes what the labels are encoded as. -/
theorem Spells.encode {labels : List Label} {parts : List Text} (spells : Spells labels parts) :
    parts.flatMap pushLabel = labels.flatMap Label.encode := by
  have each := spells.forall₂
  clear spells
  induction each with
  | nil => rfl
  | cons here _ ih => rw [List.flatMap_cons, List.flatMap_cons, ih, pushLabel, Label.encode, here]

/-- The packet is the standard query for the labels of the text. -/
theorem buildLookupQuery_eq_encode {txid : UInt16} {domain : Text} {labels : List Label}
    (spells : Spells labels ((trimEndMatches '.' domain).splitOn '.')) :
    buildLookupQuery txid domain = (Query.standard txid ⟨labels, 1, 1⟩).encode := by
  have one : u16ToBeBytes 1 = [0x00, 0x01] := rfl
  have zero : u16ToBeBytes (UInt16.ofNat ([] : List Record).length) = [0x00, 0x00] := rfl
  rw [buildLookupQuery, spells.encode, Query.encode, Message.encode]
  simp only [Query.toMessage, Query.standard, Message.header, Message.records, Question.encode,
    encodeName, one, zero, List.append_nil, encodeRecords_nil, List.append_assoc]

/-- A standard query ends with its question. -/
theorem length_standard (txid : UInt16) (question : Question) :
    (Query.standard txid question).encode.length =
      (Query.standard txid question).nameEnd + 4 := by
  rw [Query.encode, Message.encode, List.length_append, List.length_append, Message.length_header,
    Question.encode, List.length_append]
  exact Nat.add_assoc 12 _ 4

/-! ## ASCII names -/

/-- What stands in a part stands in the text. -/
theorem mem_of_mem_splitOn {sep c : Char} {text part : Text} (mem : part ∈ text.splitOn sep)
    (inPart : c ∈ part) : c ∈ text := by
  have whole : List.intercalate [sep] (text.splitOn sep) = text := List.intercalate_splitOn sep
  rw [← whole]
  obtain ⟨front, back, split⟩ := List.append_of_mem mem
  rw [split]
  cases front with
  | nil =>
      rw [List.nil_append, intercalate_cons]
      exact List.mem_append_left _ inPart
  | cons first front =>
      rw [List.cons_append, intercalate_cons]
      apply List.mem_append_right
      exact List.mem_flatMap.mpr ⟨part, List.mem_append_right _ List.mem_cons_self,
        List.mem_append_right _ inPart⟩

theorem map_intercalate (lower : Char → Char) (sep : Char) (parts : List Text) :
    (List.intercalate [sep] parts).map lower =
      List.intercalate [lower sep] (parts.map (List.map lower)) := by
  cases parts with
  | nil => rfl
  | cons part parts =>
      rw [List.map_cons, intercalate_cons, intercalate_cons, List.map_append, List.map_flatMap,
        List.flatMap_map]
      rfl

/-- The parts of an ASCII text are mapped character by character, and so is the text. -/
theorem dottedName_of_spells (ucd : UnicodeData) {text : Text} (ascii : ∀ c ∈ text, c.toNat < 128)
    {labels : List Label} (spells : Spells labels (text.splitOn '.')) :
    dottedName ucd labels = text.map Char.toLower := by
  have lowered : ∀ part ∈ text.splitOn '.', ucd.toLowercase part = part.map Char.toLower := by
    intro part mem
    apply UnicodeData.toLowercase_ascii
    exact fun c inPart => ascii c (mem_of_mem_splitOn mem inPart)
  calc
    dottedName ucd labels
      = List.intercalate ['.'] ((labels.map Label.text).map ucd.toLowercase) := by
        rw [dottedName, List.map_map]
        rfl
    _ = List.intercalate ['.'] ((text.splitOn '.').map (List.map Char.toLower)) := by
        rw [spells.text.1, List.map_congr_left lowered]
    _ = (List.intercalate ['.'] (text.splitOn '.')).map Char.toLower :=
        (map_intercalate Char.toLower '.' _).symm
    _ = text.map Char.toLower := by
        rw [List.intercalate_splitOn]

/-- What `build_lookup_query` sends for an ASCII name is read back as that name. -/
theorem parseDomain_buildLookupQuery (ucd : UnicodeData) (txid : UInt16) {domain : Text}
    (ascii : ∀ c ∈ domain, c.toNat < 128)
    (fits : ∀ part ∈ (trimEndMatches '.' domain).splitOn '.', FitsLabel part) :
    let packet := buildLookupQuery txid domain
    let name := (trimEndMatches '.' domain).map Char.toLower
    ∃ qtypeOffset, parseDomain ucd packet 12 = .ok (some (name, qtypeOffset)) ∧
      cacheKeyFromQuery ucd packet = .ok (some ⟨name, 1⟩) ∧
      packet.length = qtypeOffset + 4 ∧
      readU16 packet qtypeOffset = .ok 1 ∧ readU16 packet (qtypeOffset + 2) = .ok 1 ∧
      readU16 packet 4 = .ok 1 ∧ readU16 packet 6 = .ok 0 ∧ readU16 packet 8 = .ok 0 ∧
      readU16 packet 10 = .ok 0 := by
  obtain ⟨labels, spells⟩ := exists_spells fits
  have trimmed : ∀ c ∈ trimEndMatches '.' domain, c.toNat < 128 := fun c mem =>
    ascii c ((List.rdropWhile_prefix _ _).mem mem)
  intro packet name
  let query := Query.standard txid ⟨labels, 1, 1⟩
  have spelled : dottedName ucd query.question.labels = name :=
    dottedName_of_spells ucd trimmed spells
  have utf8 : ∀ label ∈ query.question.labels, label.IsUtf8 := spells.text.2
  have sent : packet = query.encode := buildLookupQuery_eq_encode spells
  obtain ⟨questions, answers, authority, additional⟩ := readU16_counts query.toMessage.toPacket
  rw [Message.encode_toPacket] at questions answers authority additional
  rw [sent]
  refine ⟨query.nameEnd, ?_, ?_, ?_, query.toMessage.occurs_qtype.readU16_eq,
    query.toMessage.occurs_qclass.readU16_eq, questions, answers, authority, additional⟩
  · rw [parseDomain_query, if_pos utf8, spelled]
  · rw [cacheKeyFromQuery_query, if_pos utf8, questionKey, spelled]
    rfl
  · exact length_standard txid ⟨labels, 1, 1⟩

/-- The name `A.b.`, with a capital letter and a trailing dot. -/
theorem parseDomain_buildLookupQuery_ab :
    ∃ qtypeOffset, parseDomain .ascii (buildLookupQuery 7 ['A', '.', 'b', '.']) 12 =
      .ok (some (['a', '.', 'b'], qtypeOffset)) := by
  have ascii : ∀ c ∈ ['A', '.', 'b', '.'], c.toNat < 128 := by simp
  obtain ⟨qtypeOffset, parsed, _⟩ := parseDomain_buildLookupQuery .ascii 7 ascii (by decide)
  exact ⟨qtypeOffset, parsed⟩

end DnsHijacker.Shared.Dns
