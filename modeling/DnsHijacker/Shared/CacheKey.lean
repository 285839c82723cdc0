import DnsHijacker.Shared.Dns.MessageSpec

/-!
# Cache keys

A cached reply is filed under the name and the type of the question.  The class
is not part of the key, the labels are joined by dots without escaping dots
inside a label, and they are compared by Unicode lower case.  These are the only
three ways in which two different questions can share a key.
-/

namespace DnsHijacker.Shared

open DnsHijacker.Rust
open DnsHijacker.Wire
open DnsHijacker.Shared.Dns

/-- `CacheKey` -/
structure CacheKey where
  name : Text
  qtype : UInt16
  deriving DecidableEq, Repr

/-- `cache_key_from_query` -/
def cacheKeyFromQuery (ucd : UnicodeData) (payload : Bytes) : Exec (Option CacheKey) := do
  match ← parseDomain ucd payload 12 with
  | none => return none
  | some (name, qnameEnd) =>
      if qnameEnd + 2 > payload.length then return none
      let qtype ← readU16 payload qnameEnd
      return some { name, qtype }

variable {ucd : UnicodeData}

/-- The key of a question: the text of its name and its type. -/
def questionKey (ucd : UnicodeData) (question : Question) : CacheKey where
  name := dottedName ucd question.labels
  qtype := question.qtype

theorem cacheKeyFromQuery_message (ucd : UnicodeData) (message : Message) :
    cacheKeyFromQuery ucd message.encode =
      .ok (if ∀ label ∈ message.question.labels, label.IsUtf8 then
        some (questionKey ucd message.question)
      else none) := by
  have inside := message.nameEnd_add_four_le
  rw [cacheKeyFromQuery, parseDomain_message]
  split
  · simp only [bind, Except.bind, pure, Except.pure]
    rw [if_neg (by omega), message.occurs_qtype.readU16_eq]
    rfl
  · rfl

theorem cacheKeyFromQuery_query (ucd : UnicodeData) (query : Query) :
    cacheKeyFromQuery ucd query.encode =
      .ok (if ∀ label ∈ query.question.labels, label.IsUtf8 then
        some (questionKey ucd query.question)
      else none) :=
  cacheKeyFromQuery_message ucd query.toMessage

/-- The name of a key is in lower case. -/
theorem stable_of_cacheKeyFromQuery {payload : Bytes} {key : CacheKey}
    (found : cacheKeyFromQuery ucd payload = .ok (some key)) : ∀ c ∈ key.name, ucd.Stable c := by
  rw [cacheKeyFromQuery, bind_eq_ok] at found
  rcases found with ⟨result, parsed, found⟩
  cases result with
  | none => cases found
  | some result =>
      rcases result with ⟨name, qnameEnd⟩
      dsimp only at found
      split at found
      · cases found
      · rw [bind_eq_ok] at found
        rcases found with ⟨qtype, _, same⟩
        cases same
        exact stable_of_parseDomain parsed

/-- The key is computed unless the pointers of the name loop. -/
theorem cacheKeyFromQuery_returns_iff (ucd : UnicodeData) (payload : Bytes) :
    Returns (cacheKeyFromQuery ucd payload) ↔ ¬ PointerLoop payload 12 := by
  rw [← parseDomain_returns_iff ucd, cacheKeyFromQuery, returns_bind]
  constructor
  · rintro ⟨parsed, eq, _⟩
    exact ⟨parsed, eq⟩
  · rintro ⟨parsed, eq⟩
    refine ⟨parsed, eq, ?_⟩
    cases parsed with
    | none => exact returns_ok none
    | some parsed =>
        rcases parsed with ⟨name, qnameEnd⟩
        dsimp only
        split
        · exact returns_ok none
        · next inside =>
            rcases readU16_returns (Nat.le_of_not_lt inside) with ⟨qtype, read⟩
            rw [read]
            exact returns_ok _

/-- The packet is a response, and its question has the key. -/
def AnswersKey (ucd : UnicodeData) (key : CacheKey) (packet : Bytes) : Prop :=
  cacheKeyFromQuery ucd packet = .ok (some key) ∧
    ∃ flags, packet[2]? = some flags ∧ 128 ≤ flags

/-! ## Questions with the same key -/

/-- The labels of a question in ASCII lower case. -/
def asciiLabels (question : Question) : List Bytes :=
  question.labels.map fun label => label.bytes.map toAsciiLowercase

/-- The same question: the same labels up to ASCII case, type and class. -/
def SameQuestion (first second : Question) : Prop :=
  asciiLabels first = asciiLabels second ∧ first.qtype = second.qtype ∧
    first.qclass = second.qclass

instance (first second : Question) : Decidable (SameQuestion first second) :=
  inferInstanceAs (Decidable (_ ∧ _))

/-- If two queries have the same key they ask the same question. -/
def KeyIdentifies (ucd : UnicodeData) (first second : Query) : Prop :=
  ∀ key, cacheKeyFromQuery ucd first.encode = .ok (some key) →
    cacheKeyFromQuery ucd second.encode = .ok (some key) →
      SameQuestion first.question second.question

/-- The labels of a question in Unicode lower case. -/
def lowerLabels (ucd : UnicodeData) (question : Question) : List Text :=
  question.labels.map fun label => ucd.toLowercase label.text

/-- The labels cut at the dots inside them. -/
def pieces (ucd : UnicodeData) (question : Question) : List Text :=
  (lowerLabels ucd question).flatMap (List.splitOn '.')

/-- The questions agree in name and type but differ in their class. -/
def ClassClash (ucd : UnicodeData) (first second : Question) : Prop :=
  pieces ucd first = pieces ucd second ∧ first.qtype = second.qtype ∧
    first.qclass ≠ second.qclass

/-- A dot inside a label of one question stands between labels of the other. -/
def BoundaryClash (ucd : UnicodeData) (first second : Question) : Prop :=
  pieces ucd first = pieces ucd second ∧ first.qtype = second.qtype ∧
    asciiLabels first ≠ asciiLabels second ∧ lowerLabels ucd first ≠ lowerLabels ucd second

/-- The labels agree in Unicode lower case but not in ASCII lower case. -/
def CaseClash (ucd : UnicodeData) (first second : Question) : Prop :=
  lowerLabels ucd first = lowerLabels ucd second ∧ first.qtype = second.qtype ∧
    asciiLabels first ≠ asciiLabels second

theorem dottedName_eq_intercalate (question : Question) :
    dottedName ucd question.labels = List.intercalate ['.'] (lowerLabels ucd question) :=
  rfl

theorem lowerLabels_eq_nil_iff {question : Question} :
    lowerLabels ucd question = [] ↔ question.labels = [] :=
  List.map_eq_nil_iff

/-- UTF-8 labels give at least one piece each. -/
theorem dottedName_eq_nil_iff {question : Question}
    (utf8 : ∀ label ∈ question.labels, label.IsUtf8) :
    dottedName ucd question.labels = [] ↔ question.labels = [] := by
  cases labels : question.labels with
  | nil => simp [dottedName]
  | cons label rest =>
      have nonempty : label.text ≠ [] :=
        (utf8 label (by rw [labels]; exact List.mem_cons_self)).text_ne_nil
      rw [dottedName_cons]
      simp [nonempty]

/-- Two names have the same text exactly when cutting their labels at dots gives
the same pieces. -/
theorem dottedName_eq_iff {first second : Question}
    (firstUtf8 : ∀ label ∈ first.labels, label.IsUtf8)
    (secondUtf8 : ∀ label ∈ second.labels, label.IsUtf8) :
    dottedName ucd first.labels = dottedName ucd second.labels ↔
      pieces ucd first = pieces ucd second := by
  have split : ∀ {question : Question}, question.labels ≠ [] →
      (dottedName ucd question.labels).splitOn '.' = pieces ucd question := by
    intro question nonempty
    rw [dottedName_eq_intercalate, pieces, splitOn_intercalate_flatMap]
    exact fun empty => nonempty (lowerLabels_eq_nil_iff.mp empty)
  have pieces_nil : ∀ {question : Question}, pieces ucd question = [] → question.labels = [] := by
    intro question empty
    by_contra nonempty
    rw [← split nonempty] at empty
    exact List.splitOn_ne_nil _ _ empty
  by_cases firstNil : first.labels = []
  · have firstPieces : pieces ucd first = [] := by
      rw [pieces, lowerLabels_eq_nil_iff.mpr firstNil]
      rfl
    rw [(dottedName_eq_nil_iff firstUtf8).mpr firstNil, firstPieces]
    constructor
    · intro same
      have secondNil := (dottedName_eq_nil_iff secondUtf8).mp same.symm
      rw [pieces, lowerLabels_eq_nil_iff.mpr secondNil]
      rfl
    · intro same
      exact ((dottedName_eq_nil_iff secondUtf8).mpr (pieces_nil same.symm)).symm
  · by_cases secondNil : second.labels = []
    · have secondPieces : pieces ucd second = [] := by
        rw [pieces, lowerLabels_eq_nil_iff.mpr secondNil]
        rfl
      rw [(dottedName_eq_nil_iff secondUtf8).mpr secondNil, secondPieces,
        dottedName_eq_nil_iff firstUtf8]
      exact ⟨fun empty => absurd empty firstNil, fun empty => absurd (pieces_nil empty) firstNil⟩
    · rw [← split firstNil, ← split secondNil]
      exact (splitOn_injective '.').eq_iff.symm

theorem not_boundaryClash {first second : Question}
    (firstUtf8 : ∀ label ∈ first.labels, label.IsUtf8)
    (secondUtf8 : ∀ label ∈ second.labels, label.IsUtf8)
    (firstDotFree : ∀ label ∈ first.labels, 0x2E ∉ label.bytes)
    (secondDotFree : ∀ label ∈ second.labels, 0x2E ∉ label.bytes) :
    ¬ BoundaryClash ucd first second := by
  have whole : ∀ {question : Question}, (∀ label ∈ question.labels, label.IsUtf8) →
      (∀ label ∈ question.labels, 0x2E ∉ label.bytes) →
        pieces ucd question = lowerLabels ucd question := by
    intro question utf8 dotFree
    rw [pieces, lowerLabels, List.flatMap_map]
    have single : ∀ label ∈ question.labels,
        (ucd.toLowercase label.text).splitOn '.' = [ucd.toLowercase label.text] := by
      intro label mem
      apply List.splitOn_eq_singleton
      apply UnicodeData.dot_not_mem_toLowercase
      exact dot_not_mem_of_fromUtf8 (utf8 label mem).fromUtf8_eq (dotFree label mem)
    rw [List.flatMap_congr single, ← List.map_eq_flatMap]
  rintro ⟨samePieces, _, _, differ⟩
  rw [whole firstUtf8 firstDotFree, whole secondUtf8 secondDotFree] at samePieces
  exact differ samePieces

theorem not_caseClash {first second : Question}
    (firstAscii : ∀ label ∈ first.labels, IsAscii label.bytes)
    (secondAscii : ∀ label ∈ second.labels, IsAscii label.bytes) :
    ¬ CaseClash ucd first second := by
  -- The encoded lower-case text of an ASCII label is its ASCII lower case.
  have recover : ∀ {question : Question}, (∀ label ∈ question.labels, IsAscii label.bytes) →
      (lowerLabels ucd question).map toUtf8 = asciiLabels question := by
    intro question ascii
    rw [lowerLabels, asciiLabels, List.map_map]
    apply List.map_congr_left
    intro label mem
    have lowerAscii : IsAscii (label.bytes.map toAsciiLowercase) := by
      intro byte byteMem
      rcases List.mem_map.mp byteMem with ⟨source, sourceMem, rfl⟩
      exact toAsciiLowercase_lt (ascii label mem source sourceMem)
    have text := toLowercase_text_of_isAscii ucd (ascii label mem)
    rw [Function.comp_apply, text, ← toUtf8_map_asciiChar lowerAscii, List.map_map]
    rfl
  rintro ⟨same, _, differ⟩
  apply differ
  rw [← recover firstAscii, ← recover secondAscii, same]

/-- Two queries are told apart by their keys if the pieces of their names and
their types settle the question. -/
theorem keyIdentifies_iff_pieces {first second : Query}
    (firstUtf8 : ∀ label ∈ first.question.labels, label.IsUtf8)
    (secondUtf8 : ∀ label ∈ second.question.labels, label.IsUtf8) :
    KeyIdentifies ucd first second ↔
      (pieces ucd first.question = pieces ucd second.question →
        first.question.qtype = second.question.qtype →
          SameQuestion first.question second.question) := by
  have firstKey := cacheKeyFromQuery_query ucd first
  have secondKey := cacheKeyFromQuery_query ucd second
  rw [if_pos firstUtf8] at firstKey
  rw [if_pos secondUtf8] at secondKey
  have sameKey_iff : questionKey ucd first.question = questionKey ucd second.question ↔
      pieces ucd first.question = pieces ucd second.question ∧
        first.question.qtype = second.question.qtype := by
    rw [questionKey, questionKey, CacheKey.mk.injEq, dottedName_eq_iff firstUtf8 secondUtf8]
  constructor
  · intro identifies samePieces sameType
    apply identifies _ firstKey
    rw [secondKey, sameKey_iff.mpr ⟨samePieces, sameType⟩]
  · intro settled key firstEq secondEq
    rw [firstKey, Except.ok.injEq, Option.some.injEq] at firstEq
    rw [secondKey, Except.ok.injEq, Option.some.injEq] at secondEq
    rcases sameKey_iff.mp (firstEq.trans secondEq.symm) with ⟨samePieces, sameType⟩
    exact settled samePieces sameType

/-- Two queries are told apart by their keys exactly when they do not clash in
their class, in where a dot stands, or in a case pair outside ASCII.  Without
dots inside labels the second cannot happen, with ASCII labels the third. -/
theorem keyIdentifies_iff (ucd : UnicodeData) (first second : Query)
    (firstUtf8 : ∀ label ∈ first.question.labels, label.IsUtf8)
    (secondUtf8 : ∀ label ∈ second.question.labels, label.IsUtf8) :
    (KeyIdentifies ucd first second ↔
      ¬ ClassClash ucd first.question second.question ∧
        ¬ BoundaryClash ucd first.question second.question ∧
          ¬ CaseClash ucd first.question second.question) ∧
    ((∀ label ∈ first.question.labels ++ second.question.labels, 0x2E ∉ label.bytes) →
      ¬ BoundaryClash ucd first.question second.question) ∧
    ((∀ label ∈ first.question.labels ++ second.question.labels, IsAscii label.bytes) →
      ¬ CaseClash ucd first.question second.question) := by
  rw [keyIdentifies_iff_pieces firstUtf8 secondUtf8]
  refine ⟨?_, ?_, ?_⟩
  · constructor
    · intro settled
      refine ⟨?_, ?_, ?_⟩
      · rintro ⟨samePieces, sameType, otherClass⟩
        exact otherClass (settled samePieces sameType).2.2
      · rintro ⟨samePieces, sameType, otherLabels, _⟩
        exact otherLabels (settled samePieces sameType).1
      · rintro ⟨sameLabels, sameType, otherLabels⟩
        have samePieces : pieces ucd first.question = pieces ucd second.question := by
          rw [pieces, pieces, sameLabels]
        exact otherLabels (settled samePieces sameType).1
    · rintro ⟨noClass, noBoundary, noCase⟩ samePieces sameType
      refine ⟨?_, sameType, ?_⟩
      · by_contra otherLabels
        by_cases sameLower : lowerLabels ucd first.question = lowerLabels ucd second.question
        · exact noCase ⟨sameLower, sameType, otherLabels⟩
        · exact noBoundary ⟨samePieces, sameType, otherLabels, sameLower⟩
      · by_contra otherClass
        exact noClass ⟨samePieces, sameType, otherClass⟩
  · intro dotFree
    rw [List.forall_mem_append] at dotFree
    exact not_boundaryClash firstUtf8 secondUtf8 dotFree.1 dotFree.2
  · intro ascii
    rw [List.forall_mem_append] at ascii
    exact not_caseClash ascii.1 ascii.2

/-- A query for the addresses of a name. -/
def bareQuery (labels : List Label) (qclass : UInt16) : Query :=
  Query.standard 0 ⟨labels, 1, qclass⟩

/-- One label that spells two labels and the dot between them. -/
def labelDot : Label := ⟨[0x61, 0x2E, 0x62], by decide, by decide⟩

theorem keyIdentifies_iff_bare :
    KeyIdentifies .ascii (bareQuery [labelA, labelB] 1) (bareQuery [labelA] 1) :=
  (keyIdentifies_iff .ascii (bareQuery [labelA, labelB] 1) (bareQuery [labelA] 1) (by decide)
    (by decide)).1.mpr
    ⟨fun clash => absurd clash.1 (by decide), fun clash => absurd clash.1 (by decide),
      fun clash => absurd clash.1 (by decide)⟩

/-- The internet class and the chaos class share a key, and so do the names of
two labels and of one label with a dot. -/
theorem keyIdentifies_clashes :
    ¬ KeyIdentifies .ascii (bareQuery [labelA] 1) (bareQuery [labelA] 3) ∧
      ¬ KeyIdentifies .ascii (bareQuery [labelA, labelB] 1) (bareQuery [labelDot] 1) := by
  constructor
  · intro identifies
    have same := identifies ⟨['a'], 1⟩ (by decide +kernel) (by decide +kernel)
    exact absurd same (by decide)
  · intro identifies
    have same := identifies ⟨['a', '.', 'b'], 1⟩ (by decide +kernel) (by decide +kernel)
    exact absurd same (by decide)

end DnsHijacker.Shared
