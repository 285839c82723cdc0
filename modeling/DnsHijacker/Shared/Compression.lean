import DnsHijacker.Shared.Dns.MessageSpec
import DnsHijacker.Shared.DomainTrie

/-!
# Compressed names and the rules

The rules see the text that `parse_domain` makes of a name.  This file settles
for which encodings that text is the name: those whose labels all stand in one
run.  Where a run of labels meets a pointer to more labels the dot between them
is missing, and a pointer to something that is no name is silently dropped.
-/

namespace DnsHijacker.Shared

open DnsHijacker.Rust
open DnsHijacker.Library
open DnsHijacker.Wire
open DnsHijacker.Shared.Dns
open StateTransition

variable {ucd : UnicodeData}

/-! ## The text of a name and the text of its runs -/

/-- At most one run of an encoding has labels. -/
def SingleRun (runs : List (List Label)) : Prop :=
  (runs.filter (!·.isEmpty)).length ≤ 1

instance (runs : List (List Label)) : Decidable (SingleRun runs) :=
  inferInstanceAs (Decidable (_ ≤ _))

theorem spelledName_cons (run : List Label) (runs : List (List Label)) :
    spelledName ucd (run :: runs) = dottedName ucd run ++ spelledName ucd runs :=
  rfl

theorem spelledName_of_flatten_eq_nil {runs : List (List Label)} (empty : runs.flatten = []) :
    spelledName ucd runs = [] := by
  rw [List.flatten_eq_nil_iff] at empty
  rw [spelledName, List.flatMap_eq_nil_iff]
  intro run mem
  rw [empty run mem]
  rfl

/-- A spelled name is never longer than the name. -/
theorem length_spelledName_le (ucd : UnicodeData) (runs : List (List Label)) :
    (spelledName ucd runs).length ≤ (dottedName ucd runs.flatten).length := by
  induction runs with
  | nil => exact Nat.le_refl _
  | cons run runs ih =>
      rw [spelledName_cons, List.flatten_cons]
      by_cases runEmpty : run = []
      · rw [runEmpty]
        exact ih
      · by_cases restEmpty : runs.flatten = []
        · rw [spelledName_of_flatten_eq_nil restEmpty, restEmpty, List.append_nil, List.append_nil]
        · rw [dottedName_append runEmpty restEmpty, List.length_append, List.length_append,
            List.length_cons]
          omega

/-- A spelled name is the name exactly when no dot is missing. -/
theorem spelledName_eq_iff (ucd : UnicodeData) (runs : List (List Label)) :
    spelledName ucd runs = dottedName ucd runs.flatten ↔ SingleRun runs := by
  induction runs with
  | nil => simp [SingleRun, spelledName, dottedName]
  | cons run runs ih =>
      rw [spelledName_cons, List.flatten_cons, SingleRun]
      by_cases runEmpty : run = []
      · simpa [runEmpty, SingleRun, dottedName] using ih
      · by_cases restEmpty : runs.flatten = []
        · have noMore : runs.filter (!·.isEmpty) = [] := by
            rw [List.filter_eq_nil_iff]
            intro other mem
            simp [List.flatten_eq_nil_iff.mp restEmpty other mem]
          rw [spelledName_of_flatten_eq_nil restEmpty, restEmpty, List.append_nil,
            List.append_nil, List.filter_cons_of_pos (by simpa using runEmpty), noMore]
          simp
        · have shorter : (dottedName ucd run ++ spelledName ucd runs).length <
              (dottedName ucd (run ++ runs.flatten)).length := by
            have le := length_spelledName_le ucd runs
            rw [dottedName_append runEmpty restEmpty, List.length_append, List.length_append,
              List.length_cons]
            omega
          have another : ∃ other ∈ runs, other ≠ [] := by
            by_contra none_left
            push Not at none_left
            exact restEmpty (List.flatten_eq_nil_iff.mpr none_left)
          rcases another with ⟨other, mem, otherNonempty⟩
          have otherMem : other ∈ runs.filter (!·.isEmpty) :=
            List.mem_filter.mpr ⟨mem, by simpa using otherNonempty⟩
          have two : 0 < (runs.filter (!·.isEmpty)).length := List.length_pos_of_mem otherMem
          rw [List.filter_cons_of_pos (by simpa using runEmpty), List.length_cons]
          constructor
          · intro same
            rw [same] at shorter
            exact absurd shorter (Nat.lt_irrefl _)
          · intro single
            omega

/-! ## Names of plain labels -/

/-- The lower-case labels of a name of ASCII labels, joined by dots. -/
def plainName (labels : List Label) : Text :=
  List.intercalate ['.'] (labels.map fun label => label.bytes.map fun byte =>
    asciiChar (toAsciiLowercase byte))

theorem dottedName_plain {labels : List Label} (plain : ∀ label ∈ labels, label.IsPlain) :
    dottedName ucd labels = plainName labels := by
  rw [dottedName, plainName]
  congr 1
  exact List.map_congr_left fun label mem => toLowercase_text_of_isAscii ucd (plain label mem).1

/-- All labels of an encoding are plain. -/
def PlainRuns (runs : List (List Label)) : Prop :=
  ∀ run ∈ runs, ∀ label ∈ run, label.IsPlain

instance (runs : List (List Label)) : Decidable (PlainRuns runs) :=
  inferInstanceAs (Decidable (∀ run ∈ runs, ∀ label ∈ run, label.IsPlain))

theorem PlainRuns.flatten {runs : List (List Label)} (plain : PlainRuns runs) :
    ∀ label ∈ runs.flatten, label.IsPlain := by
  intro label mem
  rcases List.mem_flatten.mp mem with ⟨run, runMem, labelMem⟩
  exact plain run runMem label labelMem

/-! ## Pointers to something that is no name -/

/-- Reading from the offset never comes to the end of a name. -/
def Unreadable (payload : Bytes) (offset : Nat) : Prop :=
  ¬ ∃ last, Reaches (continuesAt payload) offset last ∧ nameToken payload last = .root

/-- The name at the offset leads through a pointer to something unreadable. -/
def PointsToUnreadable (payload : Bytes) (offset : Nat) : Prop :=
  ∃ pointer target, Reaches (continuesAt payload) offset pointer ∧
    nameToken payload pointer = .pointer target ∧ Unreadable payload target

/-- A reader that comes to a pointer never reports an unreadable name. -/
theorem parseDomainFrom_ne_none {payload : Bytes} {fuel offset : Nat} {domain : Text}
    {pointer : Nat} (reaches : Reaches (continuesAt payload) offset pointer)
    (isPointer : IsPointer payload pointer) :
    parseDomainFrom ucd payload fuel offset domain ≠ .ok none := by
  rcases isPointer with ⟨target, pointerToken⟩
  induction fuel generalizing offset domain with
  | zero => simp [parseDomainFrom]
  | succ fuel ih =>
      rw [parseDomainFrom_succ]
      cases token : nameToken payload offset with
      | pointer other =>
          cases inner : parseDomainFrom ucd payload fuel other [] with
          | error fault => simp [inner, Except.map]
          | ok value => simp [inner, Except.map]
      | malformed =>
          rcases reaches.cases_head with rfl | ⟨next, step, _⟩
          · rw [token] at pointerToken
            contradiction
          · simp [continuesAt, token] at step
      | root => simp
      | label text next =>
          rcases reaches.cases_head with rfl | ⟨after, step, rest⟩
          · rw [token] at pointerToken
            contradiction
          · have same : next = after := by simpa [continuesAt, token] using step
            exact ih (same ▸ rest)

/-! ## When a name is read as it is written -/

/-- The rule decision for the name at an offset. -/
def decisionAt (ucd : UnicodeData) (payload : Bytes) (offset : Nat) (trie : DomainTrie) :
    Exec (Option RuleMatch) :=
  (parseDomain ucd payload offset).map
    (Option.map fun parsed => checkRules ucd parsed.1 trie)

/-- What a reader of names owes at an offset: the name of every encoding there,
the decision for that name, and a refusal where a pointer leads nowhere. -/
structure ReadsName (ucd : UnicodeData) (payload : Bytes) (offset : Nat) : Prop where
  encoded : ∀ runs stop, NameAt payload offset runs stop →
    PlainRuns runs →
      parseDomain ucd payload offset = .ok (some (plainName runs.flatten, stop))
  decided : ∀ runs stop, NameAt payload offset runs stop →
    PlainRuns runs →
      ∀ trie, decisionAt ucd payload offset trie =
        .ok (some (checkRules ucd (plainName runs.flatten) trie))
  refused : PointsToUnreadable payload offset → parseDomain ucd payload offset = .ok none

theorem parseDomain_plain {payload : Bytes} {offset stop : Nat} {runs : List (List Label)}
    (nameAt : NameAt payload offset runs stop)
    (plain : PlainRuns runs) :
    parseDomain ucd payload offset = .ok (some (spelledName ucd runs, stop)) :=
  parseDomain_nameAt nameAt fun run runMem label mem =>
    Label.isUtf8_of_isAscii (plain run runMem label mem).1

/-- Names are read as they are written exactly where every encoding has all its
labels in one run and no pointer leads to something unreadable. -/
theorem readsName_iff (ucd : UnicodeData) (payload : Bytes) (offset : Nat) :
    ReadsName ucd payload offset ↔
      (∀ runs stop, NameAt payload offset runs stop →
        PlainRuns runs → SingleRun runs) ∧
      ¬ PointsToUnreadable payload offset := by
  constructor
  · intro reads
    constructor
    · intro runs stop nameAt plain
      have plainFlat := plain.flatten
      have read := reads.encoded runs stop nameAt plain
      rw [parseDomain_plain nameAt plain, ← dottedName_plain plainFlat] at read
      rw [← spelledName_eq_iff ucd]
      simpa using read
    · intro pointsTo
      have refused := reads.refused pointsTo
      rcases pointsTo with ⟨pointer, target, reaches, token, _⟩
      exact parseDomainFrom_ne_none reaches ⟨target, token⟩ refused
  · rintro ⟨single, readable⟩
    have encoded : ∀ runs stop, NameAt payload offset runs stop →
        PlainRuns runs →
          parseDomain ucd payload offset = .ok (some (plainName runs.flatten, stop)) := by
      intro runs stop nameAt plain
      have plainFlat := plain.flatten
      rw [parseDomain_plain nameAt plain,
        (spelledName_eq_iff ucd runs).mpr (single runs stop nameAt plain), dottedName_plain plainFlat]
    refine ⟨encoded, ?_, fun pointsTo => absurd pointsTo readable⟩
    intro runs stop nameAt plain trie
    rw [decisionAt, encoded runs stop nameAt plain]
    rfl

/-- A query for `a.b`: the label `a` is followed by a pointer to the name `b` of
the record in the additional section. -/
def compressedQuery : Bytes :=
  [0x12, 0x34, 0x01, 0x00, 0, 1, 0, 0, 0, 0, 0, 1] ++ [0x01, 0x61, 0xC0, 0x14] ++ [0, 1, 0, 1] ++
    [0x01, 0x62, 0x00] ++ [0x00, 0xFA, 0x00, 0xFF, 0, 0, 0, 0, 0, 0]

/-- The same query with its pointer past the end of the message. -/
def danglingQuery : Bytes :=
  compressedQuery.set 15 0xFF

/-- The query for `a.b` is read as one for `ab` and passes a rule that drops
`a.b`; the query with a dangling pointer is read as one for `a`. -/
theorem compressedQuery_misread :
    (decisionAt .ascii compressedQuery 12 (DomainTrie.build .ascii (fun _ => none)
        ["a.b".toList] []) = .ok (some .none) ∧
      checkRules .ascii "a.b".toList (DomainTrie.build .ascii (fun _ => none)
        ["a.b".toList] []) = .drop ∧
      ¬ ReadsName .ascii compressedQuery 12) ∧
    PointsToUnreadable danglingQuery 12 ∧
      parseDomain .ascii danglingQuery 12 = .ok (some (['a'], 16)) := by
  have readAs : parseDomain .ascii compressedQuery 12 = .ok (some ("ab".toList, 16)) := by
    decide +kernel
  have nameAt : NameAt compressedQuery 12
      [[labelA], [labelB]] 16 :=
    .label (by decide) (.pointer (by decide : Occurs compressedQuery 14 (pointerBytes 20))
      (by decide) (.label (by decide) (.root (by decide))))
  refine ⟨⟨by decide +kernel, by decide +kernel, ?_⟩, ?_, by decide +kernel⟩
  · intro reads
    have read := reads.encoded _ _ nameAt (by decide +kernel)
    rw [readAs] at read
    exact absurd read (by decide)
  · have first : nameToken danglingQuery 12 = .label ['a'] 14 := by decide +kernel
    have second : nameToken danglingQuery 14 = .pointer 255 := by decide +kernel
    have target : nameToken danglingQuery 255 = .malformed := by decide +kernel
    refine ⟨14, 255, .single (by simp [continuesAt, first]), second, ?_⟩
    rintro ⟨last, reaches, root⟩
    rcases reaches.cases_head with rfl | ⟨next, step, _⟩
    · rw [target] at root
      contradiction
    · simp [continuesAt, target] at step

end DnsHijacker.Shared
