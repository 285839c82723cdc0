import DnsHijacker.Rust.Bytes
import Mathlib.Data.List.DropRight

/-!
# Strings

A `String` or `&str` of the program is the list of its characters.  Splitting
and trimming use the list library: `split` is `List.splitOn`, `rsplit` its
reverse, `trim_end_matches` is `List.rdropWhile`.

UTF-8 validation is the decoder of Lean's own `ByteArray`, which rejects what
`std::str::from_utf8` rejects.
-/

namespace DnsHijacker.Rust

abbrev Text := List Char

instance : LawfulBEq Text :=
  List.instLawfulBEq

/-! ## UTF-8 -/

/-- `str::as_bytes` -/
def toUtf8 (text : Text) : Bytes :=
  text.flatMap String.utf8EncodeChar

/-- `std::str::from_utf8` -/
def fromUtf8 (bytes : Bytes) : Option Text :=
  bytes.toByteArray.utf8Decode?.map Array.toList

theorem fromUtf8_toUtf8 (text : Text) : fromUtf8 (toUtf8 text) = some text := by
  have decoded : (toUtf8 text).toByteArray.utf8Decode? = some text.toArray :=
    List.utf8Decode?_utf8Encode
  rw [fromUtf8, decoded]
  rfl

/-- Decoding succeeds on encoded texts only. -/
theorem fromUtf8_eq_some_iff {bytes : Bytes} {text : Text} :
    fromUtf8 bytes = some text ↔ bytes = toUtf8 text := by
  constructor
  · intro decoded
    obtain ⟨chars, charsEq, rfl⟩ := Option.map_eq_some_iff.mp decoded
    have valid : bytes.toByteArray.utf8Decode?.isSome := by simp [charsEq]
    have encoded := ByteArray.utf8Encode_get_utf8Decode? (h := valid)
    simp only [charsEq, Option.get_some] at encoded
    exact List.toByteArray_inj.mp encoded.symm
  · rintro rfl
    exact fromUtf8_toUtf8 text

/-- What may follow a lead byte: the bounds of the second byte, and how many bytes more. -/
def following (lead : UInt8) : Option (UInt8 × UInt8 × Nat) :=
  if 0xC2 ≤ lead ∧ lead ≤ 0xDF then some (0x80, 0xBF, 0)
  else if lead = 0xE0 then some (0xA0, 0xBF, 1)
  else if lead = 0xED then some (0x80, 0x9F, 1)
  else if 0xE1 ≤ lead ∧ lead ≤ 0xEF then some (0x80, 0xBF, 1)
  else if lead = 0xF0 then some (0x90, 0xBF, 2)
  else if lead = 0xF4 then some (0x80, 0x8F, 2)
  else if 0xF1 ≤ lead ∧ lead ≤ 0xF3 then some (0x80, 0xBF, 2)
  else none

/-- Where no character begins: how many bytes behind the first are replaced together with it.  They
are those with which a character might have gone on. -/
def malformedRest (lead : UInt8) : Bytes → Nat
  | [] => 0
  | second :: rest =>
      match following lead with
      | none => 0
      | some (low, high, more) =>
          if low ≤ second ∧ second ≤ high then
            1 + ((rest.take (more - 1)).takeWhile fun byte => 0x80 ≤ byte ∧ byte ≤ 0xBF).length
          else 0

/-- `String::from_utf8_lossy` -/
def fromUtf8Lossy : Bytes → Text
  | [] => []
  | byte :: rest =>
      match (byte :: rest).toByteArray.utf8DecodeChar? 0 with
      | some c => c :: fromUtf8Lossy (rest.drop (c.utf8Size - 1))
      | none => '\uFFFD' :: fromUtf8Lossy (rest.drop (malformedRest byte rest))
termination_by bytes => bytes.length
decreasing_by
  all_goals
    rw [List.length_drop, List.length_cons]
    omega

/-- Nothing is replaced in an encoded text. -/
theorem fromUtf8Lossy_toUtf8 (text : Text) : fromUtf8Lossy (toUtf8 text) = text := by
  induction text with
  | nil => rw [toUtf8, List.flatMap_nil, fromUtf8Lossy]
  | cons c text ih =>
      have size : (String.utf8EncodeChar c).length = c.utf8Size := String.length_utf8EncodeChar c
      cases encoded : String.utf8EncodeChar c with
      | nil =>
          rw [encoded] at size
          exact absurd size.symm (Nat.ne_of_gt c.utf8Size_pos)
      | cons byte bytes =>
          have sequence : toUtf8 (c :: text) = byte :: (bytes ++ toUtf8 text) := by
            rw [toUtf8, List.flatMap_cons, encoded]
            rfl
          have decoded : (byte :: (bytes ++ toUtf8 text)).toByteArray.utf8DecodeChar? 0 = some c := by
            rw [← List.cons_append, ← encoded, List.toByteArray_append]
            exact ByteArray.utf8DecodeChar?_utf8EncodeChar_append
          rw [encoded, List.length_cons] at size
          rw [sequence, fromUtf8Lossy, decoded]
          simp only [← size, Nat.add_sub_cancel, List.drop_left, ih]

/-- The character of an ASCII byte. -/
def asciiChar (byte : UInt8) : Char :=
  Char.ofNat byte.toNat

/-- Bytes below 128. -/
def IsAscii (bytes : Bytes) : Prop :=
  ∀ byte ∈ bytes, byte < 128

instance (bytes : Bytes) : Decidable (IsAscii bytes) :=
  inferInstanceAs (Decidable (∀ byte ∈ bytes, byte < 128))

theorem asciiChar_toNat {byte : UInt8} (ascii : byte < 128) :
    (asciiChar byte).toNat = byte.toNat := by
  have small : byte.toNat < 128 := ascii
  have valid : byte.toNat.isValidChar := by left; omega
  have built : asciiChar byte = Char.ofNatAux byte.toNat valid := dif_pos valid
  rw [built]
  rfl

theorem utf8EncodeChar_asciiChar {byte : UInt8} (ascii : byte < 128) :
    String.utf8EncodeChar (asciiChar byte) = [byte] := by
  have small : byte.toNat < 128 := ascii
  have code := asciiChar_toNat ascii
  have size : (asciiChar byte).utf8Size = 1 := by
    rw [Char.utf8Size_eq_one_iff, UInt32.le_iff_toNat_le]
    change (asciiChar byte).toNat ≤ 127
    omega
  rw [String.utf8EncodeChar_eq_singleton size]
  congr 1
  apply UInt8.toNat_inj.mp
  rw [UInt32.toNat_toUInt8]
  change (asciiChar byte).toNat % 256 = _
  omega

/-- An ASCII byte only stands in the encoding of its own character. -/
theorem toNat_eq_of_mem_utf8EncodeChar {c : Char} {byte : UInt8}
    (mem : byte ∈ String.utf8EncodeChar c) (ascii : byte < 128) : c.toNat = byte.toNat := by
  have small : byte.toNat < 128 := ascii
  have whole : c.toNat = c.val.toNat := rfl
  simp only [String.utf8EncodeChar] at mem
  split at mem
  · rw [List.mem_singleton.mp mem, UInt8.toNat_ofNat']
    omega
  all_goals
    exfalso
    split at mem
  · simp only [List.mem_cons, List.not_mem_nil, or_false] at mem
    rcases mem with rfl | rfl <;> rw [UInt8.toNat_ofNat'] at small <;> omega
  · split at mem
    · simp only [List.mem_cons, List.not_mem_nil, or_false] at mem
      rcases mem with rfl | rfl | rfl <;> rw [UInt8.toNat_ofNat'] at small <;> omega
    · simp only [List.mem_cons, List.not_mem_nil, or_false] at mem
      rcases mem with rfl | rfl | rfl | rfl <;> rw [UInt8.toNat_ofNat'] at small <;> omega

theorem toUtf8_map_asciiChar {bytes : Bytes} (ascii : IsAscii bytes) :
    toUtf8 (bytes.map asciiChar) = bytes := by
  induction bytes with
  | nil => rfl
  | cons byte bytes ih =>
      rw [IsAscii, List.forall_mem_cons] at ascii
      simp only [toUtf8, List.map_cons, List.flatMap_cons, utf8EncodeChar_asciiChar ascii.1]
      exact congrArg (byte :: ·) (ih ascii.2)

/-- ASCII bytes decode one by one. -/
theorem fromUtf8_ascii {bytes : Bytes} (ascii : IsAscii bytes) :
    fromUtf8 bytes = some (bytes.map asciiChar) :=
  fromUtf8_eq_some_iff.mpr (toUtf8_map_asciiChar ascii).symm

theorem fromUtf8_eq_some_nil_iff {bytes : Bytes} : fromUtf8 bytes = some [] ↔ bytes = [] := by
  rw [fromUtf8_eq_some_iff]
  rfl

/-- `u8::to_ascii_lowercase` -/
def toAsciiLowercase (byte : UInt8) : UInt8 :=
  if 0x41 ≤ byte ∧ byte ≤ 0x5A then byte + 0x20 else byte

/-- On ASCII bytes the lower case of the byte is that of its character. -/
theorem toLower_asciiChar {byte : UInt8} (ascii : byte < 128) :
    (asciiChar byte).toLower = asciiChar (toAsciiLowercase byte) := by
  have table : ∀ code : Fin 128, (Char.ofNat code).toLower =
      asciiChar (toAsciiLowercase (UInt8.ofNat code)) := by decide
  have small : byte.toNat < 128 := ascii
  have here := table ⟨byte.toNat, small⟩
  rwa [UInt8.ofNat_toNat] at here

theorem toAsciiLowercase_lt {byte : UInt8} (ascii : byte < 128) : toAsciiLowercase byte < 128 := by
  have table : ∀ code : Fin 128, toAsciiLowercase (UInt8.ofNat code) < 128 := by decide
  have small : byte.toNat < 128 := ascii
  have here := table ⟨byte.toNat, small⟩
  rwa [UInt8.ofNat_toNat] at here

/-- The dot of a decoded text is the byte `0x2E`. -/
theorem dot_not_mem_of_fromUtf8 {bytes : Bytes} {text : Text}
    (decoded : fromUtf8 bytes = some text) (dotFree : 0x2E ∉ bytes) : '.' ∉ text := by
  intro mem
  rw [fromUtf8_eq_some_iff] at decoded
  apply dotFree
  rw [decoded, toUtf8, List.mem_flatMap]
  exact ⟨'.', mem, by decide⟩

/-! ## Splitting and trimming -/

/-- `text.trim_end_matches(sep)` -/
def trimEndMatches (sep : Char) (text : Text) : Text :=
  text.rdropWhile (· = sep)

/-- `text.rsplit(sep)`: the pieces, last piece first. -/
def rsplit (sep : Char) (text : Text) : List Text :=
  (text.splitOn sep).reverse

/-- `text.strip_prefix(lead)` -/
def stripPrefix (lead text : Text) : Option Text :=
  if lead <+: text then some (text.drop lead.length) else none

/-- `text.split_once(sep)` -/
def splitOnce (sep : Char) : Text → Option (Text × Text)
  | [] => none
  | c :: rest =>
      if c = sep then some ([], rest)
      else (splitOnce sep rest).map fun (before, after) => (c :: before, after)

theorem splitOnce_append {sep : Char} {before : Text} (absent : sep ∉ before) (after : Text) :
    splitOnce sep (before ++ sep :: after) = some (before, after) := by
  induction before with
  | nil => rw [List.nil_append, splitOnce, if_pos rfl]
  | cons c before ih =>
      rw [List.mem_cons, not_or] at absent
      rw [List.cons_append, splitOnce, if_neg (Ne.symm absent.1), ih absent.2, Option.map_some]

/-- `char::is_whitespace`: the characters with the property White_Space. -/
def isWhitespace (c : Char) : Bool :=
  let code := c.toNat
  (9 ≤ code && code ≤ 13) || code == 0x20 || code == 0x85 || code == 0xA0 || code == 0x1680 ||
    (0x2000 ≤ code && code ≤ 0x200A) || code == 0x2028 || code == 0x2029 || code == 0x202F ||
    code == 0x205F || code == 0x3000

/-- `text.trim()` -/
def trim (text : Text) : Text :=
  (text.dropWhile isWhitespace).rdropWhile isWhitespace

/-- `text.split_whitespace().next()` -/
def firstWord (text : Text) : Option Text :=
  match (text.dropWhile isWhitespace).takeWhile (!isWhitespace ·) with
  | [] => none
  | word => some word

/-- `text.lines()`: a line ends at `\n` or `\r\n`; the last one may lack its
line ending, and an empty last piece is no line. -/
def lines (text : Text) : List Text :=
  let pieces := text.splitOn '\n'
  let ended := pieces.dropLast.map fun line =>
    if line.getLast? = some '\r' then line.dropLast else line
  match pieces.getLast? with
  | none | some [] => ended
  | some last => ended ++ [last]

/-- Every piece of a join but the first follows a separator. -/
theorem intercalate_cons (sep first : Text) (rest : List Text) :
    sep.intercalate (first :: rest) = first ++ rest.flatMap (sep ++ ·) := by
  induction rest generalizing first with
  | nil => simp
  | cons second rest ih =>
      rw [List.intercalate_cons_cons, ih second, List.flatMap_cons]
      simp only [List.append_assoc]

/-- A join of two lists is the joins with a separator between them. -/
theorem intercalate_append (sep : Text) {first second : List Text} (firstNonempty : first ≠ [])
    (secondNonempty : second ≠ []) :
    sep.intercalate (first ++ second) =
      sep.intercalate first ++ (sep ++ sep.intercalate second) := by
  cases first with
  | nil => contradiction
  | cons piece first =>
      cases second with
      | nil => contradiction
      | cons next second =>
          rw [List.cons_append, intercalate_cons, intercalate_cons, intercalate_cons,
            List.flatMap_append, List.flatMap_cons]
          simp only [List.append_assoc]

/-- Splitting a join splits its pieces. -/
theorem splitOn_intercalate_flatMap {sep : Char} {pieces : List Text} (nonempty : pieces ≠ []) :
    (List.intercalate [sep] pieces).splitOn sep = pieces.flatMap (List.splitOn sep) := by
  induction pieces with
  | nil => contradiction
  | cons first rest ih =>
      cases rest with
      | nil => simp
      | cons second rest =>
          rw [List.intercalate_cons_cons, List.append_assoc, List.singleton_append,
            List.splitOn_append_cons_self, ih (List.cons_ne_nil _ _)]
          rfl

theorem splitOn_injective (sep : Char) : Function.Injective (List.splitOn sep) := by
  intro first second eq
  calc
    first = List.intercalate [sep] (first.splitOn sep) := (List.intercalate_splitOn sep).symm
    _ = List.intercalate [sep] (second.splitOn sep) := by rw [eq]
    _ = second := List.intercalate_splitOn sep

theorem splitOn_append_of_not_mem {α : Type} [BEq α] [LawfulBEq α] {sep : α} {front : List α}
    (absent : sep ∉ front) (rest : List α) :
    (front ++ rest).splitOn sep = (rest.splitOn sep).modifyHead (front ++ ·) := by
  induction front with
  | nil =>
      obtain ⟨piece, pieces, split⟩ := List.exists_cons_of_ne_nil (List.splitOn_ne_nil sep rest)
      rw [List.nil_append, split]
      rfl
  | cons item front ih =>
      rw [List.mem_cons, not_or] at absent
      have differ : (item == sep) = false := beq_eq_false_iff_ne.mpr (Ne.symm absent.1)
      rw [List.cons_append, List.splitOn_cons_eq_if_modifyHead, if_neg (by simp [differ]),
        ih absent.2, List.modifyHead_modifyHead]
      rfl

/-- Splitting the bytes of a text at an ASCII byte splits the text at its character. -/
theorem splitOn_toUtf8 {sep : UInt8} (ascii : sep < 128) (text : Text) :
    (toUtf8 text).splitOn sep = (text.splitOn (asciiChar sep)).map toUtf8 := by
  induction text with
  | nil => rfl
  | cons c text ih =>
      have encoded : toUtf8 (c :: text) = String.utf8EncodeChar c ++ toUtf8 text := rfl
      rw [encoded, List.splitOn_cons_eq_if_modifyHead]
      by_cases same : c = asciiChar sep
      · rw [same, utf8EncodeChar_asciiChar ascii, List.singleton_append,
          List.splitOn_cons_eq_if_modifyHead, if_pos (beq_self_eq_true _),
          if_pos (beq_self_eq_true _), ih]
        rfl
      · have absent : sep ∉ String.utf8EncodeChar c := by
          intro mem
          apply same
          apply Char.toNat_inj.mp
          rw [toNat_eq_of_mem_utf8EncodeChar mem ascii, asciiChar_toNat ascii]
        rw [splitOn_append_of_not_mem absent, ih, if_neg (by simpa using same)]
        cases text.splitOn (asciiChar sep) with
        | nil => rfl
        | cons piece pieces => rfl

theorem rsplit_ne_nil (sep : Char) (text : Text) : rsplit sep text ≠ [] := by
  simp [rsplit, List.splitOn_ne_nil]

/-- The pieces of a text are the last pieces of another one exactly if the text
stands at its end, after a separator if there is more. -/
theorem rsplit_isPrefix_iff {sep : Char} {suffix text : Text} :
    rsplit sep suffix <+: rsplit sep text ↔
      text = suffix ∨ ∃ lead, text = lead ++ sep :: suffix := by
  rw [rsplit, rsplit, List.reverse_prefix]
  constructor
  · rintro ⟨front, split⟩
    by_cases none : front = []
    · rw [none, List.nil_append] at split
      exact .inl (splitOn_injective sep split.symm)
    · right
      use List.intercalate [sep] front
      calc
        text = List.intercalate [sep] (text.splitOn sep) := (List.intercalate_splitOn sep).symm
        _ = List.intercalate [sep] (front ++ suffix.splitOn sep) := by rw [split]
        _ = List.intercalate [sep] front ++
            ([sep] ++ List.intercalate [sep] (suffix.splitOn sep)) :=
          intercalate_append [sep] none (List.splitOn_ne_nil sep suffix)
        _ = List.intercalate [sep] front ++ sep :: suffix := by
          rw [List.intercalate_splitOn]
          rfl
  · rintro (rfl | ⟨lead, rfl⟩)
    · exact List.suffix_rfl
    · rw [List.splitOn_append_cons_self]
      exact List.suffix_append _ _

theorem trimEndMatches_eq_self {sep : Char} {text : Text}
    (last : ∀ nonempty : text ≠ [], text.getLast nonempty ≠ sep) :
    trimEndMatches sep text = text := by
  rw [trimEndMatches, List.rdropWhile_eq_self_iff]
  intro nonempty
  simpa using last nonempty

/-! ## Words and lines -/

/-- `text.split_whitespace()` -/
def splitWhitespace (text : Text) : List Text :=
  (text.splitOnP isWhitespace).filter (· ≠ [])

/-- A text that `split_whitespace` gives as one piece. -/
def IsWord (text : Text) : Prop :=
  text ≠ [] ∧ ∀ c ∈ text, isWhitespace c = false

instance (text : Text) : Decidable (IsWord text) :=
  have := List.decidableBAll (isWhitespace · = false) text
  inferInstanceAs (Decidable (text ≠ [] ∧ ∀ c ∈ text, isWhitespace c = false))

theorem isWhitespace_false_of_mem_splitOnP {text piece : Text}
    (mem : piece ∈ text.splitOnP isWhitespace) : ∀ c ∈ piece, isWhitespace c = false := by
  induction text generalizing piece with
  | nil =>
      cases List.mem_singleton.mp mem
      simp
  | cons first rest ih =>
      rw [List.splitOnP_cons_eq_if_modifyHead] at mem
      obtain ⟨head, tail, split⟩ := List.exists_cons_of_ne_nil
        (List.splitOnP_ne_nil isWhitespace rest)
      rw [split] at ih mem
      split at mem
      · rcases List.mem_cons.mp mem with rfl | later
        · simp
        · exact ih later
      · rename_i space
        rw [List.modifyHead_cons] at mem
        rcases List.mem_cons.mp mem with rfl | later
        · rw [List.forall_mem_cons]
          exact ⟨by simpa using space, ih List.mem_cons_self⟩
        · exact ih (List.mem_cons_of_mem _ later)

theorem isWord_of_mem_splitWhitespace {text word : Text} (mem : word ∈ splitWhitespace text) :
    IsWord word := by
  rw [splitWhitespace, List.mem_filter] at mem
  constructor
  · simpa using mem.2
  · exact isWhitespace_false_of_mem_splitOnP mem.1

/-- Words joined by spaces are split again. -/
theorem splitWhitespace_words {first : Text} {rest : List Text} (isWord : IsWord first)
    (areWords : ∀ word ∈ rest, IsWord word) :
    splitWhitespace (first ++ rest.flatMap (' ' :: ·)) = first :: rest := by
  induction rest generalizing first with
  | nil =>
      rw [List.flatMap_nil, List.append_nil, splitWhitespace,
        List.splitOnP_eq_singleton isWord.2]
      simp [isWord.1]
  | cons second rest ih =>
      rw [List.forall_mem_cons] at areWords
      have later := ih areWords.1 areWords.2
      rw [splitWhitespace] at later
      rw [List.flatMap_cons, List.cons_append, splitWhitespace,
        List.splitOnP_append_cons_of_forall_mem isWord.2 ' ' rfl, List.filter_cons_of_pos, later]
      simpa using isWord.1

/-- Lines written one by one are read again. -/
theorem lines_flatMap {texts : List Text} (oneLine : ∀ line ∈ texts, '\n' ∉ line)
    (noReturn : ∀ line ∈ texts, line.getLast? ≠ some '\r') :
    lines (texts.flatMap (· ++ ['\n'])) = texts := by
  have split : (texts.flatMap (· ++ ['\n'])).splitOn '\n' = texts ++ [[]] := by
    clear noReturn
    induction texts with
    | nil => rfl
    | cons line texts ih =>
        rw [List.forall_mem_cons] at oneLine
        rw [List.flatMap_cons, List.append_assoc, List.singleton_append,
          List.splitOn_append_cons_self_of_not_mem oneLine.1, ih oneLine.2, List.cons_append]
  have kept : ∀ line ∈ texts,
      (if line.getLast? = some '\r' then line.dropLast else line) = line := by
    intro line mem
    rw [if_neg (noReturn line mem)]
  simp only [lines, split, List.getLast?_concat, List.dropLast_concat]
  exact (List.map_congr_left kept).trans (List.map_id' texts)

/-! ## IPv4 literals -/

structure Ipv4Addr where
  a : UInt8
  b : UInt8
  c : UInt8
  d : UInt8
  deriving DecidableEq, Repr

/-- `Ipv4Addr::octets` -/
def Ipv4Addr.octets (addr : Ipv4Addr) : Bytes :=
  [addr.a, addr.b, addr.c, addr.d]

@[simp]
theorem Ipv4Addr.length_octets (addr : Ipv4Addr) : addr.octets.length = 4 :=
  rfl

/-- `Ipv4Addr::to_string` -/
def Ipv4Addr.toText (addr : Ipv4Addr) : Text :=
  List.intercalate ['.'] (addr.octets.map fun octet => Nat.toDigits 10 octet.toNat)

/-- One decimal octet: one to three digits, no leading zero, at most 255. -/
def parseOctet (text : Text) : Option UInt8 :=
  let value := text.foldl (fun acc c => acc * 10 + (c.toNat - 48)) 0
  if text ≠ [] ∧ text.length ≤ 3 ∧ text.all Char.isDigit ∧ (text.length = 1 ∨ text.head? ≠ '0') ∧
      value ≤ 255 then
    some (UInt8.ofNat value)
  else none

/-- `text.parse::<Ipv4Addr>().ok()` -/
def parseIpv4 (text : Text) : Option Ipv4Addr :=
  match text.splitOn '.' with
  | [a, b, c, d] => do
      return ⟨← parseOctet a, ← parseOctet b, ← parseOctet c, ← parseOctet d⟩
  | _ => none

example : parseIpv4 "192.168.0.254".toList = some ⟨192, 168, 0, 254⟩ := by decide

example : parseIpv4 "10.0.0.05".toList = none := by decide

end DnsHijacker.Rust
