import DnsHijacker.Library.Run
import DnsHijacker.Shared.Dns.Name
import DnsHijacker.DnsRelay.HistoryBuffer

/-!
# The format of the history file

A line is a domain and its addresses, separated by spaces, and the reader takes
the words of the line.  The domain comes from a query: its labels may hold any
text, blanks and line feeds too, and the domain of the root is empty.
-/

namespace DnsHijacker.DnsRelay

open DnsHijacker.Rust
open DnsHijacker.Library
open DnsHijacker.Shared
open DnsHijacker.Shared.Dns

theorem isWhitespace_of_isDigit {c : Char} (digit : c.isDigit = true) : isWhitespace c = false := by
  simp only [Char.isDigit, Bool.and_eq_true, decide_eq_true_eq, ge_iff_le, UInt32.le_iff_toNat_le]
    at digit
  have low : 48 ≤ c.toNat := digit.1
  have high : c.toNat ≤ 57 := digit.2
  simp only [isWhitespace, Bool.or_eq_false_iff, Bool.and_eq_false_iff, decide_eq_false_iff_not,
    beq_eq_false_iff_ne]
  omega

theorem isWhitespace_of_mem_toDigits {n : Nat} {c : Char} (mem : c ∈ Nat.toDigits 10 n) :
    isWhitespace c = false :=
  isWhitespace_of_isDigit (Nat.isDigit_of_mem_toDigits (by decide) (by decide) mem)

/-- The text of an address is one word. -/
theorem isWord_toText (addr : Ipv4Addr) : IsWord addr.toText := by
  have split : addr.toText = Nat.toDigits 10 addr.a.toNat ++ '.' :: (Nat.toDigits 10 addr.b.toNat ++
      '.' :: (Nat.toDigits 10 addr.c.toNat ++ '.' :: Nat.toDigits 10 addr.d.toNat)) := by
    simp [Ipv4Addr.toText, Ipv4Addr.octets, List.intercalate]
  rw [split]
  constructor
  · simp
  · intro c mem
    simp only [List.mem_append, List.mem_cons] at mem
    rcases mem with first | rfl | second | rfl | third | rfl | fourth
    · exact isWhitespace_of_mem_toDigits first
    · rfl
    · exact isWhitespace_of_mem_toDigits second
    · rfl
    · exact isWhitespace_of_mem_toDigits third
    · rfl
    · exact isWhitespace_of_mem_toDigits fourth

namespace Merge

/-! ## A lookup in the maps -/

theorem history_addEntry (merge : Merge) (domain : Text) (ips : List Text) (other : Text) :
    (merge.addEntry (domain, ips)).history other =
      if other = domain then
        some (ips.foldl addIp ((merge.history domain).getD [], merge.seen domain)).1
      else merge.history other := by
  rw [Merge.addEntry]
  cases here : merge.history domain with
  | none => exact history_enter other
  | some existing => exact history_enter other

theorem order_addEntry {merge : Merge}
    (ordered : ∀ domain, domain ∈ merge.order ↔ ∃ ips, merge.history domain = some ips)
    (domain : Text) (ips : List Text) :
    (merge.addEntry (domain, ips)).order =
      if domain ∈ merge.order then merge.order else merge.order ++ [domain] := by
  rw [Merge.addEntry]
  cases here : merge.history domain with
  | none =>
      rw [if_neg]
      · rfl
      · rw [ordered, here]
        simp
  | some existing =>
      rw [if_pos]
      · rfl
      · rw [ordered, here]
        simp

theorem order_dropExcess (linesCount : Nat) (merge : Merge) :
    (merge.dropExcess linesCount).order = merge.order.drop (merge.order.length - linesCount) := by
  rw [dropExcess]
  split
  · rfl
  · rename_i under
    rw [Nat.sub_eq_zero_of_le (Nat.not_lt.mp under)]
    rfl

theorem history_dropExcess (linesCount : Nat) (merge : Merge) (domain : Text) :
    (merge.dropExcess linesCount).history domain =
      if domain ∈ merge.order.take (merge.order.length - linesCount) then none
      else merge.history domain := by
  rw [dropExcess]
  split
  · rfl
  · rename_i under
    rw [Nat.sub_eq_zero_of_le (Nat.not_lt.mp under)]
    simp

/-! ## What the file should hold -/

/-- The domains of the lines, in their order. -/
def domainsOf : Option Text → List Text
  | none => []
  | some content => (lines content).filterMap fun line => (splitWhitespace line).head?

theorem order_readFile (content : Option Text) : (readFile content).order = domainsOf content := by
  cases content with
  | none => rfl
  | some content =>
      rw [readFile, domainsOf]
      generalize lines content = texts
      have general : ∀ start : Merge, (texts.foldl Merge.readLine start).order =
          start.order ++ texts.filterMap fun line => (splitWhitespace line).head? := by
        induction texts with
        | nil => simp
        | cons text texts ih =>
            intro start
            rw [List.foldl_cons, ih, Merge.readLine]
            cases split : splitWhitespace text with
            | nil => simp [split]
            | cons domain ips => simp [split, Merge.enter]
      exact general new

/-- The domains that have a line once a lookup of the domain is added. -/
def listed (content : Option Text) (domain : Text) : List Text :=
  if domain ∈ domainsOf content then domainsOf content else domainsOf content ++ [domain]

/-- The domains whose lines are too many. -/
def cut (linesCount : Nat) (content : Option Text) (domain : Text) : List Text :=
  (listed content domain).take ((listed content domain).length - linesCount)

/-- The domains whose lines stay. -/
def staying (linesCount : Nat) (content : Option Text) (domain : Text) : List Text :=
  (listed content domain).drop ((listed content domain).length - linesCount)

/-- What the file should hold for a domain after a lookup: the lookup's own domain has
the new addresses, every other one what it had, and those cut off have nothing. -/
def expected (linesCount : Nat) (content : Option Text) (domain : Text) (ips : List Text)
    (other : Text) : Option (List Text) :=
  if other ∈ cut linesCount content domain then none
  else if other = domain then
    some (ips.foldl addIp
      (((readFile content).history domain).getD [], (readFile content).seen domain)).1
  else (readFile content).history other

/-- The maps of `flush` when it writes. -/
def written (linesCount : Nat) (content : Option Text) (domain : Text) (ips : List Text) : Merge :=
  (merged content [(domain, ips)]).dropExcess linesCount

section

variable {linesCount : Nat} {content : Option Text} {domain : Text} {ips : List Text}

theorem order_merged : (merged content [(domain, ips)]).order = listed content domain := by
  rw [merged, List.foldl_cons, List.foldl_nil, order_addEntry (sound_readFile content).ordered,
    order_readFile, listed]

theorem order_written :
    (written linesCount content domain ips).order = staying linesCount content domain := by
  rw [written, order_dropExcess, order_merged, staying]

theorem history_written (other : Text) : (written linesCount content domain ips).history other =
    expected linesCount content domain ips other := by
  rw [written, history_dropExcess, order_merged, expected, cut, merged, List.foldl_cons,
    List.foldl_nil, history_addEntry]

theorem mem_listed_iff {other : Text} :
    other ∈ listed content domain ↔ other ∈ domainsOf content ∨ other = domain := by
  rw [listed]
  split
  · rename_i known
    constructor
    · exact .inl
    · rintro (mem | rfl)
      · exact mem
      · exact known
  · rw [List.mem_append, List.mem_singleton]

/-- A domain that is not listed is not expected. -/
theorem expected_of_not_mem {other : Text} (absent : other ∉ listed content domain) :
    expected linesCount content domain ips other = none := by
  rw [mem_listed_iff, not_or, ← order_readFile, (sound_readFile content).ordered] at absent
  rw [expected, if_neg absent.2]
  split
  · rfl
  · exact Option.eq_none_iff_forall_ne_some.mpr fun found here => absent.1 ⟨found, here⟩

/-- No domain that is cut off has another line that stays. -/
def CutClean (linesCount : Nat) (content : Option Text) (domain : Text) : Prop :=
  ∀ other ∈ cut linesCount content domain, other ∉ staying linesCount content domain

/-- Lines that are cut off leave the maps sound if their domains have no other line. -/
theorem Sound.dropExcess {merge : Merge} (sound : merge.Sound)
    (clean : ∀ other ∈ merge.order.take (merge.order.length - linesCount),
      other ∉ merge.order.drop (merge.order.length - linesCount)) :
    (merge.dropExcess linesCount).Sound where
  ordered other := by
    rw [order_dropExcess, history_dropExcess]
    split
    · rename_i gone
      simp [clean other gone]
    · rename_i kept
      rw [← sound.ordered]
      constructor
      · exact List.mem_of_mem_drop
      · intro mem
        rw [← List.take_append_drop (merge.order.length - linesCount) merge.order] at mem
        exact (List.mem_append.mp mem).resolve_left kept
  seenHeld other ip mem := by
    rw [Merge.dropExcess] at mem ⊢
    split at mem
    · rename_i long
      rw [if_pos long]
      dsimp only at mem
      split at mem
      · contradiction
      · rename_i kept
        rw [Holds]
        simp only [kept, if_false]
        exact sound.seenHeld other ip mem
    · rename_i under
      rw [if_neg under]
      exact sound.seenHeld other ip mem
  domainWord other mem := by
    rw [order_dropExcess] at mem
    exact sound.domainWord other (List.mem_of_mem_drop mem)
  ipWord other ip held := by
    rw [Holds, history_dropExcess] at held
    split at held
    · simp at held
    · exact sound.ipWord other ip held

/-! ## Writing it and reading it again -/

/-- The file is written, and the next `flush` reads what was expected. -/
def Rereads (linesCount : Nat) (content : Option Text) (domain : Text) (ips : List Text) : Prop :=
  ∃ out, (written linesCount content domain ips).render = some out ∧
    ∀ other, (readFile (some out)).history other = expected linesCount content domain ips other

theorem mem_of_mapM_eq_some {α β : Type} {f : α → Option β} {items : List α} {results : List β}
    (all : items.mapM f = some results) : ∀ item ∈ items, (f item).isSome := by
  induction items generalizing results with
  | nil => simp
  | cons first rest ih =>
      rw [List.mapM_cons, Option.bind_eq_bind, Option.bind_eq_some_iff] at all
      rcases all with ⟨result, here, later⟩
      rw [Option.bind_eq_bind, Option.bind_eq_some_iff] at later
      rcases later with ⟨others, restAll, _⟩
      rw [List.forall_mem_cons, here]
      exact ⟨rfl, ih restAll⟩

/-- If the file is written, every domain in `order` is in `history`. -/
theorem history_isSome_of_render {merge : Merge} {out : Text} (rendered : merge.render = some out) :
    ∀ other ∈ merge.order, (merge.history other).isSome := by
  obtain ⟨results, all, _⟩ := Option.map_eq_some_iff.mp rendered
  intro other mem
  have here := mem_of_mapM_eq_some all other mem
  rw [Option.isSome_map] at here
  exact here

theorem Rereads.isWord_or {linesCount : Nat} (rereads : Rereads linesCount content domain ips) :
    IsWord domain ∨ linesCount = 0 := by
  rcases rereads with ⟨out, rendered, same⟩
  by_contra neither
  rw [not_or] at neither
  have fresh : domain ∉ domainsOf content := by
    rw [← order_readFile]
    exact fun known => neither.1 ((sound_readFile content).domainWord domain known)
  have kept : domain ∉ cut linesCount content domain := by
    rw [cut, listed, if_neg fresh, List.length_append, List.length_singleton,
      List.take_append_of_le_length (by omega)]
    exact fun mem => fresh (List.mem_of_mem_take mem)
  have read := same domain
  rw [expected, if_neg kept, if_pos rfl] at read
  have sound := sound_readFile (some out)
  exact neither.1 (sound.domainWord domain ((sound.ordered domain).mpr ⟨_, read⟩))

theorem Rereads.cutClean (rereads : Rereads linesCount content domain ips) :
    CutClean linesCount content domain := by
  rcases rereads with ⟨out, rendered, _⟩
  intro other gone stays
  have here := history_isSome_of_render rendered other (by rw [order_written]; exact stays)
  rw [history_written, expected, if_pos gone] at here
  contradiction

/-- Nothing stays if no line may. -/
theorem rereads_zero : Rereads 0 content domain ips := by
  have empty : (written 0 content domain ips).order = [] := by
    rw [order_written, staying, Nat.sub_zero, List.drop_length]
  refine ⟨[], by rw [render, empty]; rfl, fun other => ?_⟩
  by_cases mem : other ∈ listed content domain
  · rw [expected, cut, Nat.sub_zero, List.take_length, if_pos mem]
    rfl
  · rw [expected_of_not_mem mem]
    rfl

/-- The lookup is read again exactly if its domain is a word, or no line may stay, and
no domain that is cut off has another line. -/
theorem rereads_iff (areWords : ∀ ip ∈ ips, IsWord ip) :
    Rereads linesCount content domain ips ↔
      (IsWord domain ∨ linesCount = 0) ∧ CutClean linesCount content domain := by
  constructor
  · exact fun rereads => ⟨rereads.isWord_or, rereads.cutClean⟩
  · rintro ⟨isWord | rfl, clean⟩
    · have sound : (written linesCount content domain ips).Sound := by
        apply Sound.dropExcess
        · exact ((sound_readFile content).addEntries
            (List.forall_mem_singleton.mpr ⟨isWord, areWords⟩)).1
        · rw [order_merged]
          exact clean
      refine ⟨_, sound.render_eq, fun other => ?_⟩
      rw [sound.history_readFile sound.render_eq, history_written]
    · exact rereads_zero

end

end Merge

/-! ## Through the buffer -/

/-- `push_many` takes the lookup. -/
def Takes (matchedList : List Text) (domain : Text) (ips : List Text) : Prop :=
  ips ≠ [] ∧ (matchedList = [] ∨ matchedList.any (domainMatches · domain))

instance (matchedList : List Text) (domain : Text) (ips : List Text) :
    Decidable (Takes matchedList domain ips) :=
  inferInstanceAs (Decidable (_ ∧ _))

/-- A call of `push_many`, and then one of `close`, which runs `flush`. -/
def recording (matchedList : List Text) (domain : Text) (ips : List Text) : List HistoryEvent :=
  if Takes matchedList domain ips then
    [.pushMany domain ips, .pusher 0, .pusher 0, .close] ++ List.replicate 6 .closer
  else [.pushMany domain ips, .close, .closer, .closer]

/-- A lookup that is recorded in a file is read again at the start of the next `flush`,
with all that the file held. -/
def RoundTrips (linesCount : Nat) (matchedList : List Text) (file : Option Bytes) (domain : Text)
    (ips : List Text) : Prop :=
  ∃ final, run (HistoryBuffer.step linesCount matchedList) (HistoryBuffer.new file)
      (recording matchedList domain ips) = some final ∧
    ∀ other, (Merge.readFile final.store.content).history other =
      if Takes matchedList domain ips then
        Merge.expected linesCount (file.bind fromUtf8) domain ips other
      else (Merge.readFile (file.bind fromUtf8)).history other

section

variable {linesCount : Nat} {matchedList : List Text} {file : Option Bytes} {domain : Text}
  {ips : List Text}

theorem pushMany_of_takes (takes : Takes matchedList domain ips) (buffer : HistoryBuffer) :
    buffer.pushMany matchedList domain ips =
      { buffer with pushers := buffer.pushers ++ [.trying (domain, ips)] } := by
  rw [HistoryBuffer.pushMany, if_neg takes.1, if_neg]
  rintro ⟨some, none⟩
  rw [takes.2.resolve_left some] at none
  contradiction

theorem pushMany_of_not_takes (leaves : ¬ Takes matchedList domain ips) (buffer : HistoryBuffer) :
    buffer.pushMany matchedList domain ips = buffer := by
  rw [HistoryBuffer.pushMany]
  split
  · rfl
  · rename_i some
    rw [if_pos]
    rw [Takes, and_iff_right some, not_or] at leaves
    exact ⟨leaves.1, by simpa using leaves.2⟩

/-- The buffer after the lookup has been recorded. -/
def recorded (out : Text) (domain : Text) (ips : List Text) : HistoryBuffer where
  store := ⟨[], some (overwrite [] (toUtf8 out)), [(domain, ips)]⟩
  flushing := false
  pushers := [.returned]
  spawned := []
  closer := .running .returned

theorem content_recorded (out : Text) : (recorded out domain ips).store.content = some out := by
  rw [Store.content, recorded, overwrite, List.drop_nil, List.append_nil]
  exact fromUtf8_toUtf8 out

/-- The buffer when `flush` has taken the lookup out of the queue. -/
def recordingAt (file : Option Bytes) (domain : Text) (ips : List Text) (flush : Flush) :
    HistoryBuffer where
  store := ⟨[], file, [(domain, ips)]⟩
  flushing := false
  pushers := [.returned]
  spawned := []
  closer := .running flush

theorem step_reading :
    (recordingAt file domain ips (.reading [(domain, ips)])).step linesCount matchedList .closer =
      (Merge.written linesCount (file.bind fromUtf8) domain ips).render.map fun out =>
        recordingAt file domain ips (.creating out) := by
  rw [HistoryBuffer.step, recordingAt, HistoryBuffer.closerStep, flushStep, Option.map_map]
  rfl

theorem run_recording (takes : Takes matchedList domain ips) :
    run (HistoryBuffer.step linesCount matchedList) (HistoryBuffer.new file)
        (recording matchedList domain ips) =
      (Merge.written linesCount (file.bind fromUtf8) domain ips).render.map
        (recorded · domain ips) := by
  have pushed : (HistoryBuffer.new file).pushMany matchedList domain ips =
      { HistoryBuffer.new file with pushers := [.trying (domain, ips)] } :=
    pushMany_of_takes takes _
  have popped : run (HistoryBuffer.step linesCount matchedList)
      { HistoryBuffer.new file with pushers := [.trying (domain, ips)] }
      ([.pusher 0, .pusher 0, .close] ++ List.replicate 3 .closer) =
        some (recordingAt file domain ips (.reading [(domain, ips)])) := rfl
  have split : recording matchedList domain ips =
      .pushMany domain ips :: ([.pusher 0, .pusher 0, .close] ++ List.replicate 3 .closer) ++
        [.closer, .closer, .closer] := if_pos takes
  rw [split, List.cons_append, run, HistoryBuffer.step, pushed, Option.bind_some, run_append,
    popped, Option.bind_some, run, step_reading]
  cases (Merge.written linesCount (file.bind fromUtf8) domain ips).render with
  | none => rfl
  | some out => rfl

theorem run_recording_of_not_takes (leaves : ¬ Takes matchedList domain ips) :
    run (HistoryBuffer.step linesCount matchedList) (HistoryBuffer.new file)
        (recording matchedList domain ips) =
      some { HistoryBuffer.new file with closer := .running .returned } := by
  rw [recording, if_neg leaves, run, HistoryBuffer.step, pushMany_of_not_takes leaves]
  rfl

theorem roundTrips_iff_rereads (takes : Takes matchedList domain ips) :
    RoundTrips linesCount matchedList file domain ips ↔
      Merge.Rereads linesCount (file.bind fromUtf8) domain ips := by
  rw [RoundTrips, run_recording takes]
  simp only [if_pos takes, Option.map_eq_some_iff]
  constructor
  · rintro ⟨final, ⟨out, rendered, rfl⟩, same⟩
    rw [content_recorded] at same
    exact ⟨out, rendered, same⟩
  · rintro ⟨out, rendered, same⟩
    refine ⟨_, ⟨out, rendered, rfl⟩, ?_⟩
    rw [content_recorded]
    exact same

theorem roundTrips_of_not_takes (leaves : ¬ Takes matchedList domain ips) :
    RoundTrips linesCount matchedList file domain ips := by
  refine ⟨_, run_recording_of_not_takes leaves, fun other => ?_⟩
  rw [if_neg leaves]
  rfl

/-- A lookup of addresses is read again exactly if it is not taken, or its domain is
one word or no line may stay, and no domain that is cut off has another line. -/
theorem history_roundTrips_iff (linesCount : Nat) (matchedList : List Text) (file : Option Bytes)
    (domain : Text) (addrs : List Ipv4Addr) :
    RoundTrips linesCount matchedList file domain (addrs.map Ipv4Addr.toText) ↔
      (Takes matchedList domain (addrs.map Ipv4Addr.toText) →
        (IsWord domain ∨ linesCount = 0) ∧
          Merge.CutClean linesCount (file.bind fromUtf8) domain) := by
  have areWords : ∀ ip ∈ addrs.map Ipv4Addr.toText, IsWord ip := by
    intro ip mem
    obtain ⟨addr, _, rfl⟩ := List.mem_map.mp mem
    exact isWord_toText addr
  by_cases takes : Takes matchedList domain (addrs.map Ipv4Addr.toText)
  · rw [roundTrips_iff_rereads takes, Merge.rereads_iff areWords, forall_prop_of_true takes]
  · apply iff_of_true (roundTrips_of_not_takes takes)
    exact fun taken => absurd taken takes

end

/-! ## A label with a space -/

/-- A query for the addresses of the name with the one label `a b`. -/
def spacedQuery : Bytes :=
  [0x12, 0x34, 0x01, 0x00, 0, 1, 0, 0, 0, 0, 0, 0] ++ [0x03, 0x61, 0x20, 0x62, 0x00] ++ [0, 1, 0, 1]

/-- Its domain has a space, and the file, which has a line for `a`, is not read as it was
written. -/
theorem spaced_not_roundTrips :
    parseDomain .ascii spacedQuery 12 = .ok (some (['a', ' ', 'b'], 17)) ∧
      ¬ RoundTrips 100 [] (some (toUtf8 "a 192.0.2.1\n".toList)) ['a', ' ', 'b']
        ([⟨192, 0, 2, 2⟩].map Ipv4Addr.toText) := by
  constructor
  · decide +kernel
  · intro roundTrips
    have takes : Takes [] ['a', ' ', 'b'] ([⟨192, 0, 2, 2⟩].map Ipv4Addr.toText) := by decide
    rcases ((roundTrips_iff_rereads takes).mp roundTrips).isWord_or with isWord | zero
    · exact absurd (isWord.2 ' ' (by decide)) (by decide)
    · contradiction

end DnsHijacker.DnsRelay
