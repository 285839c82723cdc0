import DnsHijacker.DnsRelay.HistoryFlush
import DnsHijacker.DnsRelay.HistoryRuns

/-!
# Failing file operations

`flush` takes the queue before it touches the file, and it takes a file that it cannot read
for a missing one.  What the queue and the file held before a call can therefore be in
neither of them after it.
-/

namespace DnsHijacker.DnsRelay

open DnsHijacker.Rust
open DnsHijacker.Library

/-! ## A call -/

/-- The file operation with which a call returns an error: `File::create`, or `write_all` and
the flush of the file after it. -/
inductive FileError where
  | create
  | write
  deriving DecidableEq

inductive FlushResult where
  | ok
  | err
  deriving DecidableEq

/-- `read_to_string`, `none` for an error. -/
def readOf (readFails : Bool) (store : Store) : Option Text :=
  if readFails then none else store.content

/-- The queue is taken. -/
def Store.taken (store : Store) : Store :=
  { store with queue := [], popped := store.queue.reverse ++ store.popped }

/-- The end of `flush`, with the text to write.  A write that fails leaves so many octets in
the file. -/
def writeOut (error : Option FileError) (octets : Nat) (store : Store) (out : Text) :
    FlushResult × Store :=
  match error with
  | some .create => (.err, store)
  | some .write => (.err, { store with file := some ((toUtf8 out).take octets) })
  | none => (.ok, { store with file := some (toUtf8 out) })

/-- A call of `flush` that runs alone; `none` is a panic. -/
def flushWith (linesCount : Nat) (readFails : Bool) (error : Option FileError) (octets : Nat)
    (store : Store) : Option (FlushResult × Store) :=
  if store.queue = [] then some (.ok, store.taken)
  else
    (Merge.rewritten linesCount (readOf readFails store) store.queue).map
      (writeOut error octets store.taken)

section

variable {linesCount : Nat}

theorem run_popping (batch : List HistoryBufferEntry) (store : Store) :
    run (flushAlone linesCount) (.popping batch, store)
        (List.replicate store.queue.length ()) =
      some (.popping (batch ++ store.queue), store.taken) := by
  rcases store with ⟨queue, file, popped⟩
  induction queue generalizing batch popped with
  | nil => simp [Store.taken]
  | cons entry queue ih =>
      have popped' : flushStep linesCount ⟨entry :: queue, file, popped⟩ (.popping batch) =
          some (.popping (batch ++ [entry]), ⟨queue, file, entry :: popped⟩) := rfl
      rw [List.length_cons, List.replicate_succ, run, flushAlone, popped', Option.bind_some, ih]
      simp [Store.taken]

/-- The model of a whole call and that of its steps agree: where no file operation fails, the steps
lead to what the call comes to. -/
theorem run_eq_flushWith {store : Store} (queued : store.queue ≠ []) (octets : Nat) :
    run (flushAlone linesCount) (.popping [], store)
        (List.replicate (store.queue.length + 4) ()) =
      (flushWith linesCount false none octets store).map fun ended => (.returned, ended.2) := by
  rw [List.replicate_add, run_append, run_popping, Option.bind_some, List.nil_append, flushWith,
    if_neg queued, Option.map_map]
  have emptied : flushStep linesCount store.taken (.popping store.queue) =
      some (.reading store.queue, store.taken) := by
    rw [flushStep]
    exact congrArg (fun next => some (next, store.taken)) (if_neg queued)
  have read : flushStep linesCount store.taken (.reading store.queue) =
      (Merge.rewritten linesCount (readOf false store) store.queue).map fun out =>
        (.creating out, store.taken) := rfl
  rw [List.replicate_succ, run, flushAlone, emptied, Option.bind_some, List.replicate_succ, run,
    flushAlone, read]
  cases Merge.rewritten linesCount (readOf false store) store.queue with
  | none => rfl
  | some out =>
      have whole : overwrite [] (toUtf8 out) = toUtf8 out := by
        rw [overwrite, List.drop_nil, List.append_nil]
      have written : run (flushAlone linesCount) (.creating out, store.taken)
          (List.replicate 2 ()) =
            some (.returned, { store.taken with file := some (overwrite [] (toUtf8 out)) }) := rfl
      rw [whole] at written
      exact written

end

/-! ## What is recorded -/

/-- A lookup in the queue has the address. -/
def InQueue (queue : List HistoryBufferEntry) (domain ip : Text) : Prop :=
  ∃ ips, (domain, ips) ∈ queue ∧ ip ∈ ips

/-- A line of the file is that of the domain and has the address.  Other lines may be no
text. -/
def InFile (file : Option Bytes) (domain ip : Text) : Prop :=
  ∃ bytes ∈ file, ∃ piece ∈ bytes.splitOn 0x0A, ∃ text ∈ fromUtf8 piece, ∃ ips,
    splitWhitespace text = domain :: ips ∧ ip ∈ ips

/-- A carriage return before the end of a line is no part of a word. -/
theorem splitWhitespace_concat_return (text : Text) :
    splitWhitespace (text ++ ['\r']) = splitWhitespace text := by
  rw [splitWhitespace, List.splitOnP_append_cons _ _ (by decide), List.filter_append,
    splitWhitespace]
  simp

theorem splitWhitespace_ended (line : Text) :
    splitWhitespace (if line.getLast? = some '\r' then line.dropLast else line) =
      splitWhitespace line := by
  split
  · rename_i last
    obtain ⟨front, rfl⟩ := List.getLast?_eq_some_iff.mp last
    rw [List.dropLast_concat, splitWhitespace_concat_return]
  · rfl

/-- The lines have the words that stand between the line feeds. -/
theorem mem_lines_words {text : Text} {first : Text} {rest : List Text} :
    (∃ line ∈ lines text, splitWhitespace line = first :: rest) ↔
      ∃ piece ∈ text.splitOn '\n', splitWhitespace piece = first :: rest := by
  obtain ⟨pieces, last, split⟩ : ∃ pieces last, text.splitOn '\n' = pieces ++ [last] :=
    ⟨_, _, (List.dropLast_append_getLast (List.splitOn_ne_nil '\n' text)).symm⟩
  have ended : (∃ line ∈ pieces.map (fun line =>
        if line.getLast? = some '\r' then line.dropLast else line),
          splitWhitespace line = first :: rest) ↔
      ∃ piece ∈ pieces, splitWhitespace piece = first :: rest := by
    simp only [List.mem_map, exists_exists_and_eq_and, splitWhitespace_ended]
  simp only [lines, split, List.dropLast_concat, List.getLast?_concat]
  cases last with
  | nil =>
      have empty : splitWhitespace [] ≠ first :: rest := (List.cons_ne_nil first rest).symm
      rw [ended]
      simp [or_and_right, exists_or, empty]
  | cons c last =>
      simp only [List.mem_append, List.mem_singleton, or_and_right, exists_or, ended]

/-- In a file that is text these are the lines the program reads. -/
theorem inFile_iff_recorded {text domain ip : Text} :
    InFile (some (toUtf8 text)) domain ip ↔ Merge.Recorded (some text) domain ip := by
  have linefeed : asciiChar 0x0A = '\n' := rfl
  constructor
  · rintro ⟨bytes, same, piece, mem, line, decoded, ips, words, isIp⟩
    obtain rfl := Option.some.inj same
    rw [splitOn_toUtf8 (by decide), linefeed, List.mem_map] at mem
    obtain ⟨source, isPiece, rfl⟩ := mem
    rw [Option.mem_def, fromUtf8_toUtf8] at decoded
    obtain rfl := Option.some.inj decoded
    obtain ⟨found, isLine, foundWords⟩ := mem_lines_words.mpr ⟨source, isPiece, words⟩
    exact ⟨text, rfl, found, isLine, ips, foundWords, isIp⟩
  · rintro ⟨other, same, line, isLine, ips, words, isIp⟩
    obtain rfl := Option.some.inj same
    obtain ⟨piece, isPiece, pieceWords⟩ := mem_lines_words.mp ⟨line, isLine, words⟩
    refine ⟨_, rfl, toUtf8 piece, ?_, piece, fromUtf8_toUtf8 piece, ips, pieceWords, isIp⟩
    rw [splitOn_toUtf8 (by decide), linefeed]
    exact List.mem_map_of_mem isPiece

/-- What can be found in a line are words. -/
theorem InFile.isWord {file : Option Bytes} {domain ip : Text} (found : InFile file domain ip) :
    IsWord domain ∧ IsWord ip := by
  obtain ⟨bytes, _, piece, _, text, _, ips, words, isIp⟩ := found
  have areWords : ∀ word ∈ splitWhitespace text, IsWord word :=
    fun _ => isWord_of_mem_splitWhitespace
  rw [words, List.forall_mem_cons] at areWords
  exact ⟨areWords.1, areWords.2 ip isIp⟩

theorem not_inFile_empty (domain ip : Text) : ¬ InFile (some []) domain ip := by
  rw [show ([] : Bytes) = toUtf8 [] from rfl, inFile_iff_recorded]
  rintro ⟨text, same, line, mem, _⟩
  obtain rfl := Option.some.inj same
  exact nomatch mem

namespace Merge

/-- The addresses that can be found in the file are those of the maps it was written from. -/
theorem Sound.recorded_iff {merge : Merge} (sound : merge.Sound) {out : Text}
    (rendered : merge.render = some out) {domain ip : Text} :
    Recorded (some out) domain ip ↔ merge.Holds domain ip := by
  constructor
  · rintro ⟨text, same, entry, mem, ips, words, isIp⟩
    obtain rfl := Option.some.inj same
    rw [sound.lines_render rendered, List.mem_map] at mem
    obtain ⟨other, ordered, rfl⟩ := mem
    rw [line, splitWhitespace_words (sound.domainWord other ordered) (sound.ipsOf_word ordered)]
      at words
    obtain ⟨rfl, rfl⟩ := List.cons.inj words
    exact ⟨_, sound.history_eq ordered, isIp⟩
  · intro held
    exact recorded_of_holds_readFile ((sound.holds_readFile_iff rendered).mpr held)

theorem sound_rewritten {linesCount : Nat} {content : Option Text}
    {batch : List HistoryBufferEntry} (areWords : ∀ entry ∈ batch, EntryWords entry)
    (apart : Apart linesCount (listing content batch)) :
    ((merged content batch).dropExcess linesCount).Sound := by
  rw [Apart, removed, remaining, ← order_merged_batch] at apart
  exact (sound_merged content areWords).dropExcess apart

/-- What can be found after a batch was merged in: all of the file and of the batch but the
lines that the cap removed. -/
theorem recorded_rewritten_iff {linesCount : Nat} {content : Option Text}
    {batch : List HistoryBufferEntry} {out : Text} (areWords : ∀ entry ∈ batch, EntryWords entry)
    (apart : Apart linesCount (listing content batch))
    (rendered : rewritten linesCount content batch = some out) {domain ip : Text} :
    Recorded (some out) domain ip ↔
      ((readFile content).Holds domain ip ∨ InQueue batch domain ip) ∧
        domain ∉ removed linesCount (listing content batch) := by
  rw [(sound_rewritten areWords apart).recorded_iff rendered, removed, ← order_merged_batch, Holds,
    history_dropExcess]
  split
  · rename_i gone
    simp [gone]
  · rename_i kept
    rw [and_iff_left kept]
    exact ((sound_readFile content).addEntries areWords).2 domain ip

end Merge

/-! ## After a file that was not read -/

section

variable {linesCount : Nat} {batch : List HistoryBufferEntry} {out : Text}

theorem apart_unread : Merge.Apart linesCount (Merge.listing none batch) :=
  Merge.apart_of_nodup (Merge.nodup_listing (show (Merge.domainsOf none).Nodup from .nil) batch)

theorem inFile_unread_iff (areWords : ∀ entry ∈ batch, EntryWords entry)
    (rendered : Merge.rewritten linesCount none batch = some out) {domain ip : Text} :
    InFile (some (toUtf8 out)) domain ip ↔
      InQueue batch domain ip ∧ domain ∉ Merge.removed linesCount (Merge.listing none batch) := by
  have nothing : ¬ (Merge.readFile none).Holds domain ip := by
    rintro ⟨ips, here, _⟩
    cases here
  rw [inFile_iff_recorded, Merge.recorded_rewritten_iff areWords apart_unread rendered,
    or_iff_right nothing]

/-- The cap removes a lookup of the batch if there are too many. -/
theorem exists_removed (addressed : ∀ entry ∈ batch, entry.2 ≠ [])
    (many : linesCount < (Merge.listing none batch).length) :
    ∃ domain ip, InQueue batch domain ip ∧
      domain ∈ Merge.removed linesCount (Merge.listing none batch) := by
  have some : Merge.removed linesCount (Merge.listing none batch) ≠ [] := by
    apply List.ne_nil_of_length_pos
    rw [Merge.removed, List.length_take]
    omega
  obtain ⟨domain, gone⟩ := List.exists_mem_of_ne_nil _ some
  have listed := mem_firstSeen.mp (List.mem_of_mem_take gone)
  rcases listed with old | new
  · exact nomatch old
  · obtain ⟨entry, mem, rfl⟩ := List.mem_map.mp new
    obtain ⟨ip, isIp⟩ := List.exists_mem_of_ne_nil _ (addressed entry mem)
    exact ⟨entry.1, ip, ⟨entry.2, mem, isIp⟩, gone⟩

/-- The new file has all of the batch and of the file before exactly if the batch is made of
words, is not too long and has all of the file. -/
theorem holdsAll_unread_iff {file : Option Bytes} (addressed : ∀ entry ∈ batch, entry.2 ≠ [])
    (rendered : Merge.rewritten linesCount none batch = some out) :
    (∀ domain ip, InQueue batch domain ip ∨ InFile file domain ip →
        InFile (some (toUtf8 out)) domain ip) ↔
      (∀ entry ∈ batch, EntryWords entry) ∧ (Merge.listing none batch).length ≤ linesCount ∧
        ∀ domain ip, InFile file domain ip → InQueue batch domain ip := by
  constructor
  · intro all
    have waits : ∀ entry ∈ batch, ∀ ip ∈ entry.2, InFile (some (toUtf8 out)) entry.1 ip :=
      fun entry mem ip isIp => all entry.1 ip (.inl ⟨entry.2, mem, isIp⟩)
    have areWords : ∀ entry ∈ batch, EntryWords entry := by
      intro entry mem
      obtain ⟨ip, isIp⟩ := List.exists_mem_of_ne_nil _ (addressed entry mem)
      exact ⟨(waits entry mem ip isIp).isWord.1,
        fun other isOther => (waits entry mem other isOther).isWord.2⟩
    refine ⟨areWords, ?few, ?covered⟩
    case few =>
      by_contra many
      obtain ⟨domain, ip, waiting, gone⟩ := exists_removed addressed (Nat.lt_of_not_le many)
      exact ((inFile_unread_iff areWords rendered).mp (all domain ip (.inl waiting))).2 gone
    case covered =>
      intro domain ip held
      exact ((inFile_unread_iff areWords rendered).mp (all domain ip (.inr held))).1
  · rintro ⟨areWords, few, covered⟩ domain ip held
    rw [inFile_unread_iff areWords rendered]
    constructor
    · exact held.elim id (covered domain ip)
    · rw [Merge.removed, Nat.sub_eq_zero_of_le few]
      exact List.not_mem_nil

end

/-! ## What a failing call loses -/

/-- The queue or the file has the address. -/
def Store.Has (store : Store) (domain ip : Text) : Prop :=
  InQueue store.queue domain ip ∨ InFile store.file domain ip

/-- Whatever a failing write leaves: after a call that returns an error, or could not read the
file, all that the queue and the file held is still in one of them. -/
def LosesNothing (linesCount : Nat) (readFails : Bool) (error : Option FileError)
    (store : Store) : Prop :=
  ∀ octets result after, flushWith linesCount readFails error octets store = some (result, after) →
    result = .err ∨ readOf readFails store = none →
      ∀ domain ip, store.Has domain ip → after.Has domain ip

section

variable {linesCount : Nat} {readFails : Bool} {store : Store}

theorem not_inQueue_nil (domain ip : Text) : ¬ InQueue [] domain ip := by
  rintro ⟨ips, mem, _⟩
  exact nomatch mem

theorem has_iff_inFile {file : Option Bytes} {popped : List HistoryBufferEntry}
    {domain ip : Text} : Store.Has ⟨[], file, popped⟩ domain ip ↔ InFile file domain ip :=
  or_iff_right (not_inQueue_nil domain ip)

/-- With nothing in the queue the call does not touch the file. -/
theorem losesNothing_of_empty {error : Option FileError} (empty : store.queue = []) :
    LosesNothing linesCount readFails error store := by
  intro octets result after ended _ domain ip held
  rw [flushWith, if_pos empty] at ended
  cases ended
  rw [Store.Has, empty, or_iff_right (not_inQueue_nil domain ip)] at held
  exact has_iff_inFile.mpr held

/-- A call with something in the queue that does not panic. -/
theorem flushWith_eq_some_iff {error : Option FileError} {octets : Nat}
    {ended : FlushResult × Store} (queued : store.queue ≠ []) :
    flushWith linesCount readFails error octets store = some ended ↔
      ∃ out, Merge.rewritten linesCount (readOf readFails store) store.queue = some out ∧
        writeOut error octets store.taken out = ended := by
  rw [flushWith, if_neg queued]
  exact Option.map_eq_some_iff

theorem flushWith_of_rewritten {out : Text} (queued : store.queue ≠ [])
    (rendered : Merge.rewritten linesCount (readOf readFails store) store.queue = some out)
    (error : Option FileError) (octets : Nat) :
    flushWith linesCount readFails error octets store =
      some (writeOut error octets store.taken out) :=
  (flushWith_eq_some_iff queued).mpr ⟨out, rendered, rfl⟩

/-- The lookups of a call that cannot create the file are gone, unless the file has them. -/
theorem losesNothing_create_iff (queued : store.queue ≠ []) :
    LosesNothing linesCount readFails (some .create) store ↔
      (Merge.Apart linesCount (Merge.listing (readOf readFails store) store.queue) →
        ∀ domain ip, InQueue store.queue domain ip → InFile store.file domain ip) := by
  constructor
  · intro safe apart domain ip waiting
    obtain ⟨out, rendered⟩ := Merge.exists_rewritten_iff.mpr apart
    have ended := flushWith_of_rewritten queued rendered (some .create) 0
    exact has_iff_inFile.mp (safe 0 .err _ ended (.inl rfl) domain ip (.inl waiting))
  · intro safe octets result after ended _ domain ip held
    obtain ⟨out, rendered, same⟩ := (flushWith_eq_some_iff queued).mp ended
    cases same
    have apart := Merge.exists_rewritten_iff.mp ⟨out, rendered⟩
    apply has_iff_inFile.mpr
    rcases held with waiting | found
    · exact safe apart domain ip waiting
    · exact found

/-- A write that fails can leave an empty file. -/
theorem losesNothing_write_iff (queued : store.queue ≠ [])
    (addressed : ∀ entry ∈ store.queue, entry.2 ≠ []) :
    LosesNothing linesCount readFails (some .write) store ↔
      ¬ Merge.Apart linesCount (Merge.listing (readOf readFails store) store.queue) := by
  constructor
  · intro safe apart
    obtain ⟨out, rendered⟩ := Merge.exists_rewritten_iff.mpr apart
    have ended := flushWith_of_rewritten queued rendered (some .write) 0
    obtain ⟨entry, mem⟩ := List.exists_mem_of_ne_nil _ queued
    obtain ⟨ip, isIp⟩ := List.exists_mem_of_ne_nil _ (addressed entry mem)
    have kept := safe 0 .err _ ended (.inl rfl) entry.1 ip (.inl ⟨entry.2, mem, isIp⟩)
    exact not_inFile_empty _ _ (has_iff_inFile.mp kept)
  · intro panics octets result after ended
    obtain ⟨out, rendered, _⟩ := (flushWith_eq_some_iff queued).mp ended
    exact absurd (Merge.exists_rewritten_iff.mp ⟨out, rendered⟩) panics

/-- A file that could not be read is overwritten: the call loses nothing if it writes all of
the queue, and the file held no more than that. -/
theorem losesNothing_unread_iff (queued : store.queue ≠ [])
    (addressed : ∀ entry ∈ store.queue, entry.2 ≠ []) (unread : readOf readFails store = none) :
    LosesNothing linesCount readFails none store ↔
      (∀ entry ∈ store.queue, EntryWords entry) ∧
        (Merge.listing none store.queue).length ≤ linesCount ∧
          ∀ domain ip, InFile store.file domain ip → InQueue store.queue domain ip := by
  obtain ⟨out, rendered⟩ := Merge.exists_rewritten_iff.mpr
    (apart_unread : Merge.Apart linesCount (Merge.listing none store.queue))
  rw [← holdsAll_unread_iff addressed rendered]
  constructor
  · intro safe domain ip held
    have ended : flushWith linesCount readFails none 0 store =
        some (.ok, { store.taken with file := some (toUtf8 out) }) :=
      flushWith_of_rewritten queued (unread ▸ rendered) none 0
    exact has_iff_inFile.mp (safe 0 .ok _ ended (.inr unread) domain ip held)
  · intro all octets result after ended _ domain ip held
    obtain ⟨text, written, same⟩ := (flushWith_eq_some_iff queued).mp ended
    rw [unread, rendered] at written
    obtain rfl := Option.some.inj written
    cases same
    exact has_iff_inFile.mpr (all domain ip held)

/-- A call that reads and writes the file has not failed. -/
theorem losesNothing_of_read {text : Text} (read : readOf readFails store = some text) :
    LosesNothing linesCount readFails none store := by
  intro octets result after ended failed
  exfalso
  rcases failed with rfl | unread
  · rw [flushWith] at ended
    split at ended
    · cases ended
    · obtain ⟨out, _, same⟩ := Option.map_eq_some_iff.mp ended
      cases same
  · rw [read] at unread
    contradiction

end

/-- What keeps a failing call from losing anything. -/
def Spared (linesCount : Nat) (readFails : Bool) (store : Store) : Option FileError → Prop
  | some .create =>
      Merge.Apart linesCount (Merge.listing (readOf readFails store) store.queue) →
        ∀ domain ip, InQueue store.queue domain ip → InFile store.file domain ip
  | some .write => ¬ Merge.Apart linesCount (Merge.listing (readOf readFails store) store.queue)
  | none => readOf readFails store = none →
      (∀ entry ∈ store.queue, EntryWords entry) ∧
        (Merge.listing none store.queue).length ≤ linesCount ∧
          ∀ domain ip, InFile store.file domain ip → InQueue store.queue domain ip

/-- A failing call loses nothing exactly if the queue is empty or one of these holds: it
cannot create the file, and panics before or had all of the queue in the file already; its
write fails, but it panics before; it could not read the file and has all of it in the
queue, and all of the queue can be written and read again. -/
theorem losesNothing_iff (linesCount : Nat) (readFails : Bool) (error : Option FileError)
    (store : Store) (addressed : ∀ entry ∈ store.queue, entry.2 ≠ []) :
    LosesNothing linesCount readFails error store ↔
      store.queue = [] ∨ Spared linesCount readFails store error := by
  by_cases empty : store.queue = []
  · exact iff_of_true (losesNothing_of_empty empty) (.inl empty)
  · rw [or_iff_right empty]
    cases error with
    | some error =>
        cases error with
        | create => exact losesNothing_create_iff empty
        | write => exact losesNothing_write_iff empty addressed
    | none =>
        cases read : readOf readFails store with
        | none =>
            rw [losesNothing_unread_iff empty addressed read, Spared, forall_prop_of_true read]
        | some text =>
            apply iff_of_true (losesNothing_of_read read)
            rw [Spared, read]
            exact nofun

/-- A lookup of `b` waits, and the file has a line for `a`. -/
def waitingStore : Store :=
  ⟨[(['b'], [['2']])], some (toUtf8 "a 1\n".toList), []⟩

theorem losesNothing_iff_waitingStore :
    LosesNothing 100 true none waitingStore ↔
      waitingStore.queue = [] ∨ Spared 100 true waitingStore none :=
  losesNothing_iff 100 true none waitingStore (by decide)

/-- The lookup is lost if the file cannot be created, the line if the file could not be read,
and both if it cannot be written. -/
theorem failing_flush_loses :
    ¬ LosesNothing 100 false (some .create) waitingStore ∧
      ¬ LosesNothing 100 true none waitingStore ∧
        ¬ LosesNothing 100 false (some .write) waitingStore := by
  have read : readOf false waitingStore = some "a 1\n".toList :=
    fromUtf8_toUtf8 "a 1\n".toList
  have queued : waitingStore.queue ≠ [] := by decide
  have addressed : ∀ entry ∈ waitingStore.queue, entry.2 ≠ [] := by decide
  have apart : Merge.Apart 100 (Merge.listing (readOf false waitingStore) waitingStore.queue) := by
    rw [read]
    decide
  have oneLine : lines "a 1\n".toList = [['a', ' ', '1']] := by decide
  have words : splitWhitespace ['a', ' ', '1'] = [['a'], ['1']] := by decide
  refine ⟨?create, ?unread, ?write⟩
  case create =>
    rw [losesNothing_create_iff queued]
    intro safe
    have found := safe apart ['b'] ['2'] ⟨[['2']], by decide, by decide⟩
    obtain ⟨text, same, line, mem, ips, others, _⟩ := inFile_iff_recorded.mp found
    obtain rfl := Option.some.inj same
    rw [oneLine, List.mem_singleton] at mem
    rw [mem, words] at others
    exact absurd (List.cons.inj others).1 (by decide)
  case unread =>
    rw [losesNothing_unread_iff queued addressed rfl]
    rintro ⟨_, _, covered⟩
    have held : InFile waitingStore.file ['a'] ['1'] :=
      inFile_iff_recorded.mpr ⟨_, rfl, _, oneLine ▸ List.mem_singleton_self _, _, words, by decide⟩
    obtain ⟨ips, mem, _⟩ := covered ['a'] ['1'] held
    exact absurd (Prod.mk.inj (List.mem_singleton.mp mem)).1 (by decide)
  case write =>
    rw [losesNothing_write_iff queued addressed]
    exact fun panics => panics apart

end DnsHijacker.DnsRelay
