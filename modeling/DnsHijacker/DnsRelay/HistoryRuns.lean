import DnsHijacker.DnsRelay.HistoryBuffer
import DnsHijacker.Library.Run

/-!
# Runs of the history buffer

A call of `flush` reads the file, merges and writes it again; what it has popped
is in its hands until then.  The flag keeps the spawned tasks apart, so only the
call by `close` can meet another one at the file.
-/

namespace DnsHijacker.DnsRelay

open DnsHijacker.Rust
open DnsHijacker.Library

variable (linesCount : Nat) (matchedList : List Text)

/-! ## What the calls of `flush` keep -/

/-- The file is being written, from `File::create` to the end of `write_all`. -/
def Flush.inFile : Flush → Bool
  | .creating _ | .writing _ => true
  | _ => false

/-- The batch of a call that is about to read the file. -/
def Flush.read? : Flush → Option (List HistoryBufferEntry)
  | .reading batch => some batch
  | _ => none

/-- The lookups the call has popped and not merged yet. -/
def Flush.batch : Flush → List HistoryBufferEntry
  | .popping batch | .reading batch => batch
  | _ => []

/-- The call has the address in its batch or in the text it writes. -/
def Flush.Carries (domain ip : Text) : Flush → Prop
  | .popping batch | .reading batch => ∃ ips, (domain, ips) ∈ batch ∧ ip ∈ ips
  | .creating out | .writing out => (Merge.readFile (some out)).Holds domain ip
  | .returned => False

/-- A later `flush` will find the address in the file. -/
def Store.Holds (store : Store) (domain ip : Text) : Prop :=
  (Merge.readFile store.content).Holds domain ip

/-- The lookup's words can be told apart in a line. -/
def EntryWords (entry : HistoryBufferEntry) : Prop :=
  IsWord entry.1 ∧ ∀ ip ∈ entry.2, IsWord ip

instance (entry : HistoryBufferEntry) : Decidable (EntryWords entry) :=
  inferInstanceAs (Decidable (IsWord entry.1 ∧ ∀ ip ∈ entry.2, IsWord ip))

/-- Nothing popped is lost: it is in the file, or an unfinished call carries it.
At most one call is at the file, and what it will write covers the file. -/
structure Kept (store : Store) (flushes : List Flush) : Prop where
  queued : ∀ entry ∈ store.queue, EntryWords entry
  batched : ∀ flush ∈ flushes, ∀ entry ∈ flush.batch, EntryWords entry
  alone : flushes.Pairwise fun first second => ¬ (first.inFile ∧ second.inFile)
  covers : ∀ out, .creating out ∈ flushes → ∀ domain ip, store.Holds domain ip →
    (Merge.readFile (some out)).Holds domain ip
  truncated : ∀ out, .writing out ∈ flushes → store.file = some []
  popped : ∀ entry ∈ store.popped, ∀ ip ∈ entry.2,
    store.Holds entry.1 ip ∨ ∃ flush ∈ flushes, flush.Carries entry.1 ip

theorem Kept.perm {store : Store} {flushes others : List Flush} (kept : Kept store flushes)
    (perm : flushes.Perm others) : Kept store others where
  queued := kept.queued
  batched flush mem := kept.batched flush (perm.mem_iff.mpr mem)
  alone := (perm.pairwise_iff fun {_ _} differ both => differ both.symm).mp kept.alone
  covers out mem := kept.covers out (perm.mem_iff.mpr mem)
  truncated out mem := kept.truncated out (perm.mem_iff.mpr mem)
  popped entry mem ip isIp := by
    rcases kept.popped entry mem ip isIp with held | ⟨flush, isFlush, carries⟩
    · exact .inl held
    · exact .inr ⟨flush, perm.mem_iff.mp isFlush, carries⟩

/-- The line cap is not reached by what the call has merged. -/
def UnderCap (store : Store) (batch : List HistoryBufferEntry) : Prop :=
  (merged store.content batch).order.length ≤ linesCount

variable {linesCount matchedList}

theorem sound_merged (content : Option Text) {batch : List HistoryBufferEntry}
    (areWords : ∀ entry ∈ batch, EntryWords entry) : (merged content batch).Sound :=
  ((Merge.sound_readFile content).addEntries areWords).1

theorem UnderCap.dropExcess_eq {store : Store} {batch : List HistoryBufferEntry}
    (under : UnderCap linesCount store batch) :
    (merged store.content batch).dropExcess linesCount = merged store.content batch :=
  if_neg (Nat.not_lt.mpr under)

/-- The text a call makes of the file and of its batch has both. -/
theorem holds_render_merged {store : Store} {batch : List HistoryBufferEntry} {out : Text}
    (areWords : ∀ entry ∈ batch, EntryWords entry) (under : UnderCap linesCount store batch)
    (rendered : ((merged store.content batch).dropExcess linesCount).render = some out)
    {domain ip : Text} :
    (Merge.readFile (some out)).Holds domain ip ↔
      store.Holds domain ip ∨ ∃ ips, (domain, ips) ∈ batch ∧ ip ∈ ips := by
  rw [under.dropExcess_eq] at rendered
  rw [(sound_merged store.content areWords).holds_readFile_iff rendered]
  exact ((Merge.sound_readFile store.content).addEntries areWords).2 domain ip

/-- A truncated file holds nothing. -/
theorem not_holds_of_truncated {store : Store} (truncated : store.file = some [])
    (domain ip : Text) : ¬ store.Holds domain ip := by
  rw [Store.Holds, Store.content, truncated]
  rintro ⟨ips, here, _⟩
  cases here

section

variable {queue : List HistoryBufferEntry} {file : Option Bytes}
  {popped batch : List HistoryBufferEntry} {out : Text} {others : List Flush}

theorem Kept.pop {entry : HistoryBufferEntry}
    (kept : Kept ⟨entry :: queue, file, popped⟩ (.popping batch :: others)) :
    Kept ⟨queue, file, entry :: popped⟩ (.popping (batch ++ [entry]) :: others) where
  queued := (List.forall_mem_cons.mp kept.queued).2
  batched := by
    rcases List.forall_mem_cons.mp kept.batched with ⟨here, rest⟩
    refine List.forall_mem_cons.mpr ⟨fun other mem => ?_, rest⟩
    rcases List.mem_append.mp mem with before | last
    · exact here other before
    · rw [List.mem_singleton.mp last]
      exact kept.queued entry List.mem_cons_self
  alone := List.pairwise_cons.mpr (List.pairwise_cons.mp kept.alone)
  covers out mem := kept.covers out (by simpa using mem)
  truncated out mem := kept.truncated out (by simpa using mem)
  popped := by
    rw [List.forall_mem_cons]
    constructor
    · exact fun ip isIp => .inr ⟨_, List.mem_cons_self, entry.2, by simp, isIp⟩
    · intro other mem ip isIp
      rcases kept.popped other mem ip isIp with held | ⟨flush, isFlush, carries⟩
      · exact .inl held
      · right
        rcases List.mem_cons.mp isFlush with rfl | later
        · rcases carries with ⟨ips, inBatch, found⟩
          exact ⟨_, List.mem_cons_self, ips, List.mem_append_left _ inBatch, found⟩
        · exact ⟨flush, List.mem_cons_of_mem _ later, carries⟩

/-- The call moves on without a change of the store. -/
theorem Kept.become {store : Store} {flush next : Flush} (kept : Kept store (flush :: others))
    (words : ∀ entry ∈ next.batch, EntryWords entry)
    (exclusive : next.inFile → ∀ other ∈ others, other.inFile = false)
    (covers : ∀ out, next = .creating out → ∀ domain ip, store.Holds domain ip →
      (Merge.readFile (some out)).Holds domain ip)
    (notWriting : ∀ out, next ≠ .writing out)
    (carries : ∀ domain ip, flush.Carries domain ip → next.Carries domain ip) :
    Kept store (next :: others) where
  queued := kept.queued
  batched := List.forall_mem_cons.mpr ⟨words, (List.forall_mem_cons.mp kept.batched).2⟩
  alone := by
    rw [List.pairwise_cons]
    constructor
    · intro other mem both
      rw [exclusive both.1 other mem] at both
      exact Bool.false_ne_true both.2
    · exact (List.pairwise_cons.mp kept.alone).2
  covers out mem := by
    rcases List.mem_cons.mp mem with here | later
    · exact covers out here.symm
    · exact kept.covers out (List.mem_cons_of_mem _ later)
  truncated out mem := by
    rcases List.mem_cons.mp mem with here | later
    · exact absurd here.symm (notWriting out)
    · exact kept.truncated out (List.mem_cons_of_mem _ later)
  popped entry mem ip isIp := by
    rcases kept.popped entry mem ip isIp with held | ⟨carrier, isFlush, carried⟩
    · exact .inl held
    · right
      rcases List.mem_cons.mp isFlush with rfl | later
      · exact ⟨next, List.mem_cons_self, carries entry.1 ip carried⟩
      · exact ⟨carrier, List.mem_cons_of_mem _ later, carried⟩

/-- The queue is empty: with nothing in the batch the call returns. -/
theorem Kept.popNone {store : Store} (kept : Kept store (.popping batch :: others)) :
    Kept store ((if batch = [] then .returned else .reading batch) :: others) := by
  have words := (List.forall_mem_cons.mp kept.batched).1
  split
  · rename_i empty
    apply kept.become
    case words => exact fun _ mem => nomatch mem
    case exclusive => exact fun inFile => nomatch inFile
    case covers => exact fun _ same => nomatch same
    case notWriting => exact fun _ same => nomatch same
    case carries =>
      rintro domain ip ⟨ips, mem, _⟩
      rw [empty] at mem
      exact nomatch mem
  · apply kept.become
    case words => exact words
    case exclusive => exact fun inFile => nomatch inFile
    case covers => exact fun _ same => nomatch same
    case notWriting => exact fun _ same => nomatch same
    case carries => exact fun _ _ carried => carried

theorem Kept.read {store : Store} (kept : Kept store (.reading batch :: others))
    (under : UnderCap linesCount store batch)
    (exclusive : ∀ other ∈ others, other.inFile = false)
    (rendered : ((merged store.content batch).dropExcess linesCount).render = some out) :
    Kept store (.creating out :: others) := by
  have words := (List.forall_mem_cons.mp kept.batched).1
  have holds : ∀ domain ip, (Merge.readFile (some out)).Holds domain ip ↔
      store.Holds domain ip ∨ ∃ ips, (domain, ips) ∈ batch ∧ ip ∈ ips :=
    fun _ _ => holds_render_merged words under rendered
  apply kept.become
  case words => exact fun _ mem => nomatch mem
  case exclusive => exact fun _ => exclusive
  case covers =>
    intro text same domain ip held
    cases same
    exact (holds domain ip).mpr (.inl held)
  case notWriting => exact fun _ same => nomatch same
  case carries => exact fun domain ip carried => (holds domain ip).mpr (.inr carried)

/-- While a call is at the file no other one is. -/
theorem Kept.others_not_inFile {store : Store} {flush other : Flush}
    (kept : Kept store (flush :: others)) (inFile : flush.inFile) (mem : other ∈ others) :
    other.inFile = false := by
  have differ := (List.pairwise_cons.mp kept.alone).1 other mem
  simpa [inFile] using differ

theorem Kept.create (kept : Kept ⟨queue, file, popped⟩ (.creating out :: others)) :
    Kept ⟨queue, some [], popped⟩ (.writing out :: others) where
  queued := kept.queued
  batched := List.forall_mem_cons.mpr (List.forall_mem_cons.mp kept.batched)
  alone := List.pairwise_cons.mpr (List.pairwise_cons.mp kept.alone)
  covers text mem := by
    rcases List.mem_cons.mp mem with here | later
    · contradiction
    · exact nomatch kept.others_not_inFile rfl later
  truncated _ _ := rfl
  popped entry mem ip isIp := by
    right
    rcases kept.popped entry mem ip isIp with held | ⟨carrier, isFlush, carried⟩
    · exact ⟨_, List.mem_cons_self, kept.covers out List.mem_cons_self entry.1 ip held⟩
    · rcases List.mem_cons.mp isFlush with rfl | later
      · exact ⟨_, List.mem_cons_self, carried⟩
      · exact ⟨carrier, List.mem_cons_of_mem _ later, carried⟩

/-- What was written into the truncated file is all there is. -/
theorem Kept.write (kept : Kept ⟨queue, file, popped⟩ (.writing out :: others)) :
    Kept ⟨queue, some (overwrite (file.getD []) (toUtf8 out)), popped⟩ (.returned :: others) := by
  have truncated : file = some [] := kept.truncated out List.mem_cons_self
  have written : overwrite (file.getD []) (toUtf8 out) = toUtf8 out := by
    rw [truncated, overwrite, Option.getD_some, List.drop_nil, List.append_nil]
  have content : Store.content ⟨queue, some (toUtf8 out), popped⟩ = some out :=
    fromUtf8_toUtf8 out
  rw [written]
  constructor
  case queued => exact kept.queued
  case batched => exact List.forall_mem_cons.mpr (List.forall_mem_cons.mp kept.batched)
  case alone =>
    rw [List.pairwise_cons]
    constructor
    · exact fun _ _ both => nomatch both.1
    · exact (List.pairwise_cons.mp kept.alone).2
  case covers =>
    intro text mem
    rcases List.mem_cons.mp mem with here | later
    · contradiction
    · exact nomatch kept.others_not_inFile rfl later
  case truncated =>
    intro text mem
    rcases List.mem_cons.mp mem with here | later
    · contradiction
    · exact nomatch kept.others_not_inFile rfl later
  case popped =>
    intro entry mem ip isIp
    rcases kept.popped entry mem ip isIp with held | ⟨carrier, isFlush, carried⟩
    · exact absurd held (not_holds_of_truncated truncated entry.1 ip)
    · rcases List.mem_cons.mp isFlush with rfl | later
      · left
        rw [Store.Holds, content]
        exact carried
      · exact .inr ⟨carrier, List.mem_cons_of_mem _ later, carried⟩

/-- One operation of a call loses nothing, if the call does not start to read
the file while another one writes it. -/
theorem Kept.flushStep {store after : Store} {flush next : Flush}
    (kept : Kept store (flush :: others))
    (under : ∀ batch, flush = .reading batch → UnderCap linesCount store batch)
    (exclusive : ∀ batch, flush = .reading batch → ∀ other ∈ others, other.inFile = false)
    (stepped : flushStep linesCount store flush = some (next, after)) :
    Kept after (next :: others) := by
  rcases store with ⟨queue, file, popped⟩
  cases flush with
  | popping batch =>
      cases queue with
      | nil =>
          cases stepped
          exact kept.popNone
      | cons entry queue =>
          cases stepped
          exact kept.pop
  | reading batch =>
      rcases Option.map_eq_some_iff.mp stepped with ⟨out, rendered, same⟩
      cases same
      exact kept.read (under batch rfl) (exclusive batch rfl) rendered
  | creating out =>
      cases stepped
      exact kept.create
  | writing out =>
      cases stepped
      exact kept.write
  | returned => contradiction

end

theorem Kept.spawn {store : Store} {flushes : List Flush} (kept : Kept store flushes) :
    Kept store (.popping [] :: flushes) where
  queued := kept.queued
  batched := List.forall_mem_cons.mpr ⟨fun _ mem => (nomatch mem), kept.batched⟩
  alone := by
    rw [List.pairwise_cons]
    constructor
    · exact fun _ _ both => nomatch both.1
    · exact kept.alone
  covers out mem := kept.covers out (by simpa using mem)
  truncated out mem := kept.truncated out (by simpa using mem)
  popped entry mem ip isIp := by
    rcases kept.popped entry mem ip isIp with held | ⟨flush, isFlush, carries⟩
    · exact .inl held
    · exact .inr ⟨flush, List.mem_cons_of_mem _ isFlush, carries⟩

theorem Kept.end {store : Store} {flushes : List Flush} (kept : Kept store (.returned :: flushes)) :
    Kept store flushes where
  queued := kept.queued
  batched := (List.forall_mem_cons.mp kept.batched).2
  alone := (List.pairwise_cons.mp kept.alone).2
  covers out mem := kept.covers out (List.mem_cons_of_mem _ mem)
  truncated out mem := kept.truncated out (List.mem_cons_of_mem _ mem)
  popped entry mem ip isIp := by
    rcases kept.popped entry mem ip isIp with held | ⟨flush, isFlush, carries⟩
    · exact .inl held
    · rcases List.mem_cons.mp isFlush with rfl | later
      · contradiction
      · exact .inr ⟨flush, later, carries⟩

theorem Kept.push {store : Store} {flushes : List Flush} (kept : Kept store flushes)
    {entry : HistoryBufferEntry} (words : EntryWords entry) :
    Kept { store with queue := store.queue ++ [entry] } flushes where
  queued := by
    rw [List.forall_mem_append, List.forall_mem_singleton]
    exact ⟨kept.queued, words⟩
  batched := kept.batched
  alone := kept.alone
  covers := kept.covers
  truncated := kept.truncated
  popped := kept.popped

/-! ## Runs -/

/-- The lookup a call of `push_many` still holds. -/
def Pusher.entry : Pusher → Option HistoryBufferEntry
  | .trying entry | .rejected entry => some entry
  | _ => none

structure HistoryBuffer.Invariant (buffer : HistoryBuffer) : Prop where
  kept : Kept buffer.store (buffer.closer.flushes ++ buffer.spawned)
  /-- The flag is up as long as there is a spawned task, and there is only one. -/
  flagged : buffer.spawned.length = buffer.flushing.toNat
  pushing : ∀ pusher ∈ buffer.pushers, ∀ entry ∈ pusher.entry, EntryWords entry

/-- The batch of the call that reads the file in this step. -/
def HistoryBuffer.reads (buffer : HistoryBuffer) : HistoryEvent → Option (List HistoryBufferEntry)
  | .task n => buffer.spawned[n]?.bind Flush.read?
  | .closer => buffer.closer.flushes.head?.bind Flush.read?
  | _ => none

/-- What a call merges stays below the line cap. -/
def LineCapNotReached (linesCount : Nat) (buffer : HistoryBuffer) (event : HistoryEvent) : Prop :=
  ∀ batch ∈ buffer.reads event, UnderCap linesCount buffer.store batch

/-- A lookup is made of words, and neither does a spawned task start to read the
file while `close` writes it nor the other way round. -/
def Orderly (buffer : HistoryBuffer) : HistoryEvent → Prop
  | .pushMany domain ips => ips ≠ [] → EntryWords (domain, ips)
  | .task n => (buffer.reads (.task n)).isSome →
      ∀ flush ∈ buffer.closer.flushes, flush.inFile = false
  | .closer => (buffer.reads .closer).isSome → ∀ flush ∈ buffer.spawned, flush.inFile = false
  | _ => True

instance (linesCount : Nat) (buffer : HistoryBuffer) (event : HistoryEvent) :
    Decidable (LineCapNotReached linesCount buffer event) :=
  inferInstanceAs (Decidable (∀ batch ∈ buffer.reads event,
    (merged buffer.store.content batch).order.length ≤ linesCount))

instance (buffer : HistoryBuffer) : ∀ event, Decidable (Orderly buffer event)
  | .pushMany domain ips => inferInstanceAs (Decidable (ips ≠ [] → EntryWords (domain, ips)))
  | .task n => inferInstanceAs (Decidable ((buffer.reads (.task n)).isSome →
      ∀ flush ∈ buffer.closer.flushes, flush.inFile = false))
  | .closer => inferInstanceAs (Decidable ((buffer.reads .closer).isSome →
      ∀ flush ∈ buffer.spawned, flush.inFile = false))
  | .pusher _ | .close => .isTrue trivial

namespace HistoryBuffer

theorem invariant_new (file : Option Bytes) : (new file).Invariant where
  kept := by
    constructor
    case alone => exact List.Pairwise.nil
    all_goals exact fun _ mem => nomatch mem
  flagged := rfl
  pushing _ mem := nomatch mem

theorem Invariant.trySpawnFlush {buffer : HistoryBuffer} (inv : buffer.Invariant) :
    buffer.trySpawnFlush.Invariant := by
  rw [HistoryBuffer.trySpawnFlush]
  split
  · exact inv
  · rename_i down
    have flagged := inv.flagged
    simp only [down, Bool.toNat_false, List.length_eq_zero_iff] at flagged
    constructor
    case kept =>
      have kept := inv.kept.spawn
      rw [flagged, List.append_nil] at kept
      simp only [flagged, List.nil_append]
      exact kept.perm (List.perm_append_singleton _ _).symm
    case flagged =>
      simp [flagged]
    case pushing => exact inv.pushing

theorem pushers_trySpawnFlush (buffer : HistoryBuffer) :
    buffer.trySpawnFlush.pushers = buffer.pushers := by
  rw [HistoryBuffer.trySpawnFlush]
  split <;> rfl

theorem Invariant.pushMany {buffer : HistoryBuffer} (inv : buffer.Invariant) {domain : Text}
    {ips : List Text} (words : ips ≠ [] → EntryWords (domain, ips)) :
    (buffer.pushMany matchedList domain ips).Invariant := by
  rw [HistoryBuffer.pushMany]
  split
  · exact inv
  · rename_i nonempty
    split
    · exact inv
    · constructor
      case kept => exact inv.kept
      case flagged => exact inv.flagged
      case pushing =>
        rw [List.forall_mem_append, List.forall_mem_singleton]
        constructor
        · exact inv.pushing
        · rintro entry ⟨⟩
          exact words nonempty

/-- A call of `push_many` goes on with what it holds. -/
theorem Invariant.setPusher {buffer : HistoryBuffer} (inv : buffer.Invariant) {n : Nat}
    {pusher : Pusher} (words : ∀ entry ∈ pusher.entry, EntryWords entry) :
    Invariant { buffer with pushers := buffer.pushers.set n pusher } where
  kept := inv.kept
  flagged := inv.flagged
  pushing other mem := by
    rcases List.mem_or_eq_of_mem_set mem with before | rfl
    · exact inv.pushing other before
    · exact words

theorem Invariant.pusherStep {buffer after : HistoryBuffer} (inv : buffer.Invariant) {n : Nat}
    {pusher : Pusher} (here : buffer.pushers[n]? = some pusher)
    (stepped : buffer.pusherStep n pusher = some after) : after.Invariant := by
  have words := inv.pushing pusher (List.mem_of_getElem? here)
  cases pusher with
  | trying entry =>
      have entryWords : EntryWords entry := words entry rfl
      rw [HistoryBuffer.pusherStep] at stepped
      split at stepped
      · cases stepped
        have queued : Invariant { buffer with
            store := { buffer.store with queue := buffer.store.queue ++ [entry] } } :=
          ⟨inv.kept.push entryWords, inv.flagged, inv.pushing⟩
        exact queued.setPusher fun _ none => nomatch none
      · cases stepped
        apply inv.setPusher
        rintro other ⟨⟩
        exact entryWords
  | rejected entry =>
      cases stepped
      rw [← pushers_trySpawnFlush]
      exact inv.trySpawnFlush.setPusher words
  | pushed =>
      cases stepped
      apply inv.setPusher
      intro entry some
      split at some <;> contradiction
  | full =>
      cases stepped
      rw [← pushers_trySpawnFlush]
      exact inv.trySpawnFlush.setPusher words
  | returned => contradiction

theorem Invariant.taskStep {buffer after : HistoryBuffer} (inv : buffer.Invariant) {n : Nat}
    {flush : Flush} (here : buffer.spawned[n]? = some flush)
    (under : ∀ batch, flush = .reading batch → UnderCap linesCount buffer.store batch)
    (exclusive : ∀ batch, flush = .reading batch →
      ∀ other ∈ buffer.closer.flushes, other.inFile = false)
    (stepped : buffer.taskStep linesCount n flush = some after) : after.Invariant := by
  -- the flag lets only this task exist
  have alone : buffer.spawned = [flush] ∧ n = 0 := by
    have inside := (List.getElem?_eq_some_iff.mp here).1
    have flagged := inv.flagged
    have atMost := buffer.flushing.toNat_le
    obtain ⟨task, single⟩ := List.length_eq_one_iff.mp (by omega : buffer.spawned.length = 1)
    rw [single, List.length_singleton, Nat.lt_one_iff] at inside
    subst inside
    rw [single] at here
    cases here
    exact ⟨single, rfl⟩
  rcases alone with ⟨single, rfl⟩
  have flagged := inv.flagged
  have kept := inv.kept
  rw [single] at kept flagged
  replace kept := kept.perm (List.perm_append_singleton _ _)
  have running : ∀ next store, flushStep linesCount buffer.store flush = some (next, store) →
      Invariant { buffer with store, spawned := buffer.spawned.set 0 next } := by
    intro next store flushed
    constructor
    case kept =>
      have advanced := kept.flushStep under exclusive flushed
      rw [single]
      exact advanced.perm (List.perm_append_singleton _ _).symm
    case flagged =>
      rw [single]
      exact flagged
    case pushing => exact inv.pushing
  have general : flush ≠ .returned → ∃ next store,
      flushStep linesCount buffer.store flush = some (next, store) ∧
      after = { buffer with store, spawned := buffer.spawned.set 0 next } := by
    intro unfinished
    rw [HistoryBuffer.taskStep] at stepped
    · rcases Option.map_eq_some_iff.mp stepped with ⟨⟨next, store⟩, flushed, rfl⟩
      exact ⟨next, store, flushed, rfl⟩
    · exact unfinished
  by_cases finished : flush = .returned
  · subst finished
    cases stepped
    constructor
    case kept =>
      simp only [single, List.eraseIdx_cons_zero, List.append_nil]
      exact kept.end
    case flagged => simp [single]
    case pushing => exact inv.pushing
  · rcases general finished with ⟨next, store, flushed, rfl⟩
    exact running next store flushed

theorem Invariant.closerStep {buffer after : HistoryBuffer} (inv : buffer.Invariant)
    (under : ∀ batch, buffer.closer = .running (.reading batch) →
      UnderCap linesCount buffer.store batch)
    (exclusive : ∀ batch, buffer.closer = .running (.reading batch) →
      ∀ flush ∈ buffer.spawned, flush.inFile = false)
    (stepped : buffer.closerStep linesCount buffer.closer = some after) : after.Invariant := by
  have kept := inv.kept
  cases closer : buffer.closer with
  | uncalled =>
      rw [closer] at stepped
      contradiction
  | waiting =>
      rw [closer] at stepped kept
      cases stepped
      split
      · exact inv
      · exact ⟨kept.spawn, inv.flagged, inv.pushing⟩
  | running flush =>
      rw [closer] at stepped kept
      rcases Option.map_eq_some_iff.mp stepped with ⟨⟨next, store⟩, flushed, rfl⟩
      constructor
      case kept =>
        apply Kept.flushStep kept _ _ flushed
        · rintro batch rfl
          exact under batch closer
        · rintro batch rfl
          exact exclusive batch closer
      case flagged => exact inv.flagged
      case pushing => exact inv.pushing

/-- One step of anybody keeps the invariant. -/
theorem Invariant.step {buffer after : HistoryBuffer} {event : HistoryEvent}
    (inv : buffer.Invariant) (uncapped : LineCapNotReached linesCount buffer event)
    (orderly : Orderly buffer event)
    (stepped : buffer.step linesCount matchedList event = some after) : after.Invariant := by
  cases event with
  | pushMany domain ips =>
      cases stepped
      exact inv.pushMany orderly
  | pusher n =>
      rcases Option.bind_eq_some_iff.mp stepped with ⟨pusher, here, pushed⟩
      exact inv.pusherStep here pushed
  | task n =>
      rcases Option.bind_eq_some_iff.mp stepped with ⟨flush, here, ran⟩
      have read : ∀ batch, flush = .reading batch → buffer.reads (.task n) = some batch := by
        rintro batch rfl
        rw [reads, here]
        rfl
      apply inv.taskStep here _ _ ran
      · exact fun batch reading => uncapped batch (read batch reading)
      · intro batch reading
        apply orderly
        rw [read batch reading]
        rfl
  | close =>
      have kept := inv.kept
      rw [HistoryBuffer.step] at stepped
      split at stepped
      · rename_i closer
        cases stepped
        rw [closer] at kept
        exact ⟨kept, inv.flagged, inv.pushing⟩
      · contradiction
  | closer =>
      have read : ∀ batch, buffer.closer = .running (.reading batch) →
          buffer.reads .closer = some batch := by
        intro batch running
        rw [reads, running]
        rfl
      apply inv.closerStep _ _ stepped
      · exact fun batch reading => uncapped batch (read batch reading)
      · intro batch reading
        apply orderly
        rw [read batch reading]
        rfl

end HistoryBuffer

open HistoryBuffer in
/-- In a run whose calls keep apart at the file, all that was popped is in the
file once `close` has returned and no spawned task is left. -/
theorem closed_file_complete {file : Option Bytes} {trace : List HistoryEvent}
    {final : HistoryBuffer} (ran : run (step linesCount matchedList) (new file) trace = some final)
    (uncapped : Along (step linesCount matchedList) (LineCapNotReached linesCount) (new file) trace)
    (orderly : Along (step linesCount matchedList) Orderly (new file) trace)
    (closed : final.closer = .running .returned) (finished : final.spawned = []) :
    ∀ entry ∈ final.store.popped, ∀ ip ∈ entry.2,
      Merge.Recorded final.store.content entry.1 ip := by
  have inv : final.Invariant :=
    run_invariant_along (invariant_new file)
      (fun _ _ _ inv guards stepped => inv.step guards.1 guards.2 stepped)
      (along_and.mpr ⟨uncapped, orderly⟩) ran
  intro entry mem ip isIp
  apply Merge.recorded_of_holds_readFile
  have kept := inv.kept
  rw [closed, finished] at kept
  rcases kept.popped entry mem ip isIp with held | ⟨flush, isFlush, carries⟩
  · exact held
  · cases List.mem_singleton.mp isFlush
    contradiction

/-! ## Two runs -/

/-- What a finished run is looked at for. -/
structure Outcome where
  closer : List Flush
  spawned : List Flush
  file : Option Bytes
  popped : List HistoryBufferEntry
  deriving DecidableEq

def HistoryBuffer.outcome (buffer : HistoryBuffer) : Outcome where
  closer := buffer.closer.flushes
  spawned := buffer.spawned
  file := buffer.store.file
  popped := buffer.store.popped

theorem Closer.running_of_flushes {closer : Closer} {flush : Flush}
    (same : closer.flushes = [flush]) : closer = .running flush := by
  cases closer with
  | uncalled => contradiction
  | waiting => contradiction
  | running other =>
      cases same
      rfl

/-- `close` has read the file when a full queue makes a task flush it; the task
writes last. -/
def raceTrace : List HistoryEvent :=
  [.pushMany ['b'] [['2']], .pusher 0, .pusher 0, .close, .closer, .closer, .closer, .closer] ++
    (List.range CAP).flatMap (fun n => [.pushMany ['a'] [['1']], .pusher (n + 1)]) ++
    [.pusher CAP, .pusher CAP] ++ List.replicate (CAP + 2) (.task 0) ++
    [.closer, .closer, .task 0, .task 0, .task 0]

/-- One lookup, and then `close`. -/
def closeTrace : List HistoryEvent :=
  [.pushMany ['b'] [['2']], .pusher 0, .pusher 0, .close] ++ List.replicate 6 .closer

section

open HistoryBuffer

set_option maxRecDepth 100000 in
theorem raceTrace_outcome :
    ((run (step 100000 []) (new none) raceTrace).map outcome =
      some ⟨[.returned], [], some (toUtf8 ['a', ' ', '1', '\n']),
        List.replicate CAP (['a'], [['1']]) ++ [(['b'], [['2']])]⟩) ∧
      Along (step 100000 []) (LineCapNotReached 100000) (new none) raceTrace := by
  decide +kernel

/-- A spawned task and `close` both merge into the file they have read, and the
lookup of the one that writes first is gone. -/
theorem concurrent_flush_loses_lookup : ¬ ∀ linesCount file trace final,
    run (step linesCount []) (new file) trace = some final →
    Along (step linesCount []) (LineCapNotReached linesCount) (new file) trace →
    final.closer = .running .returned → final.spawned = [] →
    ∀ entry ∈ final.store.popped, ∀ ip ∈ entry.2,
      Merge.Recorded final.store.content entry.1 ip := by
  intro always
  rcases raceTrace_outcome with ⟨evaluated, uncapped⟩
  rcases Option.map_eq_some_iff.mp evaluated with ⟨final, ran, same⟩
  simp only [outcome, Outcome.mk.injEq] at same
  rcases same with ⟨closer, spawned, file, popped⟩
  have mem : (['b'], [['2']]) ∈ final.store.popped := by
    rw [popped]
    exact List.mem_append_right _ List.mem_cons_self
  have recorded := always 100000 none raceTrace final ran uncapped
    (Closer.running_of_flushes closer) spawned _ mem ['2'] List.mem_cons_self
  rw [Store.content, file, Option.bind_some, fromUtf8_toUtf8] at recorded
  rcases recorded with ⟨text, ⟨⟩, entry, isLine, ips, split, _⟩
  have only : entry = ['a', ' ', '1'] := List.mem_singleton.mp isLine
  have parsed : splitWhitespace ['a', ' ', '1'] = [['a'], ['1']] := by decide
  rw [only, parsed] at split
  exact absurd (List.cons.inj split).1 (by decide)

theorem closed_file_complete_once :
    ∃ final, run (step 100 []) (new none) closeTrace = some final ∧
      Merge.Recorded final.store.content ['b'] ['2'] := by
  have evaluated : (run (step 100 []) (new none) closeTrace).map outcome =
      some ⟨[.returned], [], some (toUtf8 ['b', ' ', '2', '\n']), [(['b'], [['2']])]⟩ := by
    decide +kernel
  rcases Option.map_eq_some_iff.mp evaluated with ⟨final, ran, same⟩
  simp only [outcome, Outcome.mk.injEq] at same
  rcases same with ⟨closer, spawned, _, popped⟩
  have complete := closed_file_complete ran (by decide +kernel) (by decide +kernel)
    (Closer.running_of_flushes closer) spawned
  rw [popped] at complete
  exact ⟨final, ran, complete _ List.mem_cons_self _ List.mem_cons_self⟩

end

end DnsHijacker.DnsRelay
