import DnsHijacker.DnsRelay.HistoryFailures

/-!
# The history over many flushes

A relay that starts without a history file flushes one batch after the other, and each flush
reads what the one before has written.  The time of a lookup is the number of lookups before
it.  A domain enters the file with its first lookup in a batch that finds it not in the
file; the cap can remove it again, and it can enter anew.
-/

namespace DnsHijacker.DnsRelay

open DnsHijacker.Rust
open DnsHijacker.Library

abbrev Batch := List HistoryBufferEntry

/-! ## Flushes one after the other -/

/-- A batch waits in the queue and is flushed. -/
def flushBatch (linesCount : Nat) (store : Store) (batch : Batch) : Option Store :=
  (flushWith linesCount false none 0 { store with queue := batch }).map Prod.snd

/-- The store after some batches, the latest first, if no flush has panicked. -/
def storeAfter (linesCount : Nat) (past : List Batch) : Option Store :=
  run (flushBatch linesCount) ⟨[], none, []⟩ past.reverse

/-- The domains in the file after these batches. -/
def domainsAfter (linesCount : Nat) (past : List Batch) : List Text :=
  (storeAfter linesCount past).elim [] fun store => Merge.domainsOf store.content

/-- The time at which a domain came into the file. -/
def enteredAt (linesCount : Nat) : List Batch → Text → Nat
  | [], _ => 0
  | batch :: past, domain =>
      if domain ∈ domainsAfter linesCount past then enteredAt linesCount past domain
      else past.flatten.length + firstIndex (batch.map Prod.fst) domain

/-- The lookups of the batches since a domain came into the file. -/
def since (linesCount : Nat) : List Batch → Text → List HistoryBufferEntry
  | [], _ => []
  | batch :: past, domain =>
      if domain ∈ domainsAfter linesCount past then since linesCount past domain ++ batch
      else batch

/-- The addresses of the domain in these lookups. -/
def addressesOf (domain : Text) (lookups : List HistoryBufferEntry) : List Text :=
  lookups.flatMap fun entry => if entry.1 = domain then entry.2 else []

theorem addressesOf_append (domain : Text) (first second : List HistoryBufferEntry) :
    addressesOf domain (first ++ second) = addressesOf domain first ++ addressesOf domain second :=
  List.flatMap_append

/-- The lines of the file. -/
def linesOf : Option Text → List Text
  | none => []
  | some text => lines text

/-- What the lines of the file say. -/
def entriesOf (content : Option Text) : List HistoryBufferEntry :=
  (linesOf content).filterMap fun line =>
    match splitWhitespace line with
    | [] => none
    | domain :: ips => some (domain, ips)

theorem storeAfter_cons (linesCount : Nat) (batch : Batch) (past : List Batch) :
    storeAfter linesCount (batch :: past) =
      (storeAfter linesCount past).bind (flushBatch linesCount · batch) := by
  rw [storeAfter, List.reverse_cons, run_append, storeAfter]
  congr 1
  funext store
  exact Option.bind_fun_some _

namespace Merge

/-! ## The addresses of a line -/

/-- `seen` has the addresses of `history`. -/
def SeenAll (merge : Merge) : Prop :=
  ∀ domain ip, ip ∈ merge.seen domain ↔ ip ∈ merge.ipsOf domain

theorem ipsOf_enter {merge : Merge} {domain : Text} {ips seenSet order : List Text}
    (other : Text) : (merge.enter domain ips seenSet order).ipsOf other =
      if other = domain then ips else merge.ipsOf other := by
  rw [ipsOf, history_enter]
  split <;> rfl

theorem SeenAll.enter {merge : Merge} (all : merge.SeenAll) {domain : Text}
    {ips seenSet order : List Text} (same : ∀ ip, ip ∈ seenSet ↔ ip ∈ ips) :
    (merge.enter domain ips seenSet order).SeenAll := by
  intro other ip
  rw [ipsOf_enter]
  change ip ∈ Function.update merge.seen domain seenSet other ↔ _
  rw [Function.update_apply]
  split
  · exact same ip
  · exact all other ip

theorem seenAll_readFile (content : Option Text) : (readFile content).SeenAll := by
  have empty : new.SeenAll := fun _ _ => Iff.rfl
  cases content with
  | none => exact empty
  | some text =>
      rw [readFile]
      generalize lines text = texts
      have general : ∀ merge : Merge, merge.SeenAll →
          (texts.foldl Merge.readLine merge).SeenAll := by
        induction texts with
        | nil => exact fun _ all => all
        | cons text texts ih =>
            intro merge all
            apply ih
            rw [readLine]
            split
            · exact all
            · exact all.enter fun _ => Iff.rfl
      exact general new empty

/-- The addresses are added in their order, those that are there already left out. -/
theorem foldl_addIp_eq {existing seenSet : List Text} (ips : List Text)
    (same : ∀ ip, ip ∈ seenSet ↔ ip ∈ existing) :
    (ips.foldl addIp (existing, seenSet)).1 = firstSeen existing ips ∧
      ∀ ip, ip ∈ (ips.foldl addIp (existing, seenSet)).2 ↔ ip ∈ firstSeen existing ips := by
  induction ips generalizing existing seenSet with
  | nil => exact ⟨rfl, same⟩
  | cons first ips ih =>
      rw [List.foldl_cons, addIp, firstSeen_cons, keepNew]
      by_cases known : first ∈ existing
      · rw [if_pos ((same first).mpr known), if_pos known]
        exact ih same
      · rw [if_neg (mt (same first).mp known), if_neg known]
        apply ih
        intro ip
        rw [List.mem_cons, List.mem_append, List.mem_singleton, same, or_comm]

theorem SeenAll.addEntry {merge : Merge} (all : merge.SeenAll) (entry : HistoryBufferEntry) :
    (merge.addEntry entry).SeenAll ∧ ∀ domain, (merge.addEntry entry).ipsOf domain =
      firstSeen (merge.ipsOf domain) (addressesOf domain [entry]) := by
  rcases entry with ⟨own, ips⟩
  obtain ⟨order, entered⟩ : ∃ order, merge.addEntry (own, ips) =
      merge.enter own (ips.foldl addIp (merge.ipsOf own, merge.seen own)).1
        (ips.foldl addIp (merge.ipsOf own, merge.seen own)).2 order := by
    rw [Merge.addEntry, ipsOf]
    cases merge.history own <;> exact ⟨_, rfl⟩
  obtain ⟨added, seenToo⟩ := foldl_addIp_eq ips (all own)
  rw [entered, added]
  constructor
  · exact all.enter seenToo
  · intro domain
    rw [ipsOf_enter, addressesOf, List.flatMap_singleton]
    by_cases same : domain = own
    · rw [if_pos same, if_pos same.symm, same]
    · rw [if_neg same, if_neg (Ne.symm same), firstSeen_nil]

theorem SeenAll.addEntries {merge : Merge} (all : merge.SeenAll) (batch : Batch)
    (domain : Text) : (batch.foldl Merge.addEntry merge).ipsOf domain =
      firstSeen (merge.ipsOf domain) (addressesOf domain batch) := by
  induction batch generalizing merge with
  | nil => rfl
  | cons entry batch ih =>
      obtain ⟨still, here⟩ := all.addEntry entry
      rw [List.foldl_cons, ih still, here, ← firstSeen_append, ← addressesOf_append,
        List.singleton_append]

theorem ipsOf_merged (content : Option Text) (batch : Batch) (domain : Text) :
    (merged content batch).ipsOf domain =
      firstSeen ((readFile content).ipsOf domain) (addressesOf domain batch) :=
  (seenAll_readFile content).addEntries batch domain

/-! ## What is written and read again -/

theorem Sound.domainsOf_render {merge : Merge} (sound : merge.Sound) {out : Text}
    (rendered : merge.render = some out) : domainsOf (some out) = merge.order := by
  have first : ∀ domain ∈ merge.order,
      (splitWhitespace (line domain (merge.ipsOf domain))).head? = some domain := by
    intro domain ordered
    rw [line, splitWhitespace_words (sound.domainWord domain ordered) (sound.ipsOf_word ordered)]
    rfl
  rw [domainsOf, sound.lines_render rendered, List.filterMap_map]
  exact (List.filterMap_congr first).trans List.filterMap_some

theorem Sound.entriesOf_render {merge : Merge} (sound : merge.Sound) {out : Text}
    (rendered : merge.render = some out) :
    entriesOf (some out) = merge.order.map fun domain => (domain, merge.ipsOf domain) := by
  rw [entriesOf, linesOf, sound.lines_render rendered, List.filterMap_map, ← List.filterMap_eq_map]
  apply List.filterMap_congr
  intro domain ordered
  simp only [Function.comp_apply, line,
    splitWhitespace_words (sound.domainWord domain ordered) (sound.ipsOf_word ordered)]

section

variable {linesCount : Nat} {content : Option Text} {batch : Batch} {out : Text}
  (areWords : ∀ entry ∈ batch, EntryWords entry)
  (apart : Apart linesCount (listing content batch))
  (rendered : rewritten linesCount content batch = some out)
include areWords apart rendered

theorem domainsOf_rewritten :
    domainsOf (some out) = remaining linesCount (listing content batch) := by
  rw [(sound_rewritten areWords apart).domainsOf_render rendered, order_dropExcess,
    order_merged_batch]
  rfl

theorem entriesOf_rewritten :
    entriesOf (some out) =
      (domainsOf (some out)).map fun domain => (domain, (readFile (some out)).ipsOf domain) := by
  have sound := sound_rewritten areWords apart
  rw [sound.entriesOf_render rendered, sound.domainsOf_render rendered]
  apply List.map_congr_left
  intro domain _
  rw [ipsOf, ipsOf, sound.history_readFile rendered]

theorem length_linesOf_rewritten :
    (linesOf (some out)).length = (domainsOf (some out)).length := by
  have sound := sound_rewritten areWords apart
  rw [linesOf, sound.lines_render rendered, List.length_map, sound.domainsOf_render rendered]

theorem ipsOf_rewritten {domain : Text} (mem : domain ∈ domainsOf (some out)) :
    (readFile (some out)).ipsOf domain =
      firstSeen ((readFile content).ipsOf domain) (addressesOf domain batch) := by
  rw [domainsOf_rewritten areWords apart rendered] at mem
  have kept : domain ∉ removed linesCount (listing content batch) := fun gone => apart domain gone mem
  rw [removed] at kept
  rw [ipsOf, (sound_rewritten areWords apart).history_readFile rendered, history_dropExcess,
    order_merged_batch, if_neg kept]
  exact ipsOf_merged content batch domain

end

end Merge

/-! ## The timeline -/

/-- The file after some batches, the latest first: it has few enough lines, one for a domain,
in the order in which the domains came in, and a line has the addresses recorded since. -/
structure Timeline (linesCount : Nat) (past : List Batch) (content : Option Text) : Prop where
  few : (linesOf content).length ≤ linesCount
  whole : (linesOf content).length = (Merge.domainsOf content).length
  entries : entriesOf content =
    (Merge.domainsOf content).map fun domain =>
      (domain, firstSeen [] (addressesOf domain (since linesCount past domain)))
  read : ∀ domain ∈ Merge.domainsOf content, (Merge.readFile content).ipsOf domain =
    firstSeen [] (addressesOf domain (since linesCount past domain))
  once : (Merge.domainsOf content).Nodup
  ordered : (Merge.domainsOf content).Pairwise fun first second =>
    enteredAt linesCount past first < enteredAt linesCount past second
  before : ∀ domain ∈ Merge.domainsOf content,
    enteredAt linesCount past domain < past.flatten.length

theorem timeline_new (linesCount : Nat) : Timeline linesCount [] none where
  few := Nat.zero_le _
  whole := rfl
  entries := rfl
  read _ mem := nomatch mem
  once := .nil
  ordered := .nil
  before _ mem := nomatch mem

/-- What stands in a line is in the maps that are read from it. -/
theorem Timeline.holds_of_recorded {linesCount : Nat} {past : List Batch}
    {content : Option Text} (timeline : Timeline linesCount past content) {domain ip : Text}
    (recorded : Merge.Recorded content domain ip) : (Merge.readFile content).Holds domain ip := by
  obtain ⟨text, rfl, line, mem, ips, words, isIp⟩ := recorded
  have listed : (domain, ips) ∈ entriesOf (some text) :=
    List.mem_filterMap.mpr ⟨line, mem, by rw [words]⟩
  rw [timeline.entries, List.mem_map] at listed
  obtain ⟨other, isDomain, same⟩ := listed
  cases same
  have read := timeline.read domain isDomain
  rw [← Merge.order_readFile] at isDomain
  exact ⟨_, (Merge.sound_readFile (some text)).history_eq isDomain, read ▸ isIp⟩

section

variable {linesCount : Nat} {past : List Batch} {content : Option Text} {batch : Batch}
  (timeline : Timeline linesCount past content)
  (now : domainsAfter linesCount past = Merge.domainsOf content)
include timeline now

/-- Old domains and new ones stand in the order in which they came in. -/
theorem pairwise_listing (batch : Batch) : (Merge.listing content batch).Pairwise fun first second =>
    enteredAt linesCount (batch :: past) first < enteredAt linesCount (batch :: past) second := by
  have stays : ∀ domain ∈ Merge.domainsOf content,
      enteredAt linesCount (batch :: past) domain = enteredAt linesCount past domain := by
    intro domain mem
    rw [enteredAt, now, if_pos mem]
  apply pairwise_firstSeen past.flatten.length
  · apply timeline.ordered.imp_of_mem
    intro first second isFirst isSecond earlier
    rw [stays first isFirst, stays second isSecond]
    exact earlier
  · intro domain mem
    rw [stays domain mem]
    exact timeline.before domain mem
  · intro domain _ absent
    rw [enteredAt, now, if_neg absent]

theorem enteredAt_lt {domain : Text} (mem : domain ∈ Merge.listing content batch) :
    enteredAt linesCount (batch :: past) domain < (batch :: past).flatten.length := by
  rw [enteredAt, now, List.flatten_cons, List.length_append]
  split
  · rename_i known
    have earlier := timeline.before domain known
    omega
  · rename_i absent
    have last := firstIndex_lt ((mem_firstSeen.mp mem).resolve_left absent)
    rw [List.length_map] at last
    omega

/-- The addresses of a domain before the batch and those of the batch are those since it came
in. -/
theorem addressesOf_since (domain : Text) :
    firstSeen ((Merge.readFile content).ipsOf domain) (addressesOf domain batch) =
      firstSeen [] (addressesOf domain (since linesCount (batch :: past) domain)) := by
  rw [since, now]
  by_cases known : domain ∈ Merge.domainsOf content
  · rw [if_pos known, timeline.read domain known, addressesOf_append, firstSeen_append]
  · rw [if_neg known]
    have absent : (Merge.readFile content).ipsOf domain = [] := by
      rw [← Merge.order_readFile, (Merge.sound_readFile content).ordered] at known
      rw [Merge.ipsOf, Option.eq_none_iff_forall_ne_some.mpr fun ips here => known ⟨ips, here⟩]
      rfl
    rw [absent]

/-- A batch is flushed. -/
theorem Timeline.flush (areWords : ∀ entry ∈ batch, EntryWords entry) {out : Text}
    (rendered : Merge.rewritten linesCount content batch = some out) :
    Timeline linesCount (batch :: past) (some out) := by
  have nodup := Merge.nodup_listing timeline.once batch
  have apart : Merge.Apart linesCount (Merge.listing content batch) := Merge.apart_of_nodup nodup
  have domains := Merge.domainsOf_rewritten areWords apart rendered
  have sublist : (Merge.domainsOf (some out)).Sublist (Merge.listing content batch) := by
    rw [domains]
    exact List.drop_sublist _ _
  have read : ∀ domain ∈ Merge.domainsOf (some out),
      (Merge.readFile (some out)).ipsOf domain =
        firstSeen [] (addressesOf domain (since linesCount (batch :: past) domain)) := by
    intro domain mem
    rw [Merge.ipsOf_rewritten areWords apart rendered mem, addressesOf_since timeline now]
  constructor
  case few =>
    rw [Merge.length_linesOf_rewritten areWords apart rendered, domains, Merge.remaining,
      List.length_drop]
    omega
  case whole => exact Merge.length_linesOf_rewritten areWords apart rendered
  case entries =>
    rw [Merge.entriesOf_rewritten areWords apart rendered]
    apply List.map_congr_left
    intro domain mem
    rw [read domain mem]
  case read => exact read
  case once => exact nodup.sublist sublist
  case ordered => exact (pairwise_listing timeline now batch).sublist sublist
  case before => exact fun domain mem => enteredAt_lt timeline now (sublist.mem mem)

/-- An empty batch leaves the file. -/
theorem Timeline.skip : Timeline linesCount ([] :: past) content where
  few := timeline.few
  whole := timeline.whole
  entries := by
    rw [timeline.entries]
    apply List.map_congr_left
    intro domain mem
    rw [since, now, if_pos mem, List.append_nil]
  read domain mem := by
    rw [timeline.read domain mem, since, now, if_pos mem, List.append_nil]
  once := timeline.once
  ordered := by
    have pairwise := pairwise_listing timeline now []
    exact pairwise
  before domain mem := enteredAt_lt timeline now (mem_firstSeen.mpr (.inl mem))

end

/-! ## Whole runs -/

theorem flushBatch_nil (linesCount : Nat) (store : Store) :
    flushBatch linesCount store [] = some { store with queue := [] } :=
  rfl

theorem flushBatch_of_ne_nil {linesCount : Nat} {store : Store} {batch : Batch} {out : Text}
    (queued : batch ≠ []) (rendered : Merge.rewritten linesCount store.content batch = some out) :
    flushBatch linesCount store batch =
      some ⟨[], some (toUtf8 out), batch.reverse ++ store.popped⟩ := by
  have ended : flushWith linesCount false none 0 { store with queue := batch } =
      some (writeOut none 0 (Store.taken { store with queue := batch }) out) := by
    apply flushWith_of_rewritten
    · exact queued
    · exact rendered
  rw [flushBatch, ended]
  rfl

/-- A flush goes on with the timeline: it merges the batch in and removes the first lines. -/
structure Flushed (linesCount : Nat) (past : List Batch) (batch : Batch)
    (before after : Option Text) : Prop where
  timeline : Timeline linesCount (batch :: past) after
  domains : Merge.domainsOf after =
    Merge.remaining linesCount (Merge.listing before batch)
  recorded : ∀ domain ip, Merge.Recorded after domain ip ↔
    ((Merge.readFile before).Holds domain ip ∨ InQueue batch domain ip) ∧
      domain ∉ Merge.removed linesCount (Merge.listing before batch)

theorem Timeline.flushed_nil {linesCount : Nat} {past : List Batch} {content : Option Text}
    (timeline : Timeline linesCount past content)
    (now : domainsAfter linesCount past = Merge.domainsOf content) :
    Flushed linesCount past [] content content := by
  have short : (Merge.listing content []).length - linesCount = 0 := by
    have few := timeline.few
    rw [timeline.whole] at few
    exact Nat.sub_eq_zero_of_le few
  constructor
  case timeline => exact timeline.skip now
  case domains =>
    rw [Merge.remaining, short]
    rfl
  case recorded =>
    intro domain ip
    rw [Merge.removed, short, List.take_zero, and_iff_left List.not_mem_nil,
      or_iff_left (not_inQueue_nil domain ip)]
    exact ⟨timeline.holds_of_recorded, Merge.recorded_of_holds_readFile⟩

/-- A batch is flushed without a panic. -/
theorem Timeline.flushBatch {linesCount : Nat} {past : List Batch} {store : Store} {batch : Batch}
    (timeline : Timeline linesCount past store.content)
    (now : domainsAfter linesCount past = Merge.domainsOf store.content)
    (areWords : ∀ entry ∈ batch, EntryWords entry) :
    ∃ after, flushBatch linesCount store batch = some after ∧
      Flushed linesCount past batch store.content after.content := by
  by_cases empty : batch = []
  · subst empty
    exact ⟨_, flushBatch_nil linesCount store, timeline.flushed_nil now⟩
  · have apart : Merge.Apart linesCount (Merge.listing store.content batch) :=
      Merge.apart_of_nodup (Merge.nodup_listing timeline.once batch)
    obtain ⟨out, rendered⟩ := Merge.exists_rewritten_iff.mpr apart
    have content : ∀ popped, Store.content ⟨[], some (toUtf8 out), popped⟩ = some out :=
      fun _ => fromUtf8_toUtf8 out
    refine ⟨_, flushBatch_of_ne_nil empty rendered, ?_⟩
    rw [content]
    constructor
    case timeline => exact timeline.flush now areWords rendered
    case domains => exact Merge.domainsOf_rewritten areWords apart rendered
    case recorded => exact fun _ _ => Merge.recorded_rewritten_iff areWords apart rendered

/-- No flush of words panics, and each goes on with the timeline. -/
theorem exists_storeAfter {linesCount : Nat} {past : List Batch}
    (areWords : ∀ batch ∈ past, ∀ entry ∈ batch, EntryWords entry) :
    ∃ store, storeAfter linesCount past = some store ∧
      Timeline linesCount past store.content := by
  induction past with
  | nil => exact ⟨_, rfl, timeline_new linesCount⟩
  | cons batch past ih =>
      rw [List.forall_mem_cons] at areWords
      obtain ⟨store, reached, timeline⟩ := ih areWords.2
      have now : domainsAfter linesCount past = Merge.domainsOf store.content := by
        rw [domainsAfter, reached]
        rfl
      obtain ⟨after, ran, flushed⟩ := timeline.flushBatch now areWords.1
      refine ⟨after, ?_, flushed.timeline⟩
      rw [storeAfter_cons, reached]
      exact ran

/-- What a flush makes of the file. -/
structure WellMerged (linesCount : Nat) (past : List Batch) (batch : Batch)
    (before after : Option Text) : Prop where
  few : (linesOf after).length ≤ linesCount
  /-- Every line has a domain, and no two lines the same. -/
  whole : (entriesOf after).length = (linesOf after).length
  once : ((entriesOf after).map Prod.fst).Nodup
  ordered : (entriesOf after).Pairwise fun first second =>
    enteredAt linesCount (batch :: past) first.1 < enteredAt linesCount (batch :: past) second.1
  /-- The addresses of a line are those recorded since its domain came in. -/
  recorded : ∀ entry ∈ entriesOf after, ∀ ip,
    ip ∈ entry.2 ↔ ip ∈ addressesOf entry.1 (since linesCount (batch :: past) entry.1)
  distinct : ∀ entry ∈ entriesOf after, entry.2.Nodup
  inOrder : ∀ entry ∈ entriesOf after, entry.2.Pairwise fun first second =>
    let addresses := addressesOf entry.1 (since linesCount (batch :: past) entry.1)
    firstIndex addresses first < firstIndex addresses second
  present : ∀ domain ip, Merge.Recorded before domain ip ∨ InQueue batch domain ip →
    Merge.Recorded after domain ip ∨
      domain ∈ Merge.removed linesCount (Merge.listing before batch)
  /-- The domains that are removed came in before all others, and no more are removed than the
  cap asks for. -/
  oldest : ∀ gone ∈ Merge.removed linesCount (Merge.listing before batch),
    (linesOf after).length = linesCount ∧ ∀ entry ∈ entriesOf after,
      enteredAt linesCount (batch :: past) gone < enteredAt linesCount (batch :: past) entry.1

theorem wellMerged_of_flushed {linesCount : Nat} {past : List Batch} {batch : Batch}
    {before after : Option Text} (timeline : Timeline linesCount past before)
    (now : domainsAfter linesCount past = Merge.domainsOf before)
    (flushed : Flushed linesCount past batch before after) :
    WellMerged linesCount past batch before after := by
  have entry_eq : ∀ entry ∈ entriesOf after, entry.1 ∈ Merge.domainsOf after ∧
      entry.2 = firstSeen [] (addressesOf entry.1 (since linesCount (batch :: past) entry.1)) := by
    intro entry mem
    rw [flushed.timeline.entries, List.mem_map] at mem
    obtain ⟨domain, isDomain, rfl⟩ := mem
    exact ⟨isDomain, rfl⟩
  have domains : (entriesOf after).map Prod.fst = Merge.domainsOf after := by
    rw [flushed.timeline.entries, List.map_map]
    exact List.map_id _
  constructor
  case few => exact flushed.timeline.few
  case whole => rw [flushed.timeline.entries, List.length_map, flushed.timeline.whole]
  case once => exact domains ▸ flushed.timeline.once
  case ordered =>
    have pairwise := flushed.timeline.ordered
    rw [← domains, List.pairwise_map] at pairwise
    exact pairwise
  case recorded =>
    intro entry mem ip
    rw [(entry_eq entry mem).2, mem_firstSeen, or_iff_right List.not_mem_nil]
  case distinct =>
    intro entry mem
    rw [(entry_eq entry mem).2]
    exact nodup_firstSeen .nil _
  case inOrder =>
    intro entry mem
    rw [(entry_eq entry mem).2]
    exact pairwise_firstIndex _
  case present =>
    intro domain ip known
    rw [flushed.recorded]
    by_cases gone : domain ∈ Merge.removed linesCount (Merge.listing before batch)
    · exact .inr gone
    · exact .inl ⟨known.imp_left timeline.holds_of_recorded, gone⟩
  case oldest =>
    intro gone isGone
    have pairwise := pairwise_listing timeline now batch
    rw [← List.take_append_drop ((Merge.listing before batch).length - linesCount)
      (Merge.listing before batch), List.pairwise_append] at pairwise
    have some := List.length_pos_of_mem isGone
    rw [Merge.removed, List.length_take] at some
    constructor
    · rw [flushed.timeline.whole, flushed.domains, Merge.remaining, List.length_drop]
      omega
    · intro entry mem
      have stays := (entry_eq entry mem).1
      rw [flushed.domains] at stays
      exact pairwise.2.2 gone isGone entry.1 stays

/-- After each flush of a run over words that began without a file, the file has at most
`lines_count` lines, one for a domain, in the order in which the domains came in; a line has
the addresses recorded since then, once each and in their order; and all of the batch and of
the file before is there, but for the domains that came in first, if the cap removed them. -/
theorem flush_wellMerged (linesCount : Nat) (past : List Batch) (batch : Batch)
    (areWords : ∀ lookups ∈ batch :: past, ∀ entry ∈ lookups, EntryWords entry) :
    ∃ before after, storeAfter linesCount past = some before ∧
      storeAfter linesCount (batch :: past) = some after ∧
        WellMerged linesCount past batch before.content after.content := by
  rw [List.forall_mem_cons] at areWords
  obtain ⟨before, reached, timeline⟩ := exists_storeAfter areWords.2
  have now : domainsAfter linesCount past = Merge.domainsOf before.content := by
    rw [domainsAfter, reached]
    rfl
  obtain ⟨after, ran, flushed⟩ := timeline.flushBatch now areWords.1
  refine ⟨before, after, reached, ?_, wellMerged_of_flushed timeline now flushed⟩
  rw [storeAfter_cons, reached]
  exact ran

def firstBatch : Batch :=
  [(['a'], [['1']]), (['b'], [['2']])]

/-- It brings one domain too many for two lines. -/
def secondBatch : Batch :=
  [(['c'], [['3']]), (['b'], [['4'], ['2']])]

theorem flush_wellMerged_secondBatch :
    ∃ before after, storeAfter 2 [firstBatch] = some before ∧
      storeAfter 2 [secondBatch, firstBatch] = some after ∧
        WellMerged 2 [firstBatch] secondBatch before.content after.content :=
  flush_wellMerged 2 [firstBatch] secondBatch (by decide)

end DnsHijacker.DnsRelay
