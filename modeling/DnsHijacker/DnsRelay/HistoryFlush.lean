import DnsHijacker.Library.FirstSeen
import DnsHijacker.DnsRelay.HistoryFormat

/-!
# One call of `flush`

A call that runs alone takes the whole queue, merges it into the file and writes the file.
It panics where a domain of `order` has no addresses left in `history`, which is when the
line cap has removed one line of the domain and left another.
-/

namespace DnsHijacker.DnsRelay

open DnsHijacker.Rust
open DnsHijacker.Library

namespace Merge

/-! ## The order of the lines -/

/-- The domains of the lines once a batch is merged in: those of the file, and behind them
the new ones of the batch. -/
def listing (content : Option Text) (batch : List HistoryBufferEntry) : List Text :=
  firstSeen (domainsOf content) (batch.map Prod.fst)

/-- The domains of the lines that are too many. -/
def removed (linesCount : Nat) (domains : List Text) : List Text :=
  domains.take (domains.length - linesCount)

/-- The domains of the lines that stay. -/
def remaining (linesCount : Nat) (domains : List Text) : List Text :=
  domains.drop (domains.length - linesCount)

/-- No domain has both a line that is removed and one that stays. -/
def Apart (linesCount : Nat) (domains : List Text) : Prop :=
  ∀ domain ∈ removed linesCount domains, domain ∉ remaining linesCount domains

instance (linesCount : Nat) (domains : List Text) : Decidable (Apart linesCount domains) :=
  inferInstanceAs (Decidable (∀ domain ∈ removed linesCount domains, _))

/-- Domains that have one line each are not cut in two. -/
theorem apart_of_nodup {linesCount : Nat} {domains : List Text} (nodup : domains.Nodup) :
    Apart linesCount domains := by
  intro domain gone stays
  exact List.disjoint_take_drop nodup (Nat.le_refl _) gone stays

theorem nodup_listing {content : Option Text} (nodup : (domainsOf content).Nodup)
    (batch : List HistoryBufferEntry) : (listing content batch).Nodup :=
  nodup_firstSeen nodup _

/-- `order` lists the keys of `history`. -/
def Ordered (merge : Merge) : Prop :=
  ∀ domain, domain ∈ merge.order ↔ ∃ ips, merge.history domain = some ips

theorem Ordered.order_addEntry {merge : Merge} (ordered : merge.Ordered)
    (entry : HistoryBufferEntry) :
    (merge.addEntry entry).order = keepNew merge.order entry.1 := by
  rw [Merge.order_addEntry ordered entry.1 entry.2, keepNew]
  by_cases known : entry.1 ∈ merge.order
  · rw [if_pos known, if_pos known]
  · rw [if_neg known, if_neg known]

theorem Ordered.addEntry {merge : Merge} (ordered : merge.Ordered) (entry : HistoryBufferEntry) :
    (merge.addEntry entry).Ordered := by
  intro other
  rw [ordered.order_addEntry, mem_keepNew, ordered other, history_addEntry]
  split
  · rename_i same
    simp [same]
  · rename_i differ
    simp [differ]

theorem Ordered.addEntries {merge : Merge} (ordered : merge.Ordered)
    (batch : List HistoryBufferEntry) :
    (batch.foldl Merge.addEntry merge).Ordered ∧
      (batch.foldl Merge.addEntry merge).order = firstSeen merge.order (batch.map Prod.fst) := by
  induction batch generalizing merge with
  | nil => exact ⟨ordered, rfl⟩
  | cons entry batch ih =>
      obtain ⟨still, order⟩ := ih (ordered.addEntry entry)
      refine ⟨still, order.trans ?_⟩
      rw [ordered.order_addEntry]
      rfl

theorem ordered_merged (content : Option Text) (batch : List HistoryBufferEntry) :
    (merged content batch).Ordered :=
  (Ordered.addEntries (sound_readFile content).ordered batch).1

theorem order_merged_batch (content : Option Text) (batch : List HistoryBufferEntry) :
    (merged content batch).order = listing content batch := by
  rw [listing, ← order_readFile]
  exact (Ordered.addEntries (sound_readFile content).ordered batch).2

/-- The lines can be written exactly if each domain in `order` has its addresses. -/
theorem render_isSome_iff {merge : Merge} :
    merge.render.isSome ↔ ∀ domain ∈ merge.order, (merge.history domain).isSome := by
  constructor
  · intro written
    obtain ⟨out, rendered⟩ := Option.isSome_iff_exists.mp written
    exact history_isSome_of_render rendered
  · intro there
    rw [render, mapM_eq_some_map (g := fun domain => line domain (merge.ipsOf domain))]
    · rfl
    · intro domain mem
      obtain ⟨ips, here⟩ := Option.isSome_iff_exists.mp (there domain mem)
      rw [ipsOf, here]
      rfl

/-- What is written after a batch. -/
def rewritten (linesCount : Nat) (content : Option Text) (batch : List HistoryBufferEntry) :
    Option Text :=
  ((merged content batch).dropExcess linesCount).render

/-- The file is written exactly if the cap cuts no domain in two. -/
theorem rewritten_isSome_iff (linesCount : Nat) (content : Option Text)
    (batch : List HistoryBufferEntry) :
    (rewritten linesCount content batch).isSome ↔ Apart linesCount (listing content batch) := by
  rw [rewritten, render_isSome_iff, order_dropExcess, order_merged_batch]
  simp only [history_dropExcess, order_merged_batch]
  constructor
  · intro there domain gone stays
    have here := there domain stays
    rw [if_pos (show domain ∈ List.take _ _ from gone)] at here
    contradiction
  · intro apart domain stays
    rw [if_neg (show domain ∉ List.take _ _ from fun gone => apart domain gone stays)]
    have listed : domain ∈ (merged content batch).order := by
      rw [order_merged_batch]
      exact List.mem_of_mem_drop stays
    obtain ⟨ips, here⟩ := (ordered_merged content batch domain).mp listed
    rw [here]
    rfl

theorem exists_rewritten_iff {linesCount : Nat} {content : Option Text}
    {batch : List HistoryBufferEntry} :
    (∃ out, rewritten linesCount content batch = some out) ↔
      Apart linesCount (listing content batch) := by
  rw [← Option.isSome_iff_exists]
  exact rewritten_isSome_iff linesCount content batch

end Merge

/-! ## The steps of one call -/

/-- A call of `flush` that runs alone. -/
def flushAlone (linesCount : Nat) : Flush × Store → Unit → Option (Flush × Store)
  | (flush, store), () => flushStep linesCount store flush

/-- The call returns, after some number of steps. -/
def Completes (linesCount : Nat) (flush : Flush) (store : Store) : Prop :=
  ∃ steps after,
    run (flushAlone linesCount) (flush, store) (List.replicate steps ()) = some (.returned, after)

section

variable {linesCount : Nat}

theorem completes_returned (store : Store) : Completes linesCount .returned store :=
  ⟨0, store, rfl⟩

theorem completes_of_step {flush next : Flush} {store after : Store}
    (step : flushStep linesCount store flush = some (next, after)) :
    Completes linesCount flush store ↔ Completes linesCount next after := by
  constructor
  · rintro ⟨steps, final, ran⟩
    cases steps with
    | zero =>
        cases ran
        contradiction
    | succ steps =>
        rw [List.replicate_succ, run_cons_eq_some_iff] at ran
        obtain ⟨middle, stepped, ran⟩ := ran
        rw [flushAlone, step] at stepped
        cases stepped
        exact ⟨steps, final, ran⟩
  · rintro ⟨steps, final, ran⟩
    refine ⟨steps + 1, final, ?_⟩
    rw [List.replicate_succ, run_cons_eq_some_iff]
    exact ⟨(next, after), step, ran⟩

/-- A call that panics does not return. -/
theorem not_completes_of_panic {flush : Flush} {store : Store} (running : flush ≠ .returned)
    (panics : flushStep linesCount store flush = none) : ¬ Completes linesCount flush store := by
  rintro ⟨steps, final, ran⟩
  cases steps with
  | zero =>
      cases ran
      contradiction
  | succ steps =>
      rw [List.replicate_succ, run_cons_eq_some_iff] at ran
      obtain ⟨middle, stepped, _⟩ := ran
      rw [flushAlone, panics] at stepped
      contradiction

theorem completes_reading_iff {batch : List HistoryBufferEntry} {store : Store} :
    Completes linesCount (.reading batch) store ↔
      Merge.Apart linesCount (Merge.listing store.content batch) := by
  rw [← Merge.rewritten_isSome_iff]
  cases rendered : Merge.rewritten linesCount store.content batch with
  | none =>
      have panics : flushStep linesCount store (.reading batch) = none := by
        rw [flushStep]
        exact Option.map_eq_none_iff.mpr rendered
      have stuck := not_completes_of_panic (by simp) panics
      exact iff_of_false stuck Bool.false_ne_true
  | some out =>
      apply iff_of_true _ rfl
      have read : flushStep linesCount store (.reading batch) = some (.creating out, store) := by
        rw [flushStep]
        exact Option.map_eq_some_iff.mpr ⟨out, rendered, rfl⟩
      rw [completes_of_step read, completes_of_step rfl, completes_of_step rfl]
      exact completes_returned _

/-- The call takes the rest of the queue into its batch. -/
theorem completes_popping_iff {batch : List HistoryBufferEntry} {store : Store} :
    Completes linesCount (.popping batch) store ↔
      batch ++ store.queue = [] ∨
        Merge.Apart linesCount (Merge.listing store.content (batch ++ store.queue)) := by
  rcases store with ⟨queue, file, popped⟩
  induction queue generalizing batch popped with
  | nil =>
      rw [completes_of_step rfl, List.append_nil]
      by_cases empty : batch = []
      · rw [if_pos empty]
        exact iff_of_true (completes_returned _) (.inl empty)
      · rw [if_neg empty, completes_reading_iff, or_iff_right empty]
  | cons entry queue ih =>
      rw [completes_of_step rfl, ih, List.append_assoc]
      rfl

/-- A call returns exactly if the queue is empty, or no domain has both a line that the cap
removes and a line that stays. -/
theorem flush_completes_iff (linesCount : Nat) (store : Store) :
    Completes linesCount (.popping []) store ↔
      store.queue = [] ∨
        Merge.Apart linesCount (Merge.listing store.content store.queue) :=
  completes_popping_iff

end

/-- A file that has two lines for `a`. -/
def twoLines : Text :=
  "a 192.0.2.1\nb 192.0.2.2\na 192.0.2.3\n".toList

/-- With room for two of the three lines, the first line of `a` takes the addresses of the
other one with it. -/
theorem flush_panics :
    ¬ Completes 2 (.popping []) ⟨[(['b'], ["192.0.2.4".toList])], some (toUtf8 twoLines), []⟩ := by
  have content : Store.content ⟨[(['b'], ["192.0.2.4".toList])], some (toUtf8 twoLines), []⟩ =
      some twoLines := fromUtf8_toUtf8 twoLines
  rw [completes_popping_iff, List.nil_append, content]
  decide

end DnsHijacker.DnsRelay
