import DnsHijacker.DnsRelay.Live
import DnsHijacker.DnsRelay.Coherence

/-!
# Hot reload under load

A task keeps the rules it was dispatched with.  When it stores its reply after the rules have been
replaced and the cache has been purged, an entry comes back that the new rules cover.  Every entry
is traced to the task that stored it, and every reply to its task, a cached one to the task that
stored it.
-/

namespace DnsHijacker.DnsRelay.Live

open DnsHijacker.Rust
open DnsHijacker.Library
open DnsHijacker.Wire
open DnsHijacker.Shared
open DnsHijacker.Shared.Dns
open DnsHijacker.DnsRelay.Accounting

variable {ucd : UnicodeData} {aead : Aead}

/-! ## Who wrote an entry -/

/-- A task that is past its store, if its reply came from upstream. -/
def Task.HasStored (task : Task) : Prop :=
  match task.phase with
  | .stored _ _ _ _ => True
  | .pushing _ _ _ _ => True
  | .returning _ => True
  | _ => False

/-- The task has stored the entry: it asked for the key, under rules that leave the name alone, and
the packet is what arrived for it. -/
structure Writer (ucd : UnicodeData) (aead : Aead) (task : Task) (entry : CacheKey × CacheEntry) :
    Prop where
  asks : ∃ domain first second, Asks ucd task domain entry.1 first second
  received : ∃ replyBuf, Received aead task replyBuf ∧ entry.2.packet = withTxid replyBuf 0 0
  stored : task.HasStored

/-- The task at the place has stored the entry. -/
def WrittenBy (ucd : UnicodeData) (aead : Aead) (tasks : List Task) (place : Nat)
    (entry : CacheKey × CacheEntry) : Prop :=
  ∃ task, tasks[place]? = some task ∧ Writer ucd aead task entry

/-- The rules of a task that stores leave the name of its key alone. -/
theorem Asks.checkRules_eq_none {task : Task} {domain : Text} {cacheKey : CacheKey}
    {first second : UInt8} (asks : Asks ucd task domain cacheKey first second) :
    checkRules ucd cacheKey.name task.ruleTrie = .none := by
  obtain ⟨_, ⟨qnameEnd, parsed⟩, rules, key, _⟩ := verdict_eq_ask_iff.mp asks
  rw [cacheKeyFromQuery, parsed] at key
  simp only [bind, Except.bind] at key
  split at key
  · cases key
  · cases read : readU16 task.payload qnameEnd with
    | error fault => simp [read] at key
    | ok qtype =>
        rw [read] at key
        cases key
        exact rules

theorem HasStored.advance {task : Task} {now : Nat} {relay after : RelayState} {phase : Accounting.Phase}
    (stored : task.HasStored) (step : advance ucd now relay task.phase = some (phase, after)) :
    Task.HasStored { task with phase } := by
  obtain ⟨payload, ruleTrie, here, delivery⟩ := task
  cases here with
  | looking domain cacheKey first second => exact stored.elim
  | waiting domain cacheKey first second => exact stored.elim
  | storing domain cacheKey first second replyBuf => exact stored.elim
  | stored domain first second replyBuf =>
      cases step
      trivial
  | pushing domain first second replyBuf =>
      rw [Accounting.advance] at step
      split at step
      · cases step
        trivial
      · contradiction
  | counting counter reply => exact stored.elim
  | returning reply => contradiction

/-- A task that has stored goes on with its rules, its payload and what has arrived for it. -/
theorem stored_next {state after : State} {event : Event} {place : Nat} {task : Task}
    (here : state.tasks[place]? = some task) (stored : task.HasStored)
    (step : Live.next ucd aead state event = some after) :
    ∃ phase, after.tasks[place]? = some { task with phase } ∧
      Task.HasStored { task with phase } := by
  have inside := (List.getElem?_eq_some_iff.mp here).1
  cases event with
  | query payload =>
      obtain ⟨decision, _, rfl⟩ := next_query step
      exact ⟨task.phase, by rw [List.getElem?_append_left inside, here], stored⟩
  | advance other =>
      obtain ⟨_, phase, relay, found, advanced, rfl⟩ := next_advance step
      by_cases same : other = place
      · subst same
        rw [here] at found
        cases found
        exact ⟨phase, List.getElem?_set_self inside, HasStored.advance stored advanced⟩
      · exact ⟨task.phase, by rw [List.getElem?_set_ne same, here], stored⟩
  | deliver other delivery =>
      obtain ⟨_, domain, cacheKey, first, second, found, waits, rfl⟩ := next_deliver step
      by_cases same : other = place
      · subst same
        rw [here] at found
        cases found
        rw [Task.HasStored, waits] at stored
        exact stored.elim
      · exact ⟨task.phase, by rw [List.getElem?_set_ne same, here], stored⟩
  | install readFile dropList redirectList =>
      obtain ⟨_, rfl⟩ := next_install step
      exact ⟨task.phase, here, stored⟩
  | purge =>
      obtain ⟨dropList, _, rfl⟩ := next_purge step
      exact ⟨task.phase, here, stored⟩
  | tick time =>
      cases step
      exact ⟨task.phase, here, stored⟩

/-- What a task has stored stays stored by it. -/
theorem WrittenBy.next {state after : State} {event : Event} {place : Nat}
    {entry : CacheKey × CacheEntry} (written : WrittenBy ucd aead state.tasks place entry)
    (step : Live.next ucd aead state event = some after) :
    WrittenBy ucd aead after.tasks place entry := by
  obtain ⟨writer, here, asks, received, stored⟩ := written
  obtain ⟨phase, found, stored⟩ := stored_next here stored step
  exact ⟨_, found, asks, received, stored⟩

/-- An entry after an event was there before it or has just been stored by a task that had not
stored before; a purge leaves only what its list does not name. -/
theorem mem_next {state after : State} {event : Event} (sound : state.Sound ucd aead)
    (step : next ucd aead state event = some after) {entry : CacheKey × CacheEntry}
    (mem : entry ∈ after.relay.cache.entries) :
    entry ∈ state.relay.cache.entries ∨
      ∃ place task, state.tasks[place]? = some task ∧ ¬ task.HasStored ∧
        WrittenBy ucd aead after.tasks place entry := by
  cases event with
  | query payload =>
      obtain ⟨decision, _, rfl⟩ := next_query step
      exact .inl mem
  | advance place =>
      obtain ⟨⟨payload, ruleTrie, here, delivery⟩, phase, relay, found, advanced, rfl⟩ :=
        next_advance step
      have known : Task.Sound ucd aead _ := sound _ (List.mem_of_getElem? found)
      cases here with
      | looking domain cacheKey first second =>
          have kept : entry ∈ (cacheLookup state.relay.cache cacheKey state.now).2.entries →
              entry ∈ state.relay.cache.entries := mem_cacheLookup
          rw [Accounting.advance] at advanced
          split at advanced
          · rename_i looked
            cases advanced
            rw [looked] at kept
            exact .inl (kept mem)
          · rename_i looked
            cases advanced
            rw [looked] at kept
            exact .inl (kept mem)
      | waiting domain cacheKey first second => contradiction
      | storing domain cacheKey first second replyBuf =>
          rw [Accounting.advance] at advanced
          split at advanced
          · rename_i stored
            cases advanced
            rcases mem_cacheStore stored mem with ⟨ttl, _, rfl⟩ | ⟨old, _⟩
            · obtain ⟨asks, received⟩ := known
              exact .inr ⟨place, _, found, id, _,
                List.getElem?_set_self (List.getElem?_eq_some_iff.mp found).1,
                ⟨domain, first, second, asks⟩, ⟨replyBuf, received, rfl⟩, trivial⟩
            · exact .inl old
          · contradiction
      | stored domain first second replyBuf =>
          cases advanced
          exact .inl mem
      | pushing domain first second replyBuf =>
          rw [Accounting.advance] at advanced
          split at advanced
          · cases advanced
            exact .inl mem
          · contradiction
      | counting counter reply =>
          cases advanced
          exact .inl mem
      | returning reply => contradiction
  | deliver place delivery =>
      obtain ⟨task, domain, cacheKey, first, second, _, _, rfl⟩ := next_deliver step
      exact .inl mem
  | install readFile dropList redirectList =>
      obtain ⟨_, rfl⟩ := next_install step
      exact .inl mem
  | purge =>
      obtain ⟨dropList, _, rfl⟩ := next_purge step
      exact .inl (mem_removeDomainsFromCache.mp mem).1
  | tick time =>
      cases step
      exact .inl mem

/-! ## Where the replies come from -/

/-- The reply of a task, once it is decided. -/
def Task.decided (task : Task) : Option (Option Bytes) :=
  match task.phase with
  | .stored _ first second replyBuf => some (some (withTxid replyBuf first second))
  | .pushing _ first second replyBuf => some (some (withTxid replyBuf first second))
  | .counting _ reply => some reply
  | .returning reply => some reply
  | _ => none

/-- Where the reply of a task comes from: its own rules, a task that stored an entry under the same
key, or what has arrived for it. -/
inductive Origin (ucd : UnicodeData) (aead : Aead) (tasks : List Task) (task : Task) :
    Option Bytes → Prop
  | refused (reached : verdict ucd task.ruleTrie task.payload = .ok .refused) :
      Origin ucd aead tasks task none
  | dropped {resp : Bytes} (reached : verdict ucd task.ruleTrie task.payload = .ok (.dropped resp)) :
      Origin ucd aead tasks task (some resp)
  | redirected {resp : Bytes}
      (reached : verdict ucd task.ruleTrie task.payload = .ok (.redirected resp)) :
      Origin ucd aead tasks task (some resp)
  | cached {domain : Text} {cacheKey : CacheKey} {first second : UInt8} {place : Nat}
      {entry : CacheEntry} (asks : Asks ucd task domain cacheKey first second)
      (written : WrittenBy ucd aead tasks place (cacheKey, entry)) :
      Origin ucd aead tasks task (some (withTxid entry.packet first second))
  | passedOn {domain : Text} {cacheKey : CacheKey} {first second : UInt8} {replyBuf : Bytes}
      (asks : Asks ucd task domain cacheKey first second) (received : Received aead task replyBuf) :
      Origin ucd aead tasks task (some (withTxid replyBuf first second))
  | failed {domain : Text} {cacheKey : CacheKey} {first second : UInt8} {delivery : Delivery}
      {error : Error} (asks : Asks ucd task domain cacheKey first second)
      (arrived : task.delivery = some delivery) (outcome : delivery.outcome aead = .error error) :
      Origin ucd aead tasks task (craftServfailResponse task.payload)

/-- The origin of a reply stays while the tasks go on. -/
theorem Origin.mono {tasks later : List Task} {task : Task} {reply : Option Bytes}
    (origin : Origin ucd aead tasks task reply)
    (kept : ∀ {place entry}, WrittenBy ucd aead tasks place entry →
      WrittenBy ucd aead later place entry) (phase : Accounting.Phase) :
    Origin ucd aead later { task with phase } reply := by
  cases origin with
  | refused reached => exact .refused reached
  | dropped reached => exact .dropped reached
  | redirected reached => exact .redirected reached
  | cached asks written => exact .cached asks (kept written)
  | passedOn asks received => exact .passedOn asks received
  | failed asks arrived outcome => exact .failed asks arrived outcome

/-- Every entry has been stored by a task, and every reply has an origin. -/
structure Sourced (ucd : UnicodeData) (aead : Aead) (state : State) : Prop where
  sound : state.Sound ucd aead
  cached : ∀ entry ∈ state.relay.cache.entries, ∃ place, WrittenBy ucd aead state.tasks place entry
  replied : ∀ task ∈ state.tasks, ∀ reply, task.decided = some reply →
    Origin ucd aead state.tasks task reply

theorem sourced_start (metrics : Option MetricWrapper) (history : Option (List (Text × List Text)))
    (ruleTrie : DomainTrie) (now : Nat) :
    Sourced ucd aead (.start ⟨newCache, metrics, history⟩ ruleTrie now) where
  sound := sound_start _ ruleTrie now
  cached _ mem := nomatch mem
  replied _ mem := nomatch mem

theorem origin_ofVerdict {tasks : List Task} {ruleTrie : DomainTrie} {payload : Bytes}
    {decision : Verdict} (reached : verdict ucd ruleTrie payload = .ok decision)
    {reply : Option Bytes}
    (decided : Task.decided ⟨payload, ruleTrie, .ofVerdict decision, none⟩ = some reply) :
    Origin ucd aead tasks ⟨payload, ruleTrie, .ofVerdict decision, none⟩ reply := by
  cases decision with
  | refused =>
      cases decided
      exact .refused reached
  | dropped resp =>
      cases decided
      exact .dropped reached
  | redirected resp =>
      cases decided
      exact .redirected reached
  | ask domain cacheKey first second => contradiction

theorem origin_ofResult {tasks : List Task} {task : Task} {domain : Text} {cacheKey : CacheKey}
    {first second : UInt8} (asks : Asks ucd task domain cacheKey first second)
    {delivery : Delivery} {reply : Option Bytes}
    (decided : Task.decided { task with
      phase := .ofResult task.payload domain cacheKey first second (delivery.outcome aead)
      delivery := some delivery } = some reply) :
    Origin ucd aead tasks { task with
      phase := .ofResult task.payload domain cacheKey first second (delivery.outcome aead)
      delivery := some delivery } reply := by
  cases outcome : delivery.outcome aead with
  | ok replyBuf =>
      rw [outcome] at decided
      contradiction
  | error error =>
      rw [outcome] at decided
      have crafted : reply = craftServfailResponse task.payload := by
        cases error <;> exact (Option.some.inj decided).symm
      rw [crafted]
      exact .failed asks rfl outcome

/-- What a task replies after its next operation. -/
theorem Sourced.advance {state : State} (sourced : Sourced ucd aead state) {place : Nat}
    {task : Task} (found : state.tasks[place]? = some task) {phase : Accounting.Phase} {relay : RelayState}
    (advanced : advance ucd state.now state.relay task.phase = some (phase, relay))
    {tasks : List Task} (kept : ∀ {place entry}, WrittenBy ucd aead state.tasks place entry →
      WrittenBy ucd aead tasks place entry) {reply : Option Bytes}
    (decided : Task.decided { task with phase } = some reply) :
    Origin ucd aead tasks { task with phase } reply := by
  have known := sourced.sound task (List.mem_of_getElem? found)
  have before := sourced.replied task (List.mem_of_getElem? found)
  obtain ⟨payload, ruleTrie, here, delivery⟩ := task
  cases here with
  | looking domain cacheKey first second =>
      rw [Accounting.advance] at advanced
      rcases looked : cacheLookup state.relay.cache cacheKey state.now with ⟨hit, remaining⟩
      rw [looked] at advanced
      cases hit with
      | some hit =>
          cases advanced
          cases decided
          obtain ⟨entry, mem, rfl, _⟩ := mem_of_cacheLookup (congrArg Prod.fst looked)
          obtain ⟨writer, written⟩ := sourced.cached _ mem
          exact .cached known (kept written)
      | none =>
          cases advanced
          contradiction
  | waiting domain cacheKey first second => contradiction
  | storing domain cacheKey first second replyBuf =>
      rw [Accounting.advance] at advanced
      split at advanced
      · cases advanced
        cases decided
        exact .passedOn known.1 known.2
      · contradiction
  | stored domain first second replyBuf =>
      cases advanced
      exact (before reply decided).mono kept _
  | pushing domain first second replyBuf =>
      rw [Accounting.advance] at advanced
      split at advanced
      · cases advanced
        exact (before reply decided).mono kept _
      · contradiction
  | counting counter answer =>
      cases advanced
      exact (before reply decided).mono kept _
  | returning answer => contradiction

theorem Sourced.next {state after : State} {event : Event} (sourced : Sourced ucd aead state)
    (step : Live.next ucd aead state event = some after) : Sourced ucd aead after := by
  have kept : ∀ {place entry}, WrittenBy ucd aead state.tasks place entry →
      WrittenBy ucd aead after.tasks place entry := fun written => written.next step
  refine ⟨sourced.sound.next step, ?_, ?_⟩
  · intro entry mem
    rcases mem_next sourced.sound step mem with old | ⟨place, task, _, _, written⟩
    · obtain ⟨place, written⟩ := sourced.cached entry old
      exact ⟨place, kept written⟩
    · exact ⟨place, written⟩
  · have old : ∀ task ∈ state.tasks, ∀ reply, task.decided = some reply →
        Origin ucd aead after.tasks task reply :=
      fun task mem reply decided => (sourced.replied task mem reply decided).mono kept task.phase
    cases event with
    | query payload =>
        obtain ⟨decision, reached, rfl⟩ := next_query step
        intro task mem reply decided
        rcases List.mem_append.mp mem with before | new
        · exact old task before reply decided
        · cases List.mem_singleton.mp new
          exact origin_ofVerdict reached decided
    | advance place =>
        obtain ⟨task, phase, relay, found, advanced, rfl⟩ := next_advance step
        exact forall_mem_set old fun reply decided => sourced.advance found advanced kept decided
    | deliver place delivery =>
        obtain ⟨task, domain, cacheKey, first, second, found, waits, rfl⟩ := next_deliver step
        have here := sourced.sound task (List.mem_of_getElem? found)
        rw [Task.Sound, waits] at here
        exact forall_mem_set old fun reply decided => origin_ofResult here decided
    | install readFile dropList redirectList =>
        obtain ⟨_, rfl⟩ := next_install step
        exact old
    | purge =>
        obtain ⟨dropList, _, rfl⟩ := next_purge step
        exact old
    | tick time =>
        cases step
        exact old

/-- After every run, with reloads at any time, each cached packet is what arrived for a task that
asked for its key under rules that leave the name alone, and each reply comes from the task's own
rules, from its own upstream, or from such a packet for the task's own key. -/
theorem replies_have_origin (ucd : UnicodeData) (aead : Aead) (metrics : Option MetricWrapper)
    (history : Option (List (Text × List Text))) (ruleTrie : DomainTrie) (now : Nat)
    (trace : List Event) (state : State)
    (ran : run (next ucd aead) (.start ⟨newCache, metrics, history⟩ ruleTrie now) trace = some state) :
    (∀ entry ∈ state.relay.cache.entries, ∃ (place : Nat) (task : Task),
      state.tasks[place]? = some task ∧ Writer ucd aead task entry ∧
        checkRules ucd entry.1.name task.ruleTrie = .none) ∧
    ∀ task ∈ state.tasks, ∀ reply, task.decided = some reply →
      Origin ucd aead state.tasks task reply := by
  have sourced : Sourced ucd aead state := run_invariant (sourced_start metrics history ruleTrie now)
    (fun _ _ _ sourced step => sourced.next step) ran
  refine ⟨fun entry mem => ?_, sourced.replied⟩
  obtain ⟨place, task, found, writer⟩ := sourced.cached entry mem
  obtain ⟨domain, first, second, asks⟩ := writer.asks
  exact ⟨place, task, found, writer, asks.checkRules_eq_none⟩

/-- A task asks for `a` and waits. -/
def asking : List Event :=
  [.query (bareQuery [labelA] 1).encode, .advance 0]

/-- Its reply arrives and is stored, and another query arrives. -/
def answeredLate : List Event :=
  [.deliver 0 (.udp (emptyReply labelA)), .advance 0, .query (bareQuery [labelA] 1).encode]

theorem replies_have_origin_late : ∃ final,
    run (next .ascii Aead.transparent) (.start ⟨newCache, none, none⟩ Trie.empty 0)
      (asking ++ answeredLate) = some final ∧
    (∀ entry ∈ final.relay.cache.entries, ∃ (place : Nat) (task : Task),
      final.tasks[place]? = some task ∧ Writer .ascii Aead.transparent task entry ∧
        checkRules .ascii entry.1.name task.ruleTrie = .none) ∧
    ∀ task ∈ final.tasks, ∀ reply, task.decided = some reply →
      Origin .ascii Aead.transparent final.tasks task reply := by
  have possible : (run (next .ascii Aead.transparent)
      (.start ⟨newCache, none, none⟩ Trie.empty 0) (asking ++ answeredLate)).isSome := by
    decide +kernel
  obtain ⟨final, ran⟩ := Option.isSome_iff_exists.mp possible
  exact ⟨final, ran, replies_have_origin _ _ _ _ _ _ _ final ran⟩

/-! ## From one reload to the next -/

/-- The watcher stores new rules. -/
def Event.IsInstall : Event → Prop
  | .install _ _ _ => True
  | _ => False

/-- The rules are in force, and every task from a number on was dispatched with them. -/
structure Epoch (ruleTrie : DomainTrie) (dispatched : Nat) (state : State) : Prop where
  rules : state.ruleTrie = ruleTrie
  tasks : ∀ place task, dispatched ≤ place → state.tasks[place]? = some task →
    task.ruleTrie = ruleTrie

theorem Epoch.next {ruleTrie : DomainTrie} {dispatched : Nat} {state after : State} {event : Event}
    (epoch : Epoch ruleTrie dispatched state) (noInstall : ¬ event.IsInstall)
    (step : Live.next ucd aead state event = some after) : Epoch ruleTrie dispatched after := by
  obtain ⟨rules, tasks⟩ := epoch
  have changed : ∀ {place : Nat} {task new : Task}, state.tasks[place]? = some task →
      new.ruleTrie = task.ruleTrie → ∀ other task', dispatched ≤ other →
      (state.tasks.set place new)[other]? = some task' → task'.ruleTrie = ruleTrie := by
    intro place task new found same other task' late here
    by_cases changes : place = other
    · subst changes
      rw [List.getElem?_set_self (List.getElem?_eq_some_iff.mp found).1] at here
      rw [← Option.some.inj here, same, tasks place task late found]
    · rw [List.getElem?_set_ne changes] at here
      exact tasks other task' late here
  cases event with
  | query payload =>
      obtain ⟨decision, _, rfl⟩ := next_query step
      refine ⟨rules, fun place task late found => ?_⟩
      rcases Nat.lt_or_ge place state.tasks.length with old | new
      · rw [List.getElem?_append_left old] at found
        exact tasks place task late found
      · rw [List.getElem?_append_right new, List.getElem?_singleton] at found
        split at found
        · rw [← Option.some.inj found]
          exact rules
        · contradiction
  | advance place =>
      obtain ⟨task, phase, relay, found, _, rfl⟩ := next_advance step
      exact ⟨rules, changed found rfl⟩
  | deliver place delivery =>
      obtain ⟨task, domain, cacheKey, first, second, found, _, rfl⟩ := next_deliver step
      exact ⟨rules, changed found rfl⟩
  | install readFile dropList redirectList => exact absurd trivial noInstall
  | purge =>
      obtain ⟨dropList, _, rfl⟩ := next_purge step
      exact ⟨rules, tasks⟩
  | tick time =>
      cases step
      exact ⟨rules, tasks⟩

/-- A purge that is due stays due, or has been made. -/
def Purging (dropList : List Text) (state : State) : Prop :=
  state.purging = some dropList ∨ state.purging = none

theorem Purging.next {dropList : List Text} {state after : State} {event : Event}
    (purging : Purging dropList state) (noInstall : ¬ event.IsInstall)
    (step : Live.next ucd aead state event = some after) : Purging dropList after := by
  cases event with
  | query payload =>
      obtain ⟨decision, _, rfl⟩ := next_query step
      exact purging
  | advance place =>
      obtain ⟨task, phase, relay, _, _, rfl⟩ := next_advance step
      exact purging
  | deliver place delivery =>
      obtain ⟨task, domain, cacheKey, first, second, _, _, rfl⟩ := next_deliver step
      exact purging
  | install readFile dropList redirectList => exact absurd trivial noInstall
  | purge =>
      obtain ⟨_, _, rfl⟩ := next_purge step
      exact .inr rfl
  | tick time =>
      cases step
      exact purging

/-- An entry that the rules cover has been left by the purge, or was stored after it by a task that
was dispatched before the rules and had not stored then. -/
def LeftOrLate (ucd : UnicodeData) (aead : Aead) (ruleTrie : DomainTrie) (dispatched : Nat)
    (purged state : State) : Prop :=
  ∀ entry ∈ state.relay.cache.entries, checkRules ucd entry.1.name ruleTrie ≠ .none →
    entry ∈ purged.relay.cache.entries ∨
      ∃ (place : Nat) (task : Task), place < dispatched ∧ purged.tasks[place]? = some task ∧ ¬ task.HasStored ∧
        WrittenBy ucd aead state.tasks place entry

/-- The tasks that had stored at the purge are as far or further on. -/
def StayStored (purged state : State) : Prop :=
  purged.tasks.length ≤ state.tasks.length ∧
    ∀ (place : Nat) (task : Task), purged.tasks[place]? = some task → task.HasStored →
      ∃ phase, state.tasks[place]? = some { task with phase } ∧
        Task.HasStored { task with phase }

theorem length_next {state after : State} {event : Event}
    (step : next ucd aead state event = some after) : state.tasks.length ≤ after.tasks.length := by
  cases event with
  | query payload =>
      obtain ⟨decision, _, rfl⟩ := next_query step
      simp
  | advance place =>
      obtain ⟨task, phase, relay, _, _, rfl⟩ := next_advance step
      simp
  | deliver place delivery =>
      obtain ⟨task, domain, cacheKey, first, second, _, _, rfl⟩ := next_deliver step
      simp
  | install readFile dropList redirectList =>
      obtain ⟨_, rfl⟩ := next_install step
      exact Nat.le_refl _
  | purge =>
      obtain ⟨_, _, rfl⟩ := next_purge step
      exact Nat.le_refl _
  | tick time =>
      cases step
      exact Nat.le_refl _

theorem StayStored.next {purged state after : State} {event : Event}
    (stay : StayStored purged state) (step : Live.next ucd aead state event = some after) :
    StayStored purged after := by
  refine ⟨stay.1.trans (length_next step), fun place task found stored => ?_⟩
  obtain ⟨phase, here, stored⟩ := stay.2 place task found stored
  obtain ⟨later, there, stored⟩ := stored_next here stored step
  exact ⟨later, there, stored⟩

theorem LeftOrLate.next {ruleTrie : DomainTrie} {dispatched : Nat} {purged state after : State}
    {event : Event} (late : LeftOrLate ucd aead ruleTrie dispatched purged state)
    (sound : state.Sound ucd aead) (stay : StayStored purged state)
    (existed : dispatched ≤ purged.tasks.length) (epoch : Epoch ruleTrie dispatched after)
    (step : Live.next ucd aead state event = some after) :
    LeftOrLate ucd aead ruleTrie dispatched purged after := by
  intro entry mem covered
  rcases mem_next sound step mem with old | ⟨place, task, found, unstored, written⟩
  · rcases late entry old covered with left | ⟨place, task, early, found, unstored, written⟩
    · exact .inl left
    · exact .inr ⟨place, task, early, found, unstored, written.next step⟩
  · -- The task that has just stored does not have the new rules, so it was dispatched before.
    obtain ⟨writer, there, asks, received, stored⟩ := id written
    obtain ⟨domain, first, second, asks⟩ := asks
    have early : place < dispatched := by
      by_contra notEarly
      apply covered
      rw [← epoch.tasks place writer (Nat.le_of_not_lt notEarly) there]
      exact asks.checkRules_eq_none
    have inside : place < purged.tasks.length := Nat.lt_of_lt_of_le early existed
    refine .inr ⟨place, purged.tasks[place], early, List.getElem?_eq_getElem inside, ?_, written⟩
    intro hadStored
    obtain ⟨phase, here, has⟩ := stay.2 place _ (List.getElem?_eq_getElem inside) hadStored
    rw [found] at here
    cases here
    exact unstored has

/-- What holds from the install on until the purge. -/
structure Due (ucd : UnicodeData) (aead : Aead) (ruleTrie : DomainTrie) (dropList : List Text)
    (dispatched : Nat) (state : State) : Prop where
  sourced : Sourced ucd aead state
  epoch : Epoch ruleTrie dispatched state
  purging : Purging dropList state
  longer : dispatched ≤ state.tasks.length

theorem Due.of_install {readFile : Text → Option Text} {dropList : List Text}
    {redirectList : List (Text × Text)} {asked installed : State}
    (sourced : Sourced ucd aead asked)
    (step : next ucd aead asked (.install readFile dropList redirectList) = some installed) :
    Due ucd aead (DomainTrie.build ucd readFile dropList redirectList) dropList asked.tasks.length
      installed := by
  have after := sourced.next step
  obtain ⟨_, rfl⟩ := next_install step
  refine ⟨after, ⟨rfl, fun place task late found => ?_⟩, .inl rfl, Nat.le_refl _⟩
  rw [List.getElem?_eq_none late] at found
  contradiction

theorem Due.next {ruleTrie : DomainTrie} {dropList : List Text} {dispatched : Nat}
    {state after : State} {event : Event} (due : Due ucd aead ruleTrie dropList dispatched state)
    (noInstall : ¬ event.IsInstall) (step : Live.next ucd aead state event = some after) :
    Due ucd aead ruleTrie dropList dispatched after where
  sourced := due.sourced.next step
  epoch := due.epoch.next noInstall step
  purging := due.purging.next noInstall step
  longer := due.longer.trans (length_next step)

/-- What holds from the purge on. -/
structure Reloaded (ucd : UnicodeData) (aead : Aead) (ruleTrie : DomainTrie) (dispatched : Nat)
    (purged state : State) : Prop where
  sourced : Sourced ucd aead state
  epoch : Epoch ruleTrie dispatched state
  stay : StayStored purged state
  late : LeftOrLate ucd aead ruleTrie dispatched purged state

theorem Reloaded.of_purge {ruleTrie : DomainTrie} {dropList : List Text} {dispatched : Nat}
    {purging purged : State} (due : Due ucd aead ruleTrie dropList dispatched purging)
    (step : Live.next ucd aead purging .purge = some purged) :
    Reloaded ucd aead ruleTrie dispatched purged purged where
  sourced := due.sourced.next step
  epoch := due.epoch.next id step
  stay := ⟨Nat.le_refl _, fun _ task found stored => ⟨task.phase, found, stored⟩⟩
  late _ mem _ := .inl mem

theorem Reloaded.next {ruleTrie : DomainTrie} {dispatched : Nat} {purged state after : State}
    {event : Event} (reloaded : Reloaded ucd aead ruleTrie dispatched purged state)
    (existed : dispatched ≤ purged.tasks.length) (noInstall : ¬ event.IsInstall)
    (step : Live.next ucd aead state event = some after) :
    Reloaded ucd aead ruleTrie dispatched purged after where
  sourced := reloaded.sourced.next step
  epoch := reloaded.epoch.next noInstall step
  stay := reloaded.stay.next step
  late := reloaded.late.next reloaded.sourced.sound reloaded.stay existed
    (reloaded.epoch.next noInstall step) step

/-- The purge that is due leaves what its list does not name. -/
theorem Purging.mem_purge {dropList : List Text} {purging purged : State}
    (due : Purging dropList purging) (step : Live.next ucd aead purging .purge = some purged)
    {entry : CacheKey × CacheEntry} (mem : entry ∈ purged.relay.cache.entries) :
    entry ∈ purging.relay.cache.entries ∧ ¬ ∃ listed ∈ dropList, Names ucd listed entry.1.name := by
  obtain ⟨waiting, isDue, rfl⟩ := next_purge step
  rcases due with due | due
  · rw [isDue] at due
    cases due
    exact mem_removeDomainsFromCache.mp mem
  · rw [isDue] at due
    contradiction

/-- A reply to a query whose name the task's rules cover is made by these rules. -/
theorem Origin.of_covered {tasks : List Task} {task : Task} {reply : Option Bytes}
    (origin : Origin ucd aead tasks task reply) {domain : Text} {qnameEnd : Nat}
    (parsed : parseDomain ucd task.payload 12 = .ok (some (domain, qnameEnd)))
    (covered : checkRules ucd domain task.ruleTrie ≠ .none) :
    reply = none ∨ ∃ resp, reply = some resp ∧
      (verdict ucd task.ruleTrie task.payload = .ok (.dropped resp) ∨
        verdict ucd task.ruleTrie task.payload = .ok (.redirected resp)) := by
  have answers : ∀ {name key first second}, ¬ Asks ucd task name key first second := by
    intro name key first second asks
    obtain ⟨_, ⟨_, same⟩, rules, _⟩ := verdict_eq_ask_iff.mp asks
    rw [parsed] at same
    cases same
    exact covered rules
  cases origin with
  | refused reached => exact .inl rfl
  | dropped reached => exact .inr ⟨_, rfl, .inl reached⟩
  | redirected reached => exact .inr ⟨_, rfl, .inr reached⟩
  | cached asks written => exact absurd asks answers
  | passedOn asks received => exact absurd asks answers
  | failed asks arrived outcome => exact absurd asks answers

/-- A reload while tasks are under way.  After it, and until the next, an entry that the new rules
cover was not named by the drop list when the cache was purged, or was stored later by a task that
had been dispatched with the old rules and had not stored yet.  No query that is dispatched with the
new rules is answered from such an entry or from upstream. -/
theorem reload_under_load (ucd : UnicodeData) (aead : Aead) (metrics : Option MetricWrapper)
    (history : Option (List (Text × List Text))) (ruleTrie : DomainTrie) (now : Nat)
    (readFile : Text → Option Text) (dropList : List Text) (redirectList : List (Text × Text))
    (before between later : List Event) (asked installed purging purged final : State)
    (ranBefore : run (next ucd aead) (.start ⟨newCache, metrics, history⟩ ruleTrie now) before =
      some asked)
    (installs : next ucd aead asked (.install readFile dropList redirectList) = some installed)
    (ranBetween : run (next ucd aead) installed between = some purging)
    (purges : next ucd aead purging .purge = some purged)
    (ranLater : run (next ucd aead) purged later = some final)
    (once : ∀ event ∈ between ++ later, ¬ event.IsInstall) :
    (∀ entry ∈ final.relay.cache.entries,
      checkRules ucd entry.1.name (DomainTrie.build ucd readFile dropList redirectList) ≠ .none →
      (entry ∈ purging.relay.cache.entries ∧
        ¬ ∃ listed ∈ dropList, Names ucd listed entry.1.name) ∨
      ∃ (place : Nat) (task : Task), place < asked.tasks.length ∧
        purged.tasks[place]? = some task ∧ ¬ task.HasStored ∧
        WrittenBy ucd aead final.tasks place entry) ∧
    ∀ (place : Nat) (task : Task), asked.tasks.length ≤ place → final.tasks[place]? = some task →
      ∀ domain qnameEnd, parseDomain ucd task.payload 12 = .ok (some (domain, qnameEnd)) →
      checkRules ucd domain (DomainTrie.build ucd readFile dropList redirectList) ≠ .none →
      ∀ reply, task.decided = some reply → reply = none ∨ ∃ resp, reply = some resp ∧
        (verdict ucd task.ruleTrie task.payload = .ok (.dropped resp) ∨
          verdict ucd task.ruleTrie task.payload = .ok (.redirected resp)) := by
  rw [List.forall_mem_append] at once
  have sourced : Sourced ucd aead asked :=
    run_invariant (sourced_start metrics history ruleTrie now)
      (fun _ _ _ sourced step => sourced.next step) ranBefore
  have due : Due ucd aead (DomainTrie.build ucd readFile dropList redirectList) dropList
      asked.tasks.length purging :=
    run_invariant_along (.of_install sourced installs)
      (fun _ _ _ due noInstall step => due.next noInstall step) (along_of_forall_mem once.1 _)
      ranBetween
  have existed : asked.tasks.length ≤ purged.tasks.length := due.longer.trans (length_next purges)
  have reloaded : Reloaded ucd aead (DomainTrie.build ucd readFile dropList redirectList)
      asked.tasks.length purged final :=
    run_invariant_along (.of_purge due purges)
      (fun _ _ _ reloaded noInstall step => reloaded.next existed noInstall step)
      (along_of_forall_mem once.2 _) ranLater
  constructor
  · intro entry mem covered
    rcases reloaded.late entry mem covered with left | late
    · exact .inl (due.purging.mem_purge purges left)
    · exact .inr late
  · intro place task late found domain qnameEnd parsed covered reply decided
    rw [← reloaded.epoch.tasks place task late found] at covered
    exact (reloaded.sourced.replied task (List.mem_of_getElem? found) reply decided).of_covered
      parsed covered

/-- A late task brings back an entry that the new rules drop. -/
theorem reload_under_load_late : ∃ asked installed purged final,
    run (next .ascii Aead.transparent) (.start ⟨newCache, none, none⟩ Trie.empty 0) asking =
      some asked ∧
    next .ascii Aead.transparent asked (.install (fun _ => none) ["*.a".toList] []) =
      some installed ∧
    next .ascii Aead.transparent installed .purge = some purged ∧
    run (next .ascii Aead.transparent) purged answeredLate = some final ∧
    (∃ entry ∈ final.relay.cache.entries, checkRules .ascii entry.1.name
      (DomainTrie.build .ascii (fun _ => none) ["*.a".toList] []) = .drop ∧
      ∃ (place : Nat) (task : Task), place < asked.tasks.length ∧
        purged.tasks[place]? = some task ∧ ¬ task.HasStored ∧
        WrittenBy .ascii Aead.transparent final.tasks place entry) := by
  have possible : ((run (next .ascii Aead.transparent)
      (.start ⟨newCache, none, none⟩ Trie.empty 0)
      (asking ++ .install (fun _ => none) ["*.a".toList] [] :: .purge :: answeredLate)).map
      fun final => final.relay.cache.entries.map (·.1.name)) = some ["a".toList] := by
    decide +kernel
  obtain ⟨final, ran, names⟩ := Option.map_eq_some_iff.mp possible
  rw [run_append] at ran
  obtain ⟨asked, ranBefore, ran⟩ := Option.bind_eq_some_iff.mp ran
  obtain ⟨installed, installs, ran⟩ := run_cons_eq_some_iff.mp ran
  obtain ⟨purged, purges, ranLater⟩ := run_cons_eq_some_iff.mp ran
  obtain ⟨entry, entries, name⟩ := List.map_eq_singleton_iff.mp names
  have mem : entry ∈ final.relay.cache.entries := entries ▸ List.mem_singleton_self entry
  have dropped : checkRules .ascii entry.1.name
      (DomainTrie.build .ascii (fun _ => none) ["*.a".toList] []) = .drop := by
    rw [name]
    decide +kernel
  have noInstall : ∀ event ∈ [] ++ answeredLate, ¬ event.IsInstall := by
    simp [answeredLate, Event.IsInstall]
  have late := (reload_under_load .ascii Aead.transparent none none Trie.empty 0 (fun _ => none)
    ["*.a".toList] [] asking [] answeredLate asked installed installed purged final ranBefore
    installs rfl purges ranLater noInstall).1 entry mem (by rw [dropped]; nofun)
  refine ⟨asked, installed, purged, final, ranBefore, installs, purges, ranLater, entry, mem,
    dropped, late.resolve_left fun left => left.2 ⟨_, List.mem_singleton_self _, ?_⟩⟩
  rw [← matchesDomainPattern_iff, name]
  decide +kernel

end DnsHijacker.DnsRelay.Live
