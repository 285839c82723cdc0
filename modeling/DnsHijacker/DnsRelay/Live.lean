import DnsHijacker.DnsRelay.Accounting
import DnsHijacker.Shared.Purge
import DnsHijacker.Shared.CacheTrace

/-!
# The running relay

The dispatch loops load the rules that are in force and spawn a task for each query.  The tasks run
in parallel, each with the rules it was given, and share the cache, the counters and the history
buffer.  The watcher installs other rules and then purges the cache; between the two, and at any
other time, tasks may be dispatched and go on.

A task is known by its place in the order of dispatch.
-/

namespace DnsHijacker.DnsRelay.Live

open DnsHijacker.Rust
open DnsHijacker.Library
open DnsHijacker.Shared
open DnsHijacker.Shared.Dns
open DnsHijacker.DnsRelay.Accounting

/-- A task of a dispatch loop. -/
structure Task where
  payload : Bytes
  /-- What `load_full` returned when the task was spawned. -/
  ruleTrie : DomainTrie
  phase : Accounting.Phase
  /-- What has arrived for it from upstream. -/
  delivery : Option Delivery

/-- The relay between two steps of its tasks. -/
structure State where
  relay : RelayState
  /-- The rules in force. -/
  ruleTrie : DomainTrie
  /-- The drop list the watcher has installed and not purged yet. -/
  purging : Option (List Text)
  now : Nat
  tasks : List Task

/-- Before the first query. -/
def State.start (relay : RelayState) (ruleTrie : DomainTrie) (now : Nat) : State where
  relay := relay
  ruleTrie := ruleTrie
  purging := none
  now := now
  tasks := []

inductive Event where
  /-- A query is dispatched. -/
  | query (payload : Bytes)
  /-- A task does its next operation on what it shares with the others. -/
  | advance (place : Nat)
  | deliver (place : Nat) (delivery : Delivery)
  /-- The watcher builds the rules of a configuration and stores them. -/
  | install (readFile : Text → Option Text) (dropList : List Text) (redirectList : List (Text × Text))
  /-- The watcher calls `remove_domains_from_cache`. -/
  | purge
  | tick (time : Nat)

variable (ucd : UnicodeData) (aead : Aead)

/-- One event.  A call that does not come back ends the run. -/
def next (state : State) : Event → Option State
  | .query payload =>
      match verdict ucd state.ruleTrie payload with
      | .ok decision =>
          some { state with
            tasks := state.tasks ++ [⟨payload, state.ruleTrie, .ofVerdict decision, none⟩] }
      | .error _ => none
  | .advance place =>
      match state.tasks[place]? with
      | none => none
      | some task =>
          match advance ucd state.now state.relay task.phase with
          | none => none
          | some (phase, relay) =>
              some { state with relay, tasks := state.tasks.set place { task with phase } }
  | .deliver place delivery =>
      match state.tasks[place]? with
      | none => none
      | some task =>
          match task.phase with
          | .waiting domain cacheKey first second =>
              some { state with
                tasks := state.tasks.set place { task with
                  phase := .ofResult task.payload domain cacheKey first second (delivery.outcome aead)
                  delivery := some delivery } }
          | _ => none
  | .install readFile dropList redirectList =>
      match state.purging with
      | some _ => none
      | none =>
          some { state with
            ruleTrie := DomainTrie.build ucd readFile dropList redirectList
            purging := some dropList }
  | .purge =>
      match state.purging with
      | none => none
      | some dropList =>
          some { state with
            relay := { state.relay with
              cache := removeDomainsFromCache ucd state.relay.cache dropList }
            purging := none }
  | .tick time => some { state with now := state.now + time }

/-! ## What an event can do -/

variable {ucd aead}

section

variable {state after : State} {place : Nat}

theorem next_query {payload : Bytes} (step : next ucd aead state (.query payload) = some after) :
    ∃ decision, verdict ucd state.ruleTrie payload = .ok decision ∧
      after = { state with
        tasks := state.tasks ++ [⟨payload, state.ruleTrie, .ofVerdict decision, none⟩] } := by
  rw [next] at step
  cases reached : verdict ucd state.ruleTrie payload with
  | error fault => simp [reached] at step
  | ok decision => exact ⟨decision, rfl, by simpa [reached] using step.symm⟩

theorem next_advance (step : next ucd aead state (.advance place) = some after) :
    ∃ task phase relay, state.tasks[place]? = some task ∧
      advance ucd state.now state.relay task.phase = some (phase, relay) ∧
      after = { state with relay, tasks := state.tasks.set place { task with phase } } := by
  rw [next] at step
  cases found : state.tasks[place]? with
  | none => simp [found] at step
  | some task =>
      cases advanced : advance ucd state.now state.relay task.phase with
      | none => simp [found, advanced] at step
      | some result =>
          obtain ⟨phase, relay⟩ := result
          exact ⟨task, phase, relay, rfl, advanced, by simpa [found, advanced] using step.symm⟩

theorem next_deliver {delivery : Delivery}
    (step : next ucd aead state (.deliver place delivery) = some after) :
    ∃ task domain cacheKey first second, state.tasks[place]? = some task ∧
      task.phase = .waiting domain cacheKey first second ∧
      after = { state with
        tasks := state.tasks.set place { task with
          phase := .ofResult task.payload domain cacheKey first second (delivery.outcome aead)
          delivery := some delivery } } := by
  rw [next] at step
  cases found : state.tasks[place]? with
  | none => simp [found] at step
  | some task =>
      rw [found] at step
      dsimp only at step
      split at step
      · rename_i domain cacheKey first second waits
        exact ⟨task, domain, cacheKey, first, second, rfl, waits, (Option.some.inj step).symm⟩
      · contradiction

theorem next_install {readFile : Text → Option Text} {dropList : List Text}
    {redirectList : List (Text × Text)}
    (step : next ucd aead state (.install readFile dropList redirectList) = some after) :
    state.purging = none ∧ after = { state with
      ruleTrie := DomainTrie.build ucd readFile dropList redirectList
      purging := some dropList } := by
  rw [next] at step
  cases idle : state.purging with
  | some waiting => simp [idle] at step
  | none => exact ⟨rfl, by simpa [idle] using step.symm⟩

theorem next_purge (step : next ucd aead state .purge = some after) :
    ∃ dropList, state.purging = some dropList ∧ after = { state with
      relay := { state.relay with cache := removeDomainsFromCache ucd state.relay.cache dropList }
      purging := none } := by
  rw [next] at step
  cases waiting : state.purging with
  | none => simp [waiting] at step
  | some dropList => exact ⟨dropList, rfl, by simpa [waiting] using step.symm⟩

end

/-! ## What a task knows -/

/-- The name and the key a task asks about before its reply is decided. -/
def Asks (ucd : UnicodeData) (task : Task) (domain : Text) (cacheKey : CacheKey)
    (first second : UInt8) : Prop :=
  verdict ucd task.ruleTrie task.payload = .ok (.ask domain cacheKey first second)

/-- The reply a task works on is what has arrived for it. -/
def Received (aead : Aead) (task : Task) (replyBuf : Bytes) : Prop :=
  ∃ delivery, task.delivery = some delivery ∧ delivery.outcome aead = .ok replyBuf

/-- What is known of a task at its phase, as long as its reply comes from the cache or from
upstream. -/
def Task.Sound (ucd : UnicodeData) (aead : Aead) (task : Task) : Prop :=
  match task.phase with
  | .looking domain cacheKey first second => Asks ucd task domain cacheKey first second
  | .waiting domain cacheKey first second => Asks ucd task domain cacheKey first second
  | .storing domain cacheKey first second replyBuf =>
      Asks ucd task domain cacheKey first second ∧ Received aead task replyBuf
  | .stored domain first second replyBuf =>
      (∃ cacheKey, Asks ucd task domain cacheKey first second) ∧ Received aead task replyBuf
  | .pushing domain first second replyBuf =>
      (∃ cacheKey, Asks ucd task domain cacheKey first second) ∧ Received aead task replyBuf
  | .counting _ _ => True
  | .returning _ => True

theorem sound_ofVerdict {ruleTrie : DomainTrie} {payload : Bytes} {decision : Verdict}
    (reached : verdict ucd ruleTrie payload = .ok decision) :
    Task.Sound ucd aead ⟨payload, ruleTrie, .ofVerdict decision, none⟩ := by
  cases decision with
  | refused => trivial
  | dropped resp => trivial
  | redirected resp => trivial
  | ask domain cacheKey first second => exact reached

theorem sound_ofResult {task : Task} {domain : Text} {cacheKey : CacheKey} {first second : UInt8}
    (asks : Asks ucd task domain cacheKey first second) (delivery : Delivery) :
    Task.Sound ucd aead { task with
      phase := .ofResult task.payload domain cacheKey first second (delivery.outcome aead)
      delivery := some delivery } := by
  cases outcome : delivery.outcome aead with
  | ok replyBuf => exact ⟨asks, delivery, rfl, outcome⟩
  | error error => cases error <;> trivial

theorem sound_advance {task : Task} {now : Nat} {relay after : RelayState} {phase : Accounting.Phase}
    (sound : task.Sound ucd aead) (step : advance ucd now relay task.phase = some (phase, after)) :
    Task.Sound ucd aead { task with phase } := by
  rw [Task.Sound] at sound
  cases here : task.phase with
  | looking domain cacheKey first second =>
      rw [here] at step sound
      rw [advance] at step
      split at step
      · cases step
        trivial
      · cases step
        exact sound
  | waiting domain cacheKey first second =>
      rw [here] at step
      contradiction
  | storing domain cacheKey first second replyBuf =>
      rw [here] at step sound
      rw [advance] at step
      split at step
      · cases step
        exact ⟨⟨cacheKey, sound.1⟩, sound.2⟩
      · contradiction
  | stored domain first second replyBuf =>
      rw [here] at step sound
      cases step
      exact sound
  | pushing domain first second replyBuf =>
      rw [here] at step
      rw [advance] at step
      split at step
      · cases step
        trivial
      · contradiction
  | counting counter reply =>
      rw [here] at step
      cases step
      trivial
  | returning reply =>
      rw [here] at step
      contradiction

/-- Every task is sound. -/
def State.Sound (ucd : UnicodeData) (aead : Aead) (state : State) : Prop :=
  ∀ task ∈ state.tasks, task.Sound ucd aead

theorem State.Sound.concat {state : State} (sound : state.Sound ucd aead) {payload : Bytes}
    {decision : Verdict} (reached : verdict ucd state.ruleTrie payload = .ok decision) :
    ∀ task ∈ state.tasks ++ [⟨payload, state.ruleTrie, .ofVerdict decision, none⟩],
      task.Sound ucd aead := by
  intro task mem
  rcases List.mem_append.mp mem with old | new
  · exact sound task old
  · rw [List.mem_singleton.mp new]
    exact sound_ofVerdict reached

theorem State.Sound.next {state after : State} {event : Event} (sound : state.Sound ucd aead)
    (step : Live.next ucd aead state event = some after) : after.Sound ucd aead := by
  cases event with
  | query payload =>
      obtain ⟨decision, reached, rfl⟩ := next_query step
      exact sound.concat reached
  | advance place =>
      obtain ⟨task, phase, relay, found, advanced, rfl⟩ := next_advance step
      exact forall_mem_set sound (sound_advance (sound task (List.mem_of_getElem? found)) advanced)
  | deliver place delivery =>
      obtain ⟨task, domain, cacheKey, first, second, found, waits, rfl⟩ := next_deliver step
      have here := sound task (List.mem_of_getElem? found)
      rw [Task.Sound, waits] at here
      exact forall_mem_set sound (sound_ofResult here delivery)
  | install readFile dropList redirectList =>
      obtain ⟨_, rfl⟩ := next_install step
      exact sound
  | purge =>
      obtain ⟨dropList, _, rfl⟩ := next_purge step
      exact sound
  | tick time =>
      cases step
      exact sound

theorem sound_start (relay : RelayState) (ruleTrie : DomainTrie) (now : Nat) :
    (State.start relay ruleTrie now).Sound ucd aead :=
  fun _ mem => nomatch mem

end DnsHijacker.DnsRelay.Live
