import DnsHijacker.Library.Simulation
import DnsHijacker.DnsRelay.Live
import DnsHijacker.DnsRelay.Coherence
import Mathlib.Algebra.Order.Group.Multiset

/-!
# Tasks in parallel and queries in two halves

`Server` handles a query in two uninterrupted halves.  The tasks of the running relay are
interrupted between any two operations, and a reload between installing the rules and purging the
cache.  Every run of the relay is matched by a run of `Server` all the same: the first half of a
query happens when its task looks into the cache, the second when it stores the reply, and what a
task still has to count and to record is the whole difference.
-/

namespace DnsHijacker.DnsRelay.Live

open DnsHijacker.Rust
open DnsHijacker.Library
open DnsHijacker.Wire
open DnsHijacker.Shared
open DnsHijacker.Shared.Dns
open DnsHijacker.DnsRelay.Accounting

variable {ucd : UnicodeData} {aead : Aead}

/-! ## The machine without interruptions -/

/-- A half of a query, or a purge. -/
inductive Act where
  | serve (event : DnsRelay.Event)
  | purge (dropList : List Text)

/-- One uninterrupted act. -/
def act (ucd : UnicodeData) (aead : Aead) (server : Server) : Act → Option Server
  | .serve event => step ucd aead server event
  | .purge dropList =>
      some { server with
        relay := { server.relay with
          cache := removeDomainsFromCache ucd server.relay.cache dropList } }

/-- The acts that may stand for an event: none, or one of the same task at the same time. -/
inductive Stands (state : State) : Event → List Act → Prop
  | nothing {event : Event} (notPurge : event ≠ .purge) : Stands state event []
  | decided {payload : Bytes} :
      Stands state (.query payload)
        [.serve (.query state.tasks.length state.ruleTrie payload state.now)]
  | looked {place : Nat} {task : Task} (found : state.tasks[place]? = some task) :
      Stands state (.advance place)
        [.serve (.query place task.ruleTrie task.payload state.now)]
  | stored {place : Nat} {task : Task} {delivery : Delivery}
      (found : state.tasks[place]? = some task) (arrived : task.delivery = some delivery) :
      Stands state (.advance place) [.serve (.deliver place delivery state.now)]
  | failed {place : Nat} {delivery : Delivery} :
      Stands state (.deliver place delivery) [.serve (.deliver place delivery state.now)]
  | purged {dropList : List Text} (waiting : state.purging = some dropList) :
      Stands state .purge [.purge dropList]

theorem step_query_answered {server : Server} {place now : Nat} {ruleTrie : DomainTrie}
    {payload : Bytes} {decision : Verdict} {reply : Option Bytes} {relay : RelayState}
    (fresh : ∀ query ∈ server.pending, query.id ≠ place)
    (reached : verdict ucd ruleTrie payload = .ok decision)
    (received : receive now server.relay decision = (.answered reply, relay)) :
    act ucd aead server (.serve (.query place ruleTrie payload now)) =
      some { server with relay, served := ⟨payload, reply⟩ :: server.served } := by
  have free : ¬ server.pending.any (·.id = place) = true := by
    intro taken
    obtain ⟨query, mem, same⟩ := List.any_eq_true.mp taken
    exact fresh query mem (of_decide_eq_true same)
  rw [act, step, if_neg free, beginResolve_eq, reached, Except.map, received]

theorem step_query_forward {server : Server} {place now : Nat} {ruleTrie : DomainTrie}
    {payload : Bytes} {decision : Verdict} {domain : Text} {cacheKey : CacheKey}
    {relay : RelayState} (fresh : ∀ query ∈ server.pending, query.id ≠ place)
    (reached : verdict ucd ruleTrie payload = .ok decision)
    (received : receive now server.relay decision = (.forward domain cacheKey, relay)) :
    act ucd aead server (.serve (.query place ruleTrie payload now)) =
      some { server with
        relay
        pending := ⟨place, payload, domain, cacheKey⟩ :: server.pending } := by
  have free : ¬ server.pending.any (·.id = place) = true := by
    intro taken
    obtain ⟨query, mem, same⟩ := List.any_eq_true.mp taken
    exact fresh query mem (of_decide_eq_true same)
  rw [act, step, if_neg free, beginResolve_eq, reached, Except.map, received]

/-- Of queries under different numbers, the one under a number is found. -/
theorem find?_of_nodup {pending : List Pending} (ids : (pending.map Pending.id).Nodup)
    {query : Pending} (mem : query ∈ pending) :
    pending.find? (·.id = query.id) = some query := by
  induction pending with
  | nil => contradiction
  | cons other rest ih =>
      rw [List.map_cons, List.nodup_cons] at ids
      rw [List.find?_cons]
      rcases List.mem_cons.mp mem with rfl | later
      · simp
      · have different : other.id ≠ query.id := by
          intro same
          exact ids.1 (same ▸ List.mem_map_of_mem later)
        simp only [different, decide_false]
        exact ih ids.2 later

theorem step_deliver_finished {server : Server} {query : Pending} {delivery : Delivery} {now : Nat}
    {reply : Option Bytes} {relay : RelayState} (ids : (server.pending.map Pending.id).Nodup)
    (mem : query ∈ server.pending)
    (finished : finishResolve ucd query.payload query.domain query.cacheKey (delivery.outcome aead)
      now server.relay = .ok (reply, relay)) :
    act ucd aead server (.serve (.deliver query.id delivery now)) =
      some {
        relay
        pending := server.pending.filter (·.id ≠ query.id)
        served := ⟨query.payload, reply⟩ :: server.served } := by
  rw [act, step, find?_of_nodup ids mem]
  dsimp only
  rw [finished]

/-! ## What a task still has to do -/

/-- The counters after all of these have been incremented. -/
def countAll (owed : Multiset Counter) (metrics : MetricWrapper) : MetricWrapper where
  resolvedCount := metrics.resolvedCount + UInt64.ofNat (owed.count .resolved)
  failedCount := metrics.failedCount + UInt64.ofNat (owed.count .failed)
  timeoutCount := metrics.timeoutCount + UInt64.ofNat (owed.count .timeout)
  redirectCount := metrics.redirectCount + UInt64.ofNat (owed.count .redirect)
  dropCount := metrics.dropCount + UInt64.ofNat (owed.count .drop)
  cachedCount := metrics.cachedCount + UInt64.ofNat (owed.count .cached)

@[simp]
theorem countAll_zero (metrics : MetricWrapper) : countAll 0 metrics = metrics := by
  simp [countAll]

theorem incr_countAll (counter : Counter) (owed : Multiset Counter) (metrics : MetricWrapper) :
    counter.incr (countAll owed metrics) = countAll ({counter} + owed) metrics := by
  cases counter <;> simp [countAll, Counter.incr, MetricWrapper.incrResolved,
    MetricWrapper.incrFailed, MetricWrapper.incrTimeout, MetricWrapper.incrRedirect,
    MetricWrapper.incrDrop, MetricWrapper.incrCached, UInt64.ofNat_add, UInt64.add_assoc]

theorem countAll_incr (counter : Counter) (owed : Multiset Counter) (metrics : MetricWrapper) :
    countAll owed (counter.incr metrics) = countAll ({counter} + owed) metrics := by
  cases counter <;> simp [countAll, Counter.incr, MetricWrapper.incrResolved,
    MetricWrapper.incrFailed, MetricWrapper.incrTimeout, MetricWrapper.incrRedirect,
    MetricWrapper.incrDrop, MetricWrapper.incrCached, UInt64.ofNat_add, UInt64.add_assoc,
    UInt64.add_comm 1]

namespace Task

/-- The counters a task will increment in any case. -/
def owed (task : Task) : Multiset Counter :=
  counts task.phase

/-- The call on the history buffer for a name and its reply. -/
def pushOf (domain : Text) (replyBuf : Bytes) : Multiset (Text × List Text) :=
  match parseARecords replyBuf with
  | .ok aRecords => {(domain, aRecords.map Ipv4Addr.toText)}
  | .error _ => 0

/-- The calls on the history buffer a task will make in any case. -/
def owedPush (task : Task) : Multiset (Text × List Text) :=
  match task.phase with
  | .stored domain _ _ replyBuf => pushOf domain replyBuf
  | .pushing domain _ _ replyBuf => pushOf domain replyBuf
  | _ => 0

/-- The reply of a task, once it is decided. -/
def answered (task : Task) : Multiset Served :=
  match task.phase with
  | .stored _ first second replyBuf => {⟨task.payload, some (withTxid replyBuf first second)⟩}
  | .pushing _ first second replyBuf => {⟨task.payload, some (withTxid replyBuf first second)⟩}
  | .counting _ reply => {⟨task.payload, reply⟩}
  | .returning reply => {⟨task.payload, reply⟩}
  | _ => 0

/-- The task between its lookup and its store. -/
def pending (place : Nat) (task : Task) : Option Pending :=
  match task.phase with
  | .waiting domain cacheKey _ _ => some ⟨place, task.payload, domain, cacheKey⟩
  | .storing domain cacheKey _ _ _ => some ⟨place, task.payload, domain, cacheKey⟩
  | _ => none

end Task

theorem pushHistory_eq_ok {history after : Option (List (Text × List Text))} {domain : Text}
    {replyBuf : Bytes} (pushed : pushHistory history domain replyBuf = .ok after) :
    after.map Multiset.ofList =
      (history.map Multiset.ofList).map (· + Task.pushOf domain replyBuf) := by
  cases history with
  | none =>
      cases pushed
      rfl
  | some pushes =>
      obtain ⟨aRecords, parsed⟩ := parseARecords_returns replyBuf
      rw [pushHistory, parsed] at pushed
      cases pushed
      rw [Task.pushOf, parsed]
      rfl

/-! ## The relation -/

/-- What the tasks share, when each does its remaining operations at once. -/
structure Settles (tasks : List Task) (relay image : RelayState) : Prop where
  cache : image.cache = relay.cache
  metrics : image.metrics = relay.metrics.map (countAll (total Task.owed tasks))
  history : image.history.map Multiset.ofList =
    (relay.history.map Multiset.ofList).map (· + total Task.owedPush tasks)

/-- The queries that wait are the tasks between their lookup and their store, each under its
place. -/
structure Waits (tasks : List Task) (pending : List Pending) : Prop where
  mem : ∀ query, query ∈ pending ↔
    ∃ task, tasks[query.id]? = some task ∧ task.pending query.id = some query
  ids : (pending.map Pending.id).Nodup

/-- The server has done what the tasks have done or can no longer leave undone. -/
structure Linearized (ucd : UnicodeData) (aead : Aead) (state : State) (server : Server) : Prop where
  sound : state.Sound ucd aead
  relay : Settles state.tasks state.relay server.relay
  waits : Waits state.tasks server.pending
  served : (server.served : Multiset Served) = total Task.answered state.tasks

theorem id_of_pending {task : Task} {place : Nat} {query : Pending}
    (waits : task.pending place = some query) : query.id = place := by
  rw [Task.pending] at waits
  split at waits <;> cases waits <;> rfl

section

variable {tasks : List Task} {pending : List Pending} {place : Nat} {old : Task}

/-- No query waits under the place of a task that does not wait. -/
theorem Waits.fresh (waits : Waits tasks pending) (place : Nat)
    (idle : ∀ task, tasks[place]? = some task → task.pending place = none) :
    ∀ query ∈ pending, query.id ≠ place := by
  rintro query mem rfl
  obtain ⟨task, found, here⟩ := (waits.mem query).mp mem
  rw [idle task found] at here
  contradiction

theorem Waits.append (waits : Waits tasks pending) {new : Task}
    (idle : new.pending tasks.length = none) : Waits (tasks ++ [new]) pending where
  ids := waits.ids
  mem query := by
    rw [waits.mem query]
    refine exists_congr fun task => and_congr_left fun here => ?_
    rcases Nat.lt_trichotomy query.id tasks.length with inside | last | outside
    · rw [List.getElem?_append_left inside]
    · rw [last, List.getElem?_concat_length, List.getElem?_eq_none (Nat.le_refl _)]
      refine iff_of_false nofun fun same => ?_
      rw [← Option.some.inj same, last, idle] at here
      contradiction
    · rw [List.getElem?_eq_none (Nat.le_of_lt outside),
        List.getElem?_eq_none (by rw [List.length_append]; exact outside)]

theorem Waits.set_same (waits : Waits tasks pending) (found : tasks[place]? = some old) {new : Task}
    (same : new.pending place = old.pending place) : Waits (tasks.set place new) pending where
  ids := waits.ids
  mem query := by
    rw [waits.mem query]
    by_cases here : place = query.id
    · subst here
      rw [found, List.getElem?_set_self (List.getElem?_eq_some_iff.mp found).1]
      simp [same]
    · rw [List.getElem?_set_ne here]

theorem Waits.set_add (waits : Waits tasks pending) (found : tasks[place]? = some old) {new : Task}
    {query : Pending} (idle : old.pending place = none) (starts : new.pending place = some query) :
    Waits (tasks.set place new) (query :: pending) := by
  have fresh := waits.fresh place fun task same => by
    rw [found] at same
    rw [← Option.some.inj same, idle]
  have own := id_of_pending starts
  constructor
  · intro other
    rw [List.mem_cons, waits.mem other]
    by_cases here : place = other.id
    · subst here
      rw [found, List.getElem?_set_self (List.getElem?_eq_some_iff.mp found).1]
      simp [idle, starts, eq_comm]
    · rw [List.getElem?_set_ne here]
      refine or_iff_right ?_
      rintro rfl
      exact here own.symm
  · rw [List.map_cons, List.nodup_cons]
    refine ⟨fun taken => ?_, waits.ids⟩
    obtain ⟨other, mem, same⟩ := List.mem_map.mp taken
    exact fresh other mem (same.trans own)

theorem Waits.set_remove (waits : Waits tasks pending) (found : tasks[place]? = some old)
    {new : Task} (done : new.pending place = none) :
    Waits (tasks.set place new) (pending.filter (·.id ≠ place)) where
  ids := waits.ids.sublist (List.filter_sublist.map Pending.id)
  mem other := by
    rw [List.mem_filter, waits.mem other, decide_eq_true_iff]
    by_cases here : place = other.id
    · subst here
      rw [List.getElem?_set_self (List.getElem?_eq_some_iff.mp found).1]
      simp [done]
    · rw [List.getElem?_set_ne here]
      exact and_iff_left (Ne.symm here)

end

section

variable {relay image : RelayState} {before after rest : Multiset Counter}

/-- A counter that was owed has been incremented. -/
theorem metrics_incr_relay (counter : Counter)
    (settled : image.metrics = relay.metrics.map (countAll (before + rest)))
    (one : before = {counter} + after) :
    image.metrics = (relay.incr counter.incr).metrics.map (countAll (after + rest)) := by
  rw [settled, RelayState.incr, Option.map_map, one, add_assoc]
  congr 1
  funext metrics
  exact (countAll_incr counter _ metrics).symm

/-- A counter that is owed from now on has been incremented in the image. -/
theorem metrics_incr_image (counter : Counter)
    (settled : image.metrics = relay.metrics.map (countAll (before + rest)))
    (one : after = {counter} + before) :
    (image.incr counter.incr).metrics = relay.metrics.map (countAll (after + rest)) := by
  rw [RelayState.incr, settled, one, add_assoc]
  dsimp only
  rw [Option.map_map]
  congr 1
  funext metrics
  exact incr_countAll counter _ metrics

end

section

variable {recorded image pushes : Option (List (Text × List Text))} {domain : Text}
  {replyBuf : Bytes} {before after rest : Multiset (Text × List Text)}

/-- A call on the history buffer that was owed has been made. -/
theorem history_push_relay
    (settled : image.map Multiset.ofList =
      (recorded.map Multiset.ofList).map (· + (before + rest)))
    (pushed : pushHistory recorded domain replyBuf = .ok pushes)
    (one : before = Task.pushOf domain replyBuf + after) :
    image.map Multiset.ofList = (pushes.map Multiset.ofList).map (· + (after + rest)) := by
  rw [settled, pushHistory_eq_ok pushed, one]
  simp only [Option.map_map]
  congr 1
  funext calls
  simp only [Function.comp_apply, add_assoc]

/-- A call that is owed from now on has been made in the image. -/
theorem history_push_image
    (settled : image.map Multiset.ofList =
      (recorded.map Multiset.ofList).map (· + (before + rest)))
    (pushed : pushHistory image domain replyBuf = .ok pushes)
    (one : after = Task.pushOf domain replyBuf + before) :
    pushes.map Multiset.ofList = (recorded.map Multiset.ofList).map (· + (after + rest)) := by
  rw [pushHistory_eq_ok pushed, settled, Option.map_map, one]
  congr 1
  funext calls
  simp only [Function.comp_apply, add_assoc, add_left_comm, add_comm]

end

/-! ## Every event is matched -/

section

variable {state after : State} {server : Server} {place : Nat}

/-- A task that goes on without an act: what the tasks share and what it has left to do change
alike. -/
theorem Linearized.stutter (linearized : Linearized ucd aead state server) {task new : Task}
    {relay : RelayState} (found : state.tasks[place]? = some task)
    (sound : new.Sound ucd aead) (settles : Settles (state.tasks.set place new) relay server.relay)
    (pending : new.pending place = task.pending place) (answered : new.answered = task.answered) :
    Linearized ucd aead { state with relay, tasks := state.tasks.set place new } server where
  sound := forall_mem_set linearized.sound sound
  relay := settles
  waits := linearized.waits.set_same found pending
  served := by
    rw [linearized.served, total_of_getElem? _ found, total_set _ found, answered]

/-- A task whose reply is decided by an act. -/
theorem Linearized.answer (linearized : Linearized ucd aead state server) {task new : Task}
    {relay image : RelayState} {pending : List Pending} {reply : Option Bytes}
    (found : state.tasks[place]? = some task) (sound : new.Sound ucd aead)
    (settles : Settles (state.tasks.set place new) relay image)
    (waits : Waits (state.tasks.set place new) pending) (undecided : task.answered = 0)
    (answered : new.answered = {⟨task.payload, reply⟩}) :
    Linearized ucd aead { state with relay, tasks := state.tasks.set place new }
      ⟨image, pending, ⟨task.payload, reply⟩ :: server.served⟩ where
  sound := forall_mem_set linearized.sound sound
  relay := settles
  waits := waits
  served := by
    have before := linearized.served
    rw [total_of_getElem? _ found, undecided, zero_add] at before
    rw [total_set _ found, answered, ← before, Multiset.singleton_add, Multiset.cons_coe]

variable {payload : Bytes} {ruleTrie : DomainTrie} {delivery : Option Delivery}

/-- A lookup is the first half of a query. -/
theorem Linearized.look (linearized : Linearized ucd aead state server) {domain : Text}
    {cacheKey : CacheKey} {first second : UInt8}
    (found : state.tasks[place]? =
      some ⟨payload, ruleTrie, .looking domain cacheKey first second, delivery⟩)
    {phase : Accounting.Phase} {relay : RelayState}
    (advanced : advance ucd state.now state.relay (.looking domain cacheKey first second) =
      some (phase, relay)) :
    ∃ block image, Stands state (.advance place) block ∧ run (act ucd aead) server block = some image ∧
      Linearized ucd aead
        { state with relay, tasks := state.tasks.set place ⟨payload, ruleTrie, phase, delivery⟩ }
        image := by
  have here : Asks ucd _ _ _ _ _ := linearized.sound _ (List.mem_of_getElem? found)
  have sound := sound_advance (linearized.sound _ (List.mem_of_getElem? found)) advanced
  obtain ⟨cache, metrics, history⟩ := linearized.relay
  have fresh := linearized.waits.fresh place fun other same => by
    rw [found] at same
    rw [← Option.some.inj same]
    rfl
  rw [total_of_getElem? _ found] at metrics history
  rw [advance] at advanced
  rcases looked : cacheLookup state.relay.cache cacheKey state.now with ⟨hit, remaining⟩
  rw [looked] at advanced
  cases hit with
  | some hit =>
      cases advanced
      have received : receive state.now server.relay (.ask domain cacheKey first second) =
          (.answered (some (withTxid hit first second)),
            { server.relay with cache := remaining }.incr Counter.cached.incr) := by
        rw [receive, cache, looked]
        rfl
      apply exists_single (.looked found) (step_query_answered fresh here received)
      refine linearized.answer found sound ⟨rfl, ?_, ?_⟩ (linearized.waits.set_same found rfl) rfl rfl
      · rw [total_set _ found]
        exact metrics_incr_image _ metrics rfl
      · rw [total_set _ found]
        exact history
  | none =>
      cases advanced
      have received : receive state.now server.relay (.ask domain cacheKey first second) =
          (.forward domain cacheKey, { server.relay with cache := remaining }) := by
        rw [receive, cache, looked]
      apply exists_single (.looked found) (step_query_forward fresh here received)
      constructor
      · exact forall_mem_set linearized.sound sound
      · refine ⟨rfl, ?_, ?_⟩
        · rw [total_set _ found]
          exact metrics
        · rw [total_set _ found]
          exact history
      · exact linearized.waits.set_add found rfl rfl
      · rw [linearized.served, total_of_getElem? _ found, total_set _ found]
        rfl

/-- A store is the second half of a query. -/
theorem Linearized.store (linearized : Linearized ucd aead state server) {domain : Text}
    {cacheKey : CacheKey} {first second : UInt8} {replyBuf : Bytes}
    (found : state.tasks[place]? =
      some ⟨payload, ruleTrie, .storing domain cacheKey first second replyBuf, delivery⟩)
    {phase : Accounting.Phase} {relay : RelayState}
    (advanced : advance ucd state.now state.relay (.storing domain cacheKey first second replyBuf) =
      some (phase, relay)) :
    ∃ block image, Stands state (.advance place) block ∧ run (act ucd aead) server block = some image ∧
      Linearized ucd aead
        { state with relay, tasks := state.tasks.set place ⟨payload, ruleTrie, phase, delivery⟩ }
        image := by
  have here : Task.Sound ucd aead _ := linearized.sound _ (List.mem_of_getElem? found)
  have sound := sound_advance here advanced
  obtain ⟨asks, arrived, has, outcome⟩ := here
  obtain ⟨cache, metrics, history⟩ := linearized.relay
  have mem : (⟨place, payload, domain, cacheKey⟩ : Pending) ∈ server.pending :=
    (linearized.waits.mem _).mpr ⟨_, found, rfl⟩
  rw [total_of_getElem? _ found] at metrics history
  rw [advance] at advanced
  split at advanced
  · rename_i remaining stored
    cases advanced
    obtain ⟨pushes, pushed⟩ := pushHistory_returns server.relay.history domain replyBuf
    obtain ⟨firstFound, secondFound⟩ : payload[0]? = some first ∧ payload[1]? = some second := by
      cases decides_of_verdict asks with
      | ask _ _ _ _ firstFound secondFound => exact ⟨firstFound, secondFound⟩
    have finished : finishResolve ucd payload domain cacheKey (arrived.outcome aead) state.now
        server.relay = .ok (some (withTxid replyBuf first second),
          { server.relay with cache := remaining, history := pushes }.incr Counter.resolved.incr) := by
      rw [outcome, finishResolve, index_eq_ok firstFound, index_eq_ok secondFound, cache]
      simp only [bind, Except.bind, stored, pushed]
      rfl
    apply exists_single (.stored found has) (step_deliver_finished linearized.waits.ids mem finished)
    refine linearized.answer found sound ⟨rfl, ?_, ?_⟩ (linearized.waits.set_remove found rfl) rfl rfl
    · rw [total_set _ found]
      exact metrics_incr_image _ metrics rfl
    · rw [total_set _ found]
      exact history_push_image history pushed (add_zero _).symm
  · contradiction

/-- Nothing stands for what a task does after its reply is decided. -/
theorem Linearized.settle (linearized : Linearized ucd aead state server) {task : Task}
    (found : state.tasks[place]? = some task) (decided : task.answered ≠ 0) {phase : Accounting.Phase}
    {relay : RelayState}
    (advanced : advance ucd state.now state.relay task.phase = some (phase, relay)) :
    Linearized ucd aead { state with relay, tasks := state.tasks.set place { task with phase } }
      server := by
  have sound := sound_advance (linearized.sound task (List.mem_of_getElem? found)) advanced
  obtain ⟨cache, metrics, history⟩ := linearized.relay
  rw [total_of_getElem? _ found] at metrics history
  obtain ⟨payload, ruleTrie, here, delivery⟩ := task
  cases here with
  | looking domain cacheKey first second => exact absurd rfl decided
  | waiting domain cacheKey first second => exact absurd rfl decided
  | storing domain cacheKey first second replyBuf => exact absurd rfl decided
  | stored domain first second replyBuf =>
      cases advanced
      refine linearized.stutter found sound ⟨cache, ?_, ?_⟩ rfl rfl
      · rw [total_set _ found]
        exact metrics_incr_relay _ metrics rfl
      · rw [total_set _ found]
        exact history
  | pushing domain first second replyBuf =>
      rw [advance] at advanced
      split at advanced
      · rename_i recorded pushed
        cases advanced
        refine linearized.stutter found sound ⟨cache, ?_, ?_⟩ rfl rfl
        · rw [total_set _ found]
          exact metrics
        · rw [total_set _ found]
          exact history_push_relay history pushed (add_zero _).symm
      · contradiction
  | counting counter reply =>
      cases advanced
      refine linearized.stutter found sound ⟨cache, ?_, ?_⟩ rfl rfl
      · rw [total_set _ found]
        exact metrics_incr_relay _ metrics rfl
      · rw [total_set _ found]
        exact history
  | returning reply => contradiction

/-- A query whose verdict is a reply, or that there is none, is over with its first half. -/
theorem Linearized.decide (linearized : Linearized ucd aead state server) {decision : Verdict}
    {reply : Option Bytes} {image : RelayState}
    (reached : verdict ucd state.ruleTrie payload = .ok decision)
    (received : receive state.now server.relay decision = (.answered reply, image))
    (settles : Settles (state.tasks ++ [⟨payload, state.ruleTrie, .ofVerdict decision, none⟩])
      state.relay image)
    (pending : Task.pending state.tasks.length ⟨payload, state.ruleTrie, .ofVerdict decision, none⟩ =
      none)
    (answered : Task.answered ⟨payload, state.ruleTrie, .ofVerdict decision, none⟩ =
      {⟨payload, reply⟩}) :
    ∃ block image, Stands state (.query payload) block ∧ run (act ucd aead) server block = some image ∧
      Linearized ucd aead
        { state with
          tasks := state.tasks ++ [⟨payload, state.ruleTrie, .ofVerdict decision, none⟩] } image := by
  have fresh := linearized.waits.fresh state.tasks.length fun other found => by
    rw [List.getElem?_eq_none (Nat.le_refl _)] at found
    contradiction
  apply exists_single .decided (step_query_answered fresh reached received)
  constructor
  · exact linearized.sound.concat reached
  · exact settles
  · exact linearized.waits.append pending
  · rw [total_concat, answered, ← linearized.served, Multiset.singleton_add, Multiset.cons_coe]

/-- A query is dispatched. -/
theorem Linearized.dispatch (linearized : Linearized ucd aead state server) {decision : Verdict}
    (reached : verdict ucd state.ruleTrie payload = .ok decision) :
    ∃ block image, Stands state (.query payload) block ∧ run (act ucd aead) server block = some image ∧
      Linearized ucd aead
        { state with
          tasks := state.tasks ++ [⟨payload, state.ruleTrie, .ofVerdict decision, none⟩] } image := by
  obtain ⟨cache, metrics, history⟩ := linearized.relay
  rw [← zero_add (total _ state.tasks)] at metrics history
  cases decision with
  | refused =>
      apply linearized.decide reached rfl ⟨cache, ?_, ?_⟩ rfl rfl
      · rw [total_concat]
        exact metrics
      · rw [total_concat]
        exact history
  | dropped resp =>
      apply linearized.decide reached rfl ⟨cache, ?_, ?_⟩ rfl rfl
      · rw [total_concat]
        exact metrics_incr_image .drop metrics rfl
      · rw [total_concat]
        exact history
  | redirected resp =>
      apply linearized.decide reached rfl ⟨cache, ?_, ?_⟩ rfl rfl
      · rw [total_concat]
        exact metrics_incr_image .redirect metrics rfl
      · rw [total_concat]
        exact history
  | ask domain cacheKey first second =>
      apply exists_stutter (.nothing nofun)
      constructor
      · exact linearized.sound.concat reached
      · refine ⟨cache, ?_, ?_⟩
        · rw [total_concat]
          exact metrics
        · rw [total_concat]
          exact history
      · exact linearized.waits.append rfl
      · rw [linearized.served, total_concat]
        exact (zero_add _).symm

/-- A failure that arrives for a query is its second half. -/
theorem Linearized.fail (linearized : Linearized ucd aead state server) {domain : Text}
    {cacheKey : CacheKey} {first second : UInt8} {arrived : Delivery} {counter : Counter}
    (found : state.tasks[place]? =
      some ⟨payload, ruleTrie, .waiting domain cacheKey first second, delivery⟩)
    (finished : finishResolve ucd payload domain cacheKey (arrived.outcome aead) state.now
      server.relay = .ok (craftServfailResponse payload, server.relay.incr counter.incr)) :
    ∃ block image, Stands state (.deliver place arrived) block ∧
      run (act ucd aead) server block = some image ∧
      Linearized ucd aead
        { state with
          tasks := state.tasks.set place
            ⟨payload, ruleTrie, .counting counter (craftServfailResponse payload), some arrived⟩ }
        image := by
  obtain ⟨cache, metrics, history⟩ := linearized.relay
  rw [total_of_getElem? _ found] at metrics history
  have mem : (⟨place, payload, domain, cacheKey⟩ : Pending) ∈ server.pending :=
    (linearized.waits.mem _).mpr ⟨_, found, rfl⟩
  apply exists_single .failed (step_deliver_finished linearized.waits.ids mem finished)
  refine linearized.answer found trivial ⟨cache, ?_, ?_⟩ (linearized.waits.set_remove found rfl) rfl
    rfl
  · rw [total_set _ found]
    exact metrics_incr_image _ metrics rfl
  · rw [total_set _ found]
    exact history

/-- Something arrives for a task that waits. -/
theorem Linearized.deliver (linearized : Linearized ucd aead state server) {domain : Text}
    {cacheKey : CacheKey} {first second : UInt8}
    (found : state.tasks[place]? =
      some ⟨payload, ruleTrie, .waiting domain cacheKey first second, delivery⟩)
    (arrived : Delivery) :
    ∃ block image, Stands state (.deliver place arrived) block ∧
      run (act ucd aead) server block = some image ∧
      Linearized ucd aead
        { state with
          tasks := state.tasks.set place
            ⟨payload, ruleTrie,
              .ofResult payload domain cacheKey first second (arrived.outcome aead), some arrived⟩ }
        image := by
  have here : Asks ucd _ _ _ _ _ := linearized.sound _ (List.mem_of_getElem? found)
  have sound : Task.Sound ucd aead _ := sound_ofResult here arrived
  cases outcome : arrived.outcome aead with
  | ok replyBuf =>
      rw [outcome] at sound
      obtain ⟨cache, metrics, history⟩ := linearized.relay
      rw [total_of_getElem? _ found] at metrics history
      apply exists_stutter (.nothing nofun)
      refine linearized.stutter found sound ⟨cache, ?_, ?_⟩ rfl rfl
      · rw [total_set _ found]
        exact metrics
      · rw [total_set _ found]
        exact history
  | error error =>
      cases error <;> exact linearized.fail found (by rw [outcome]; rfl)

end

/-- Every run of the tasks, in whatever order they go on and with reloads at any time, is a run of
the machine that takes queries one at a time. -/
theorem simulation (ucd : UnicodeData) (aead : Aead) :
    Simulation (next ucd aead) (act ucd aead) Stands (Linearized ucd aead) where
  step {state after server event} linearized step := by
    cases event with
    | query payload =>
        obtain ⟨decision, reached, rfl⟩ := next_query step
        exact linearized.dispatch reached
    | advance place =>
        obtain ⟨⟨payload, ruleTrie, here, delivery⟩, phase, relay, found, advanced, rfl⟩ :=
          next_advance step
        cases here with
        | looking domain cacheKey first second => exact linearized.look found advanced
        | waiting domain cacheKey first second => contradiction
        | storing domain cacheKey first second replyBuf => exact linearized.store found advanced
        | stored domain first second replyBuf =>
            exact exists_stutter (.nothing nofun)
              (linearized.settle found (Multiset.singleton_ne_zero _) advanced)
        | pushing domain first second replyBuf =>
            exact exists_stutter (.nothing nofun)
              (linearized.settle found (Multiset.singleton_ne_zero _) advanced)
        | counting counter reply =>
            exact exists_stutter (.nothing nofun)
              (linearized.settle found (Multiset.singleton_ne_zero _) advanced)
        | returning reply => contradiction
    | deliver place delivery =>
        obtain ⟨⟨payload, ruleTrie, here, before⟩, domain, cacheKey, first, second, found, waits,
          rfl⟩ := next_deliver step
        cases waits
        exact linearized.deliver found delivery
    | install readFile dropList redirectList =>
        obtain ⟨_, rfl⟩ := next_install step
        exact exists_stutter (.nothing nofun) ⟨linearized.sound, linearized.relay,
          linearized.waits, linearized.served⟩
    | purge =>
        obtain ⟨dropList, waiting, rfl⟩ := next_purge step
        apply exists_single (.purged waiting) rfl
        obtain ⟨cache, metrics, history⟩ := linearized.relay
        exact ⟨linearized.sound, ⟨congrArg (removeDomainsFromCache ucd · dropList) cache, metrics,
          history⟩, linearized.waits, linearized.served⟩
    | tick time =>
        cases step
        exact exists_stutter (.nothing nofun) ⟨linearized.sound, linearized.relay,
          linearized.waits, linearized.served⟩

end DnsHijacker.DnsRelay.Live
