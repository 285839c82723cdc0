import DnsHijacker.DnsRelay.HandlerSpec
import DnsHijacker.Library.Run
import DnsHijacker.Library.Slots

/-!
# What the counters count

Calls of `resolve_query` run in parallel and share the cache, the counters and the history buffer.
Each touches them with one operation at a time: a lookup or a store under the lock of the cache, an
increment of an atomic counter, a push.  Between any two operations of a call all others may go on.
-/

namespace DnsHijacker.DnsRelay.Accounting

open DnsHijacker.Rust
open DnsHijacker.Library
open DnsHijacker.Shared
open DnsHijacker.Shared.Dns
open DnsHijacker.Wire

/-! ## The counters -/

/-- The counters that `resolve_query` increments. -/
inductive Counter where
  | resolved
  | failed
  | timeout
  | redirect
  | drop
  | cached
  deriving DecidableEq

namespace Counter

def incr : Counter → MetricWrapper → MetricWrapper
  | resolved => .incrResolved
  | failed => .incrFailed
  | timeout => .incrTimeout
  | redirect => .incrRedirect
  | drop => .incrDrop
  | cached => .incrCached

def read (metrics : MetricWrapper) : Counter → UInt64
  | resolved => metrics.resolvedCount
  | failed => metrics.failedCount
  | timeout => metrics.timeoutCount
  | redirect => metrics.redirectCount
  | drop => metrics.dropCount
  | cached => metrics.cachedCount

theorem read_incr (metrics : MetricWrapper) (counter other : Counter) :
    (other.incr metrics |> read) counter =
      read metrics counter + if other = counter then 1 else 0 := by
  cases counter <;> cases other <;> simp [read, incr, MetricWrapper.incrResolved,
    MetricWrapper.incrFailed, MetricWrapper.incrTimeout, MetricWrapper.incrRedirect,
    MetricWrapper.incrDrop, MetricWrapper.incrCached]

end Counter

/-! ## Calls -/

/-- How far a call of `resolve_query` has come: what it does next. -/
inductive Phase where
  | looking (domain : Text) (cacheKey : CacheKey) (first second : UInt8)
  /-- It waits for the relay or the resolver. -/
  | waiting (domain : Text) (cacheKey : CacheKey) (first second : UInt8)
  | storing (domain : Text) (cacheKey : CacheKey) (first second : UInt8) (replyBuf : Bytes)
  /-- The reply is stored and not counted yet. -/
  | stored (domain : Text) (first second : UInt8) (replyBuf : Bytes)
  | pushing (domain : Text) (first second : UInt8) (replyBuf : Bytes)
  | counting (counter : Counter) (reply : Option Bytes)
  | returning (reply : Option Bytes)

/-- What a call does after the verdict. -/
def Phase.ofVerdict : Verdict → Phase
  | .refused => .returning none
  | .dropped resp => .counting .drop (some resp)
  | .redirected resp => .counting .redirect (some resp)
  | .ask domain cacheKey first second => .looking domain cacheKey first second

/-- What a call does after the upstream call. -/
def Phase.ofResult (payload : Bytes) (domain : Text) (cacheKey : CacheKey) (first second : UInt8) :
    Except Error Bytes → Phase
  | .ok replyBuf => .storing domain cacheKey first second replyBuf
  | .error .resolveTimeout => .counting .timeout (craftServfailResponse payload)
  | .error _ => .counting .failed (craftServfailResponse payload)

variable (ucd : UnicodeData)

/-- The next operation of a call on what it shares with the others. -/
def advance (now : Nat) (state : RelayState) : Phase → Option (Phase × RelayState)
  | .looking domain cacheKey first second =>
      match cacheLookup state.cache cacheKey now with
      | (some hit, cache) =>
          some (.counting .cached (some (withTxid hit first second)), { state with cache })
      | (none, cache) => some (.waiting domain cacheKey first second, { state with cache })
  | .waiting _ _ _ _ => none
  | .storing domain cacheKey first second replyBuf =>
      match cacheStore ucd state.cache cacheKey replyBuf now with
      | .ok cache => some (.stored domain first second replyBuf, { state with cache })
      | .error _ => none
  | .stored domain first second replyBuf =>
      some (.pushing domain first second replyBuf, state.incr Counter.resolved.incr)
  | .pushing domain first second replyBuf =>
      match pushHistory state.history domain replyBuf with
      | .ok history => some (.returning (some (withTxid replyBuf first second)), { state with history })
      | .error _ => none
  | .counting counter reply => some (.returning reply, state.incr counter.incr)
  | .returning _ => none

/-- The counters that the next operation of a call increments. -/
def counts : Phase → List Counter
  | .stored _ _ _ _ => [.resolved]
  | .counting counter _ => [counter]
  | _ => []

/-- The entries are the same but for some that had expired. -/
def OnlyExpiry (now : Nat) (before after : ResponseCache) : Prop :=
  (∀ entry ∈ after.entries, entry ∈ before.entries) ∧
    ∀ entry ∈ before.entries, entry ∉ after.entries → entry.2.expiresAt ≤ now

instance (now : Nat) (before after : ResponseCache) : Decidable (OnlyExpiry now before after) :=
  inferInstanceAs (Decidable ((∀ entry ∈ after.entries, entry ∈ before.entries) ∧
    ∀ entry ∈ before.entries, entry ∉ after.entries → entry.2.expiresAt ≤ now))

/-- A call in progress.  The counters it has incremented, and whether it has changed the set of
entries other than by expiry, are written down here for the statements below. -/
structure Call where
  payload : Bytes
  phase : Phase
  counted : List Counter
  changed : Bool

/-- A call that has returned. -/
structure Returned where
  reply : Option Bytes
  counted : List Counter
  changed : Bool

structure System where
  state : RelayState
  now : Nat
  calls : List Call
  returned : List Returned

/-- Before the first call.  The cache may have any contents. -/
def System.start (cache : ResponseCache) (history : Option (List (Text × List Text))) (now : Nat) :
    System where
  state := ⟨cache, some {}, history⟩
  now
  calls := []
  returned := []

/-- A call begins, with the rules in force then; a call in progress goes on, gets the outcome of
its upstream call, or returns; a call that waits is given up; time passes. -/
inductive Event where
  | query (ruleTrie : DomainTrie) (payload : Bytes)
  | advance (place : Nat)
  | deliver (place : Nat) (resolveResult : Except Error Bytes)
  | ret (place : Nat)
  | abandon (place : Nat)
  | tick (time : Nat)

/-- One event.  A call that does not come back ends the run. -/
def next (system : System) : Event → Option System
  | .query ruleTrie payload =>
      match verdict ucd ruleTrie payload with
      | .ok decision =>
          some { system with calls := ⟨payload, .ofVerdict decision, [], false⟩ :: system.calls }
      | .error _ => none
  | .advance place =>
      match system.calls[place]? with
      | none => none
      | some call =>
          match Accounting.advance ucd system.now system.state call.phase with
          | none => none
          | some (phase, state) =>
              some { system with
                state
                calls := system.calls.set place { call with
                  phase
                  counted := call.counted ++ counts call.phase
                  changed := call.changed ||
                    !decide (OnlyExpiry system.now system.state.cache state.cache) } }
  | .deliver place resolveResult =>
      match system.calls[place]? with
      | none => none
      | some call =>
          match call.phase with
          | .waiting domain cacheKey first second =>
              some { system with
                calls := system.calls.set place { call with
                  phase := .ofResult call.payload domain cacheKey first second resolveResult } }
          | _ => none
  | .ret place =>
      match system.calls[place]? with
      | none => none
      | some call =>
          match call.phase with
          | .returning reply =>
              some { system with
                calls := system.calls.eraseIdx place
                returned := ⟨reply, call.counted, call.changed⟩ :: system.returned }
          | _ => none
  | .abandon place =>
      match system.calls[place]? with
      | none => none
      | some call =>
          match call.phase with
          | .waiting _ _ _ _ => some { system with calls := system.calls.eraseIdx place }
          | _ => none
  | .tick time => some { system with now := system.now + time }

/-! ## What an event can do -/

variable {ucd}

section

variable {system after : System} {place : Nat}

theorem next_query {ruleTrie : DomainTrie} {payload : Bytes}
    (step : next ucd system (.query ruleTrie payload) = some after) :
    ∃ decision, verdict ucd ruleTrie payload = .ok decision ∧
      after = { system with calls := ⟨payload, .ofVerdict decision, [], false⟩ :: system.calls } := by
  rw [next] at step
  cases reached : verdict ucd ruleTrie payload with
  | error fault => simp [reached] at step
  | ok decision => exact ⟨decision, rfl, by simpa [reached] using step.symm⟩

theorem next_advance (step : next ucd system (.advance place) = some after) :
    ∃ call phase state, system.calls[place]? = some call ∧
      advance ucd system.now system.state call.phase = some (phase, state) ∧
      after = { system with
        state
        calls := system.calls.set place { call with
          phase
          counted := call.counted ++ counts call.phase
          changed := call.changed ||
            !decide (OnlyExpiry system.now system.state.cache state.cache) } } := by
  rw [next] at step
  cases found : system.calls[place]? with
  | none => simp [found] at step
  | some call =>
      cases advanced : advance ucd system.now system.state call.phase with
      | none => simp [found, advanced] at step
      | some result =>
          obtain ⟨phase, state⟩ := result
          exact ⟨call, phase, state, rfl, advanced, by simpa [found, advanced] using step.symm⟩

theorem next_deliver {resolveResult : Except Error Bytes}
    (step : next ucd system (.deliver place resolveResult) = some after) :
    ∃ call domain cacheKey first second, system.calls[place]? = some call ∧
      call.phase = .waiting domain cacheKey first second ∧
      after = { system with
        calls := system.calls.set place { call with
          phase := .ofResult call.payload domain cacheKey first second resolveResult } } := by
  rw [next] at step
  cases found : system.calls[place]? with
  | none => simp [found] at step
  | some call =>
      rw [found] at step
      dsimp only at step
      split at step
      · rename_i domain cacheKey first second waits
        exact ⟨call, domain, cacheKey, first, second, rfl, waits, (Option.some.inj step).symm⟩
      · contradiction

theorem next_ret (step : next ucd system (.ret place) = some after) :
    ∃ call reply, system.calls[place]? = some call ∧ call.phase = .returning reply ∧
      after = { system with
        calls := system.calls.eraseIdx place
        returned := ⟨reply, call.counted, call.changed⟩ :: system.returned } := by
  rw [next] at step
  cases found : system.calls[place]? with
  | none => simp [found] at step
  | some call =>
      rw [found] at step
      dsimp only at step
      split at step
      · rename_i reply returns
        exact ⟨call, reply, rfl, returns, (Option.some.inj step).symm⟩
      · contradiction

theorem next_abandon (step : next ucd system (.abandon place) = some after) :
    ∃ call domain cacheKey first second, system.calls[place]? = some call ∧
      call.phase = .waiting domain cacheKey first second ∧
      after = { system with calls := system.calls.eraseIdx place } := by
  rw [next] at step
  cases found : system.calls[place]? with
  | none => simp [found] at step
  | some call =>
      rw [found] at step
      dsimp only at step
      split at step
      · rename_i domain cacheKey first second waits
        exact ⟨call, domain, cacheKey, first, second, rfl, waits, (Option.some.inj step).symm⟩
      · contradiction

end

/-! ## What a call has done when it is at a phase -/

theorem onlyExpiry_refl (now : Nat) (cache : ResponseCache) : OnlyExpiry now cache cache :=
  ⟨fun _ mem => mem, fun _ mem gone => absurd mem gone⟩

/-- A lookup removes what has expired at most. -/
theorem onlyExpiry_cacheLookup (cache : ResponseCache) (key : CacheKey) (now : Nat) :
    OnlyExpiry now cache (cacheLookup cache key now).2 := by
  refine ⟨fun entry mem => mem_cacheLookup mem, fun entry mem gone => ?_⟩
  by_contra live
  exact gone (mem_cacheLookup_iff.mpr ⟨mem, fun expired => live expired.2⟩)

/-- What a reply or its absence says of a call. -/
def SoundReply (counted : List Counter) (changed : Bool) : Option Bytes → Prop
  | none => counted = [] ∧ changed = false
  | some _ => ∃ counter, counted = [counter] ∧ (changed = true → counter = .resolved)

/-- What a call has done before the next operation. -/
def SoundAt (payload : Bytes) (counted : List Counter) (changed : Bool) : Phase → Prop
  | .looking _ _ _ _ => 12 ≤ payload.length ∧ counted = [] ∧ changed = false
  | .waiting _ _ _ _ => 12 ≤ payload.length ∧ counted = [] ∧ changed = false
  | .storing _ _ _ _ _ => counted = [] ∧ changed = false
  | .stored _ _ _ _ => counted = []
  | .pushing _ _ _ _ => counted = [.resolved]
  | .counting _ reply => reply.isSome ∧ counted = [] ∧ changed = false
  | .returning reply => SoundReply counted changed reply

def Call.Sound (call : Call) : Prop :=
  SoundAt call.payload call.counted call.changed call.phase

theorem soundAt_ofVerdict {ruleTrie : DomainTrie} {payload : Bytes} {decision : Verdict}
    (reached : verdict ucd ruleTrie payload = .ok decision) :
    SoundAt payload [] false (.ofVerdict decision) := by
  cases decides_of_verdict reached with
  | refused => exact ⟨rfl, rfl⟩
  | dropped _ _ _ => exact ⟨rfl, rfl, rfl⟩
  | redirected _ _ _ => exact ⟨rfl, rfl, rfl⟩
  | ask long _ _ _ _ _ => exact ⟨long, rfl, rfl⟩

theorem isSome_craftServfailResponse {payload : Bytes} (long : 12 ≤ payload.length) :
    (craftServfailResponse payload).isSome := by
  rw [craftServfailResponse, craftFlagged, if_neg (Nat.not_lt.mpr long)]
  rfl

theorem soundAt_ofResult {payload : Bytes} {domain : Text} {cacheKey : CacheKey}
    {first second : UInt8} (long : 12 ≤ payload.length) (resolveResult : Except Error Bytes) :
    SoundAt payload [] false (.ofResult payload domain cacheKey first second resolveResult) := by
  have crafted := isSome_craftServfailResponse long
  cases resolveResult with
  | ok replyBuf => exact ⟨rfl, rfl⟩
  | error error => cases error <;> exact ⟨crafted, rfl, rfl⟩

theorem soundAt_advance {payload : Bytes} {counted : List Counter} {changed : Bool} {now : Nat}
    {state after : RelayState} {phase later : Phase} (sound : SoundAt payload counted changed phase)
    (step : advance ucd now state phase = some (later, after)) :
    SoundAt payload (counted ++ counts phase)
      (changed || !decide (OnlyExpiry now state.cache after.cache)) later := by
  cases phase with
  | looking domain cacheKey first second =>
      obtain ⟨long, rfl, rfl⟩ := sound
      have expiry := onlyExpiry_cacheLookup state.cache cacheKey now
      rw [advance] at step
      rcases looked : cacheLookup state.cache cacheKey now with ⟨hit, cache⟩
      rw [looked] at step expiry
      cases hit with
      | some hit =>
          cases step
          exact ⟨rfl, rfl, by simpa using expiry⟩
      | none =>
          cases step
          exact ⟨long, rfl, by simpa using expiry⟩
  | waiting domain cacheKey first second => contradiction
  | storing domain cacheKey first second replyBuf =>
      obtain ⟨rfl, rfl⟩ := sound
      rw [advance] at step
      split at step
      · cases step
        rfl
      · contradiction
  | stored domain first second replyBuf =>
      cases step
      have none : counted = [] := sound
      rw [none]
      rfl
  | pushing domain first second replyBuf =>
      have one : counted = [.resolved] := sound
      rw [advance] at step
      split at step
      · cases step
        exact ⟨.resolved, by rw [one]; rfl, fun _ => rfl⟩
      · contradiction
  | counting counter reply =>
      obtain ⟨some, rfl, rfl⟩ := sound
      cases step
      obtain ⟨reply, rfl⟩ := Option.isSome_iff_exists.mp some
      have same := onlyExpiry_refl now state.cache
      exact ⟨counter, rfl, by simp [same]⟩
  | returning reply => contradiction

theorem metrics_incr {state : RelayState} {metrics : MetricWrapper}
    (enabled : state.metrics = some metrics) (incremented : Counter) :
    ∃ counted, (state.incr incremented.incr).metrics = some counted ∧ ∀ counter,
      Counter.read counted counter =
        Counter.read metrics counter + UInt64.ofNat ([incremented].count counter) := by
  refine ⟨incremented.incr metrics, by rw [RelayState.incr, enabled]; rfl, ?_⟩
  intro counter
  rw [Counter.read_incr, List.count_singleton]
  by_cases same : incremented = counter <;> simp [same]

/-- An operation increments the counters it is said to increment. -/
theorem metrics_advance {now : Nat} {state after : RelayState} {phase later : Phase}
    {metrics : MetricWrapper} (enabled : state.metrics = some metrics)
    (step : advance ucd now state phase = some (later, after)) :
    ∃ counted, after.metrics = some counted ∧ ∀ counter, Counter.read counted counter =
      Counter.read metrics counter + UInt64.ofNat ((counts phase).count counter) := by
  cases phase with
  | looking domain cacheKey first second =>
      rw [advance] at step
      split at step <;> cases step <;> exact ⟨metrics, enabled, fun _ => (UInt64.add_zero _).symm⟩
  | waiting domain cacheKey first second => contradiction
  | storing domain cacheKey first second replyBuf =>
      rw [advance] at step
      split at step
      · cases step
        exact ⟨metrics, enabled, fun _ => (UInt64.add_zero _).symm⟩
      · contradiction
  | stored domain first second replyBuf =>
      cases step
      exact metrics_incr enabled .resolved
  | pushing domain first second replyBuf =>
      rw [advance] at step
      split at step
      · cases step
        exact ⟨metrics, enabled, fun _ => (UInt64.add_zero _).symm⟩
      · contradiction
  | counting incremented reply =>
      cases step
      exact metrics_incr enabled incremented
  | returning reply => contradiction

/-! ## What every run keeps -/

/-- How often the calls have incremented a counter. -/
def System.times (system : System) (counter : Counter) : Nat :=
  total (fun call => call.counted.count counter) system.calls +
    total (fun call => call.counted.count counter) system.returned

/-- Every call has done what its phase says, and the counters say what the calls have done. -/
structure Accounted (system : System) : Prop where
  calls : ∀ call ∈ system.calls, call.Sound
  returned : ∀ call ∈ system.returned, SoundReply call.counted call.changed call.reply
  metrics : ∃ metrics, system.state.metrics = some metrics ∧
    ∀ counter, Counter.read metrics counter = UInt64.ofNat (system.times counter)

theorem accounted_start (cache : ResponseCache) (history : Option (List (Text × List Text)))
    (now : Nat) : Accounted (.start cache history now) where
  calls _ mem := by simp [System.start] at mem
  returned _ mem := by simp [System.start] at mem
  metrics := ⟨{}, rfl, fun counter => by cases counter <;> rfl⟩

theorem Accounted.next {system after : System} {event : Event} (accounted : Accounted system)
    (step : next ucd system event = some after) : Accounted after := by
  obtain ⟨calls, returned, metrics, enabled, read⟩ := accounted
  cases event with
  | query ruleTrie payload =>
      obtain ⟨decision, reached, rfl⟩ := next_query step
      refine ⟨?_, returned, metrics, enabled, ?_⟩
      · exact List.forall_mem_cons.mpr ⟨soundAt_ofVerdict reached, calls⟩
      · intro counter
        rw [read, System.times, System.times, total_cons, List.count_nil, Nat.zero_add]
  | advance place =>
      obtain ⟨call, phase, state, found, advanced, rfl⟩ := next_advance step
      have sound : call.Sound := calls call (List.mem_of_getElem? found)
      obtain ⟨counted, enabled', read'⟩ := metrics_advance enabled advanced
      refine ⟨forall_mem_set calls (soundAt_advance sound advanced), returned, counted, enabled', ?_⟩
      intro counter
      rw [read', read, ← UInt64.ofNat_add]
      congr 1
      simp only [System.times, total_of_getElem? _ found, total_set _ found, List.count_append]
      omega
  | deliver place resolveResult =>
      obtain ⟨call, domain, cacheKey, first, second, found, waits, rfl⟩ := next_deliver step
      have sound : call.Sound := calls call (List.mem_of_getElem? found)
      rw [Call.Sound, waits] at sound
      obtain ⟨long, none, same⟩ := sound
      refine ⟨forall_mem_set calls ?_, returned, metrics, enabled, ?_⟩
      · rw [Call.Sound, none, same]
        exact soundAt_ofResult long resolveResult
      · intro counter
        simp only [read, System.times, total_of_getElem? _ found, total_set _ found]
  | ret place =>
      obtain ⟨call, reply, found, returns, rfl⟩ := next_ret step
      have sound : call.Sound := calls call (List.mem_of_getElem? found)
      rw [Call.Sound, returns] at sound
      refine ⟨forall_mem_eraseIdx calls, List.forall_mem_cons.mpr ⟨sound, returned⟩, metrics, enabled,
        ?_⟩
      intro counter
      rw [read]
      congr 1
      simp only [System.times, total_of_getElem? _ found, total_cons]
      omega
  | abandon place =>
      obtain ⟨call, domain, cacheKey, first, second, found, waits, rfl⟩ := next_abandon step
      have sound : call.Sound := calls call (List.mem_of_getElem? found)
      rw [Call.Sound, waits] at sound
      refine ⟨forall_mem_eraseIdx calls, returned, metrics, enabled, ?_⟩
      intro counter
      simp only [read, System.times, total_of_getElem? _ found, sound.2.1, List.count_nil,
        Nat.zero_add]
  | tick time =>
      cases step
      exact ⟨calls, returned, metrics, enabled, read⟩

variable {cache : ResponseCache} {history : Option (List (Text × List Text))} {now : Nat}

theorem accounted_of_run {trace : List Event} {system : System}
    (ran : run (next ucd) (.start cache history now) trace = some system) : Accounted system :=
  run_invariant (accounted_start cache history now) (fun _ _ _ accounted step => accounted.next step)
    ran

/-! ## The sum of the counters -/

/-- The calls that returned a reply. -/
def System.replies (system : System) : Nat :=
  system.returned.countP fun call => call.reply.isSome

/-- How many counters were incremented by calls that have not returned yet. -/
def System.early (system : System) : Nat :=
  total (fun call => call.counted.length) system.calls

theorem count_counters (counted : List Counter) :
    counted.count .drop + counted.count .redirect + counted.count .cached +
      counted.count .resolved + counted.count .timeout + counted.count .failed = counted.length := by
  induction counted with
  | nil => rfl
  | cons counter counted ih =>
      cases counter <;> simp <;> omega

theorem total_counters {α : Type} (counted : α → List Counter) (slots : List α) :
    total (fun slot => (counted slot).count .drop) slots +
      total (fun slot => (counted slot).count .redirect) slots +
      total (fun slot => (counted slot).count .cached) slots +
      total (fun slot => (counted slot).count .resolved) slots +
      total (fun slot => (counted slot).count .timeout) slots +
      total (fun slot => (counted slot).count .failed) slots =
        total (fun slot => (counted slot).length) slots := by
  simp only [← total_add, count_counters]

/-- A call that returned has counted once if it had a reply. -/
theorem total_returned {returned : List Returned}
    (sound : ∀ call ∈ returned, SoundReply call.counted call.changed call.reply) :
    total (fun call => call.counted.length) returned =
      returned.countP fun call => call.reply.isSome := by
  induction returned with
  | nil => rfl
  | cons call returned ih =>
      rw [List.forall_mem_cons] at sound
      obtain ⟨here, later⟩ := sound
      rw [total_cons, ih later, List.countP_cons]
      cases replied : call.reply with
      | none =>
          rw [replied] at here
          simp [here.1]
      | some reply =>
          rw [replied] at here
          obtain ⟨counter, one, _⟩ := here
          simp [one, Nat.add_comm]

theorem times_sum {system : System} (accounted : Accounted system) :
    system.times .drop + system.times .redirect + system.times .cached + system.times .resolved +
      system.times .timeout + system.times .failed = system.replies + system.early := by
  have inside := total_counters Call.counted system.calls
  have outside := total_counters Returned.counted system.returned
  rw [total_returned accounted.returned] at outside
  simp only [System.times, System.replies, System.early]
  omega

/-- The sum of the counters. -/
def sumOfCounts (metrics : MetricWrapper) : UInt64 :=
  metrics.dropCount + metrics.redirectCount + metrics.cachedCount + metrics.resolvedCount +
    metrics.timeoutCount + metrics.failedCount

theorem sumOfCounts_eq {system : System} (accounted : Accounted system) {metrics : MetricWrapper}
    (read : ∀ counter, Counter.read metrics counter = UInt64.ofNat (system.times counter)) :
    sumOfCounts metrics = UInt64.ofNat (system.replies + system.early) := by
  have drop := read .drop
  have redirect := read .redirect
  have cached := read .cached
  have resolved := read .resolved
  have timeout := read .timeout
  have failed := read .failed
  simp only [Counter.read] at drop redirect cached resolved timeout failed
  rw [sumOfCounts, drop, redirect, cached, resolved, timeout, failed, ← times_sum accounted]
  simp only [UInt64.ofNat_add]

/-- The sum of the counters, as a number. -/
def naturalSum (metrics : MetricWrapper) : Nat :=
  metrics.dropCount.toNat + metrics.redirectCount.toNat + metrics.cachedCount.toNat +
    metrics.resolvedCount.toNat + metrics.timeoutCount.toNat + metrics.failedCount.toNat

/-- It is exact as long as no counter wraps around. -/
theorem naturalSum_eq {system : System} (accounted : Accounted system) {metrics : MetricWrapper}
    (read : ∀ counter, Counter.read metrics counter = UInt64.ofNat (system.times counter))
    (few : system.replies + system.early < 2 ^ 64) :
    naturalSum metrics = system.replies + system.early := by
  have sum := times_sum accounted
  have drop := congrArg UInt64.toNat (read .drop)
  have redirect := congrArg UInt64.toNat (read .redirect)
  have cached := congrArg UInt64.toNat (read .cached)
  have resolved := congrArg UInt64.toNat (read .resolved)
  have timeout := congrArg UInt64.toNat (read .timeout)
  have failed := congrArg UInt64.toNat (read .failed)
  simp only [Counter.read, UInt64.toNat_ofNat'] at drop redirect cached resolved timeout failed
  rw [naturalSum]
  omega

/-! ## What changes the cache -/

theorem onlyExpiry_next {system after : System} {event : Event}
    (step : next ucd system event = some after) :
    OnlyExpiry system.now system.state.cache after.state.cache ∨
      ∃ place call, event = .advance place ∧ after.calls[place]? = some call ∧
        call.changed = true := by
  cases event with
  | query ruleTrie payload =>
      obtain ⟨_, _, rfl⟩ := next_query step
      exact .inl (onlyExpiry_refl _ _)
  | advance place =>
      obtain ⟨call, phase, state, found, advanced, rfl⟩ := next_advance step
      by_cases expiry : OnlyExpiry system.now system.state.cache state.cache
      · exact .inl expiry
      · refine .inr ⟨place, _, rfl, List.getElem?_set_self (List.getElem?_eq_some_iff.mp found).1, ?_⟩
        simp [expiry]
  | deliver place resolveResult =>
      obtain ⟨_, _, _, _, _, _, _, rfl⟩ := next_deliver step
      exact .inl (onlyExpiry_refl _ _)
  | ret place =>
      obtain ⟨_, _, _, _, rfl⟩ := next_ret step
      exact .inl (onlyExpiry_refl _ _)
  | abandon place =>
      obtain ⟨_, _, _, _, _, _, _, rfl⟩ := next_abandon step
      exact .inl (onlyExpiry_refl _ _)
  | tick time =>
      cases step
      exact .inl (onlyExpiry_refl _ _)

/-- A call in progress that has changed the cache is counted as resolved, or will be next. -/
theorem Call.Sound.of_changed {call : Call} (sound : call.Sound) (changed : call.changed = true) :
    call.counted = [.resolved] ∨
      ∃ domain first second replyBuf, call.phase = .stored domain first second replyBuf := by
  rw [Call.Sound, changed] at sound
  cases here : call.phase with
  | looking _ _ _ _ => simp [here, SoundAt] at sound
  | waiting _ _ _ _ => simp [here, SoundAt] at sound
  | storing _ _ _ _ _ => simp [here, SoundAt] at sound
  | stored domain first second replyBuf => exact .inr ⟨domain, first, second, replyBuf, rfl⟩
  | pushing _ _ _ _ =>
      rw [here] at sound
      exact .inl sound
  | counting _ _ => simp [here, SoundAt] at sound
  | returning reply =>
      rw [here] at sound
      cases reply with
      | none => exact absurd sound.2 (by decide)
      | some reply =>
          obtain ⟨counter, one, only⟩ := sound
          rw [one, only rfl]
          exact .inl rfl

/-! ## A call that is not interrupted -/

/-- A call at this phase, in front of all others, can run to its end without a step of another
call. -/
def RunsTo (ucd : UnicodeData) (payload : Bytes) (now : Nat) (state : RelayState) (phase : Phase)
    (reply : Option Bytes) (final : RelayState) : Prop :=
  ∀ counted changed calls returned, ∃ trace later call,
    run (next ucd) ⟨state, now, ⟨payload, phase, counted, changed⟩ :: calls, returned⟩ trace =
      some ⟨final, later, calls, call :: returned⟩ ∧ call.reply = reply

section

variable {payload : Bytes} {state middle final : RelayState} {phase following : Phase}
  {reply : Option Bytes}

theorem runsTo_returning : RunsTo ucd payload now state (.returning reply) reply state :=
  fun _ _ _ _ => ⟨[.ret 0], now, _, rfl, rfl⟩

theorem RunsTo.advance (step : advance ucd now state phase = some (following, middle))
    (rest : RunsTo ucd payload now middle following reply final) :
    RunsTo ucd payload now state phase reply final := by
  intro counted changed calls returned
  obtain ⟨trace, later, call, ran, replied⟩ := rest (counted ++ counts phase)
    (changed || !decide (OnlyExpiry now state.cache middle.cache)) calls returned
  refine ⟨.advance 0 :: trace, later, call, ?_, replied⟩
  rw [run_cons_eq_some_iff]
  refine ⟨_, ?_, ran⟩
  simp [next, step]

/-- The upstream call ends some time later. -/
theorem RunsTo.deliver {domain : Text} {cacheKey : CacheKey} {first second : UInt8}
    {resolveResult : Except Error Bytes} (wait : Nat)
    (rest : RunsTo ucd payload (now + wait) state
      (.ofResult payload domain cacheKey first second resolveResult) reply final) :
    RunsTo ucd payload now state (.waiting domain cacheKey first second) reply final := by
  intro counted changed calls returned
  obtain ⟨trace, later, call, ran, replied⟩ := rest counted changed calls returned
  exact ⟨.tick wait :: .deliver 0 resolveResult :: trace, later, call, ran, replied⟩

theorem advance_hit {domain : Text} {cacheKey : CacheKey} {first second : UInt8} {hit : Bytes}
    {cache : ResponseCache} (looked : cacheLookup state.cache cacheKey now = (some hit, cache)) :
    advance ucd now state (.looking domain cacheKey first second) =
      some (.counting .cached (some (withTxid hit first second)), { state with cache }) := by
  rw [Accounting.advance, looked]

theorem advance_miss {domain : Text} {cacheKey : CacheKey} {first second : UInt8}
    {cache : ResponseCache} (looked : cacheLookup state.cache cacheKey now = (none, cache)) :
    advance ucd now state (.looking domain cacheKey first second) =
      some (.waiting domain cacheKey first second, { state with cache }) := by
  rw [Accounting.advance, looked]

theorem runsTo_counting (counter : Counter) (replied : state.incr counter.incr = final) :
    RunsTo ucd payload now state (.counting counter reply) reply final := by
  subst replied
  exact .advance rfl runsTo_returning

/-- From the outcome of the upstream call on, a call does what `finishResolve` does. -/
theorem runsTo_of_finishResolve {domain : Text} {cacheKey : CacheKey} {first second : UInt8}
    {resolveResult : Except Error Bytes} (firstFound : payload[0]? = some first)
    (secondFound : payload[1]? = some second)
    (finished : finishResolve ucd payload domain cacheKey resolveResult now state =
      .ok (reply, final)) :
    RunsTo ucd payload now state (.ofResult payload domain cacheKey first second resolveResult) reply
      final := by
  cases resolveResult with
  | error error =>
      cases error <;> cases finished <;> exact runsTo_counting _ rfl
  | ok replyBuf =>
      simp only [finishResolve, index_eq_ok firstFound, index_eq_ok secondFound, bind_eq_ok,
        Except.ok.injEq, exists_eq_left'] at finished
      obtain ⟨cache, stored, history, pushed, same⟩ := finished
      cases same
      have store : Accounting.advance ucd now state
          (.storing domain cacheKey first second replyBuf) =
            some (.stored domain first second replyBuf, { state with cache }) := by
        rw [Accounting.advance, stored]
      have push : Accounting.advance ucd now
          ({ state with cache }.incr Counter.resolved.incr)
          (.pushing domain first second replyBuf) =
            some (.returning (some (withTxid replyBuf first second)),
              { { state with cache }.incr Counter.resolved.incr with history }) := by
        rw [Accounting.advance]
        simp only [RelayState.incr, pushed]
      exact .advance store (.advance rfl (.advance push runsTo_returning))

end

/-- A call that nothing interrupts does what `resolveQuery` does. -/
theorem exists_run_of_resolveQuery {ruleTrie : DomainTrie} {payload : Bytes}
    {resolveResult : Except Error Bytes} {wait : Nat} {reply : Option Bytes} {final : RelayState}
    (system : System)
    (resolved : resolveQuery ucd ruleTrie payload resolveResult system.now (system.now + wait)
      system.state = .ok (reply, final)) :
    ∃ trace later call, run (next ucd) system trace =
      some ⟨final, later, system.calls, call :: system.returned⟩ ∧ call.reply = reply := by
  obtain ⟨⟨begun, middle⟩, began, rest⟩ := bind_eq_ok.mp resolved
  obtain ⟨decision, reached, received⟩ := beginResolve_eq_ok began
  have runs : RunsTo ucd payload system.now system.state (.ofVerdict decision) reply final := by
    cases decides_of_verdict reached with
    | refused =>
        cases received
        cases rest
        exact runsTo_returning
    | dropped _ _ _ =>
        cases received
        cases rest
        exact runsTo_counting _ rfl
    | redirected _ _ _ =>
        cases received
        cases rest
        exact runsTo_counting _ rfl
    | ask long parsed rules key firstFound secondFound =>
        rename_i cacheKey first second
        rw [receive] at received
        rcases looked : cacheLookup system.state.cache cacheKey system.now with ⟨hit, cache⟩
        rw [looked] at received
        cases hit with
        | some hit =>
            cases received
            cases rest
            exact .advance (advance_hit looked) (runsTo_counting .cached rfl)
        | none =>
            cases received
            exact .advance (advance_miss looked)
              (.deliver wait (runsTo_of_finishResolve firstFound secondFound rest))
  obtain ⟨trace, later, call, ran, replied⟩ := runs [] false system.calls system.returned
  refine ⟨.query ruleTrie payload :: trace, later, call, ?_, replied⟩
  rw [run_cons_eq_some_iff]
  refine ⟨_, ?_, ran⟩
  simp [next, reached]

/-! ## Every run -/

/-- In every run the counters say how often the calls incremented them.  A call that returned a
reply has incremented one of them, once, and one that returned none has not; so the counters add up
to the replies and the calls that have counted and are about to return.  What changes the entries
of the cache other than by expiry is an operation of a call that is, or will be next, counted as
resolved. -/
theorem calls_accounted {trace : List Event} {system : System}
    (ran : run (next ucd) (.start cache history now) trace = some system) :
    (∀ call ∈ system.returned,
      (call.reply.isSome → ∃ counter, call.counted = [counter]) ∧
      (call.reply = none → call.counted = []) ∧
      (call.changed = true → call.counted = [.resolved])) ∧
    (∃ metrics, system.state.metrics = some metrics ∧
      (∀ counter, Counter.read metrics counter = UInt64.ofNat (system.times counter)) ∧
      sumOfCounts metrics = UInt64.ofNat (system.replies + system.early) ∧
      (system.replies + system.early < 2 ^ 64 →
        naturalSum metrics = system.replies + system.early)) ∧
    (∀ call ∈ system.calls, call.changed = true → call.counted = [.resolved] ∨
      ∃ domain first second replyBuf, call.phase = .stored domain first second replyBuf) ∧
    (∀ event after, next ucd system event = some after →
      OnlyExpiry system.now system.state.cache after.state.cache ∨
        ∃ place call, event = .advance place ∧ after.calls[place]? = some call ∧
          call.changed = true) := by
  have accounted := accounted_of_run ran
  refine ⟨?_, ?_, fun call mem => (accounted.calls call mem).of_changed,
    fun _ _ step => onlyExpiry_next step⟩
  · intro call mem
    have sound := accounted.returned call mem
    cases replied : call.reply with
    | none =>
        rw [replied] at sound
        refine ⟨fun some => by contradiction, fun _ => sound.1, fun changed => ?_⟩
        rw [sound.2] at changed
        contradiction
    | some reply =>
        rw [replied] at sound
        obtain ⟨counter, one, only⟩ := sound
        refine ⟨fun _ => ⟨counter, one⟩, fun none => by contradiction, fun changed => ?_⟩
        rw [one, only changed]
  · obtain ⟨metrics, enabled, read⟩ := accounted.metrics
    exact ⟨metrics, enabled, read, sumOfCounts_eq accounted read, naturalSum_eq accounted read⟩

/-- Two queries for `a`.  Both find nothing in the cache; the first has a reply, the second a
timeout, and the second returns between the store of the first and its count. -/
def interleaved : List Event :=
  [.query Trie.empty (bareQuery [labelA] 1).encode, .query Trie.empty (bareQuery [labelA] 1).encode,
    .advance 0, .advance 1, .deliver 0 (.ok (bareQuery [labelA] 1).encode),
    .deliver 1 (.error .resolveTimeout), .advance 0, .advance 1, .ret 1, .advance 0, .advance 0, .ret 0]

theorem calls_accounted_interleaved :
    ∃ system metrics, run (next .ascii) (.start newCache none 0) interleaved = some system ∧
      system.state.metrics = some metrics ∧ system.replies = 2 ∧ naturalSum metrics = 2 := by
  have outcome : (run (next .ascii) (.start newCache none 0) interleaved).map
      (fun system => (system.replies, system.early)) = some (2, 0) := by
    decide +kernel
  obtain ⟨system, ran, same⟩ := Option.map_eq_some_iff.mp outcome
  obtain ⟨replies, early⟩ := Prod.mk.inj same
  obtain ⟨_, ⟨metrics, enabled, _, _, sum⟩, _⟩ := calls_accounted ran
  rw [replies, early] at sum
  exact ⟨system, metrics, ran, enabled, replies, sum (by decide)⟩

end DnsHijacker.DnsRelay.Accounting
