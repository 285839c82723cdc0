import DnsHijacker.DnsRelay.Accounting
import DnsHijacker.Shared.MetricReport

/-!
# Reports of the counters

`prepare_report` loads one atomic counter after the other, while datagrams are received and queries
are answered.  The log task calls it again and again; a connection to the metrics endpoint calls it
once.

What is known of the moments at which a report begins and ends is there for the statements only.
-/

namespace DnsHijacker.DnsRelay.Reporting

open DnsHijacker.Rust
open DnsHijacker.Library
open DnsHijacker.Shared
open DnsHijacker.DnsRelay.Accounting (Counter System SoundAt)

/-! ## The system -/

/-- The counters of `MetricWrapper`. -/
inductive Field where
  | totalReq
  | count (counter : Counter)
  | relayResolved
  deriving DecidableEq

/-- The order in which `prepare_report` loads them. -/
def Field.all : List Field :=
  [.totalReq, .count .resolved, .count .failed, .count .timeout, .count .redirect, .count .drop,
    .count .cached, .relayResolved]

theorem Field.mem_all (field : Field) : field ∈ all := by
  cases field with
  | totalReq => decide
  | count counter => cases counter <;> decide
  | relayResolved => decide

/-- A field of a report. -/
def valueOf (report : MetricReport) : Field → UInt64
  | .totalReq => report.totalReq
  | .count .resolved => report.resolvedCount
  | .count .failed => report.failedCount
  | .count .timeout => report.timeoutCount
  | .count .redirect => report.redirectCount
  | .count .drop => report.dropCount
  | .count .cached => report.cachedCount
  | .relayResolved => report.relayResolvedCount

/-- The report with one more field filled in. -/
def setField (report : MetricReport) (value : UInt64) : Field → MetricReport
  | .totalReq => { report with totalReq := value }
  | .count .resolved => { report with resolvedCount := value }
  | .count .failed => { report with failedCount := value }
  | .count .timeout => { report with timeoutCount := value }
  | .count .redirect => { report with redirectCount := value }
  | .count .drop => { report with dropCount := value }
  | .count .cached => { report with cachedCount := value }
  | .relayResolved => { report with relayResolvedCount := value }

theorem valueOf_setField (report : MetricReport) (value : UInt64) (field other : Field) :
    valueOf (setField report value field) other =
      if other = field then value else valueOf report other := by
  rcases field with _ | counter | _ <;> rcases other with _ | second | _ <;>
    first
    | rfl
    | cases counter <;> first | rfl | (cases second <;> rfl)
    | cases second <;> rfl

/-- A report before the first load. -/
def blank : MetricReport :=
  ⟨0, 0, 0, 0, 0, 0, 0, 0⟩

/-- What has been received, counted and answered up to a moment. -/
structure Moment where
  received : Nat
  times : Counter → Nat
  replies : Nat

/-- A call of `prepare_report`: the counters it has yet to load, and what it has loaded. -/
structure Progress where
  begun : Moment
  rest : List Field
  report : MetricReport

/-- A report that was prepared. -/
structure Prepared where
  begun : Moment
  ended : Moment
  report : MetricReport

/-- The log task or a connection, with its reports in their order. -/
structure Reporter where
  current : Option Progress
  prepared : List Prepared

structure State where
  system : System
  /-- `total_req` -/
  totalReq : UInt64
  relayResolvedCount : UInt64
  received : Nat
  /-- The calls of `resolve_query` that have begun. -/
  dispatched : Nat
  reporters : List Reporter

def State.start (cache : ResponseCache) (history : Option (List (Text × List Text))) (now : Nat) :
    State where
  system := .start cache history now
  totalReq := 0
  relayResolvedCount := 0
  received := 0
  dispatched := 0
  reporters := []

def State.moment (state : State) : Moment where
  received := state.received
  times := state.system.times
  replies := state.system.replies

/-- The value of a counter. -/
def State.load (state : State) : Field → UInt64
  | .totalReq => state.totalReq
  | .count counter => (state.system.state.metrics.map (Counter.read · counter)).getD 0
  | .relayResolved => state.relayResolvedCount

/-- A batch is received and counted; a call of `resolve_query` begins or goes on; a reporter comes,
begins a report, or loads the next counter. -/
inductive Event where
  | receive (count : Nat)
  | call (event : Accounting.Event)
  | come
  | begin (place : Nat)
  | load (place : Nat)

/-- A report goes on. -/
def Progress.advance (progress : Progress) (state : State) (prepared : List Prepared) :
    Option Reporter :=
  match progress.rest with
  | [] => none
  | [field] =>
      some ⟨none, prepared ++
        [⟨progress.begun, state.moment, setField progress.report (state.load field) field⟩]⟩
  | field :: rest =>
      some ⟨some { progress with
        rest, report := setField progress.report (state.load field) field }, prepared⟩

variable (ucd : UnicodeData)

/-- One event.  A call begins for a datagram whose batch was counted. -/
def next (state : State) : Event → Option State
  | .receive count =>
      some { state with
        totalReq := state.totalReq + UInt64.ofNat count
        received := state.received + count }
  | .call event =>
      match Accounting.next ucd state.system event with
      | none => none
      | some system =>
          match event with
          | .query _ _ =>
              if state.dispatched < state.received then
                some { state with system, dispatched := state.dispatched + 1 }
              else none
          | _ => some { state with system }
  | .come => some { state with reporters := state.reporters ++ [⟨none, []⟩] }
  | .begin place =>
      match state.reporters[place]? with
      | some ⟨none, prepared⟩ =>
          some { state with
            reporters := state.reporters.set place
              ⟨some ⟨state.moment, Field.all, blank⟩, prepared⟩ }
      | _ => none
  | .load place =>
      match state.reporters[place]? with
      | some ⟨some progress, prepared⟩ =>
          (progress.advance state prepared).map fun reporter =>
            { state with reporters := state.reporters.set place reporter }
      | _ => none

/-- `start_log_reporting`: the reports of the log task that it writes down. -/
def logLines (lastTotalCount : UInt64) : List MetricReport → List MetricReport
  | [] => []
  | report :: reports =>
      if report.totalReq = lastTotalCount then logLines lastTotalCount reports
      else report :: logLines report.totalReq reports

/-! ## Moments -/

def Moment.value (moment : Moment) : Field → Nat
  | .totalReq => moment.received
  | .count counter => moment.times counter
  | .relayResolved => 0

/-- What has been counted in all. -/
def Moment.counted (moment : Moment) : Nat :=
  moment.times .drop + moment.times .redirect + moment.times .cached + moment.times .resolved +
    moment.times .timeout + moment.times .failed

/-- Every reply is counted, and nothing is counted that was not received. -/
structure Moment.Sound (moment : Moment) : Prop where
  replies : moment.replies ≤ moment.counted
  received : moment.counted ≤ moment.received

/-- No counter was greater at the first moment. -/
def Moment.Before (first second : Moment) : Prop :=
  ∀ field, first.value field ≤ second.value field

theorem Moment.Before.refl (moment : Moment) : moment.Before moment :=
  fun _ => Nat.le_refl _

theorem Moment.Before.trans {first second third : Moment} (before : first.Before second)
    (after : second.Before third) : first.Before third :=
  fun field => (before field).trans (after field)

theorem Moment.Before.counted {first second : Moment} (before : first.Before second) :
    first.counted ≤ second.counted := by
  have drop := before (.count .drop)
  have redirect := before (.count .redirect)
  have cached := before (.count .cached)
  have resolved := before (.count .resolved)
  have timeout := before (.count .timeout)
  have failed := before (.count .failed)
  simp only [Moment.value] at drop redirect cached resolved timeout failed
  rw [Moment.counted, Moment.counted]
  omega

/-- No counter exceeds what was received. -/
theorem Moment.Sound.value_le {moment : Moment} (sound : moment.Sound) (field : Field) :
    moment.value field ≤ moment.received := by
  have received := sound.received
  rw [Moment.counted] at received
  cases field with
  | totalReq => exact Nat.le_refl _
  | relayResolved => exact Nat.zero_le _
  | count counter =>
      rw [Moment.value]
      cases counter <;> omega

/-- The value is at least what the counter was at the first moment and at most what it was at the
second. -/
def InRange (low high : Moment) (field : Field) (value : UInt64) : Prop :=
  ∃ n, low.value field ≤ n ∧ n ≤ high.value field ∧ value = UInt64.ofNat n

theorem InRange.mono {low high later : Moment} {field : Field} {value : UInt64}
    (inRange : InRange low high field value) (before : high.Before later) :
    InRange low later field value := by
  obtain ⟨n, least, most, same⟩ := inRange
  exact ⟨n, least, most.trans (before field), same⟩

/-! ## What is known of a reporter -/

/-- A report in progress: what has been loaded is in range. -/
structure Progress.Sound (now : Moment) (progress : Progress) : Prop where
  begun : progress.begun.Sound
  before : progress.begun.Before now
  loaded : ∀ field, field ∉ progress.rest →
    InRange progress.begun now field (valueOf progress.report field)

structure Prepared.Sound (now : Moment) (prepared : Prepared) : Prop where
  begun : prepared.begun.Sound
  ended : prepared.ended.Sound
  past : prepared.ended.Before now
  loaded : ∀ field, InRange prepared.begun prepared.ended field (valueOf prepared.report field)

/-- The second report was begun when the first one was prepared. -/
def Prepared.Earlier (first second : Prepared) : Prop :=
  first.ended.Before second.begun

structure Reporter.Sound (now : Moment) (reporter : Reporter) : Prop where
  current : ∀ progress, reporter.current = some progress → progress.Sound now ∧
    ∀ prepared ∈ reporter.prepared, prepared.ended.Before progress.begun
  prepared : ∀ prepared ∈ reporter.prepared, prepared.Sound now
  inOrder : reporter.prepared.Pairwise Prepared.Earlier

theorem Reporter.Sound.mono {now later : Moment} {reporter : Reporter} (sound : reporter.Sound now)
    (before : now.Before later) : reporter.Sound later := by
  refine ⟨fun progress current => ?_, fun prepared mem => ?_, sound.inOrder⟩
  · obtain ⟨⟨begun, earlier, loaded⟩, past⟩ := sound.current progress current
    exact ⟨⟨begun, earlier.trans before, fun field done => (loaded field done).mono before⟩, past⟩
  · obtain ⟨begun, ended, past, loaded⟩ := sound.prepared prepared mem
    exact ⟨begun, ended, past.trans before, loaded⟩

theorem sound_come (now : Moment) : Reporter.Sound now ⟨none, []⟩ where
  current _ impossible := by cases impossible
  prepared _ mem := absurd mem List.not_mem_nil
  inOrder := .nil

theorem Reporter.Sound.begin {now : Moment} {prepared : List Prepared}
    (sound : Reporter.Sound now ⟨none, prepared⟩) (here : now.Sound) :
    Reporter.Sound now ⟨some ⟨now, Field.all, blank⟩, prepared⟩ where
  current progress current := by
    cases current
    refine ⟨⟨here, .refl now, fun field missing => absurd field.mem_all missing⟩, ?_⟩
    exact fun done mem => (sound.prepared done mem).past
  prepared := sound.prepared
  inOrder := sound.inOrder

/-- A counter is what has been counted. -/
def State.Counts (state : State) : Prop :=
  ∀ field, state.load field = UInt64.ofNat (state.moment.value field)

/-- The next counter of a report is loaded. -/
theorem loaded_setField {state : State} (counts : state.Counts) {progress : Progress}
    (sound : progress.Sound state.moment) {field other : Field}
    (known : other = field ∨ other ∉ progress.rest) :
    InRange progress.begun state.moment other
      (valueOf (setField progress.report (state.load field) field) other) := by
  rw [valueOf_setField]
  split
  · rename_i same
    rw [← same]
    exact ⟨_, sound.before other, Nat.le_refl _, counts other⟩
  · rename_i different
    exact sound.loaded other (known.resolve_left different)

theorem Reporter.Sound.advance {state : State} (counts : state.Counts) (here : state.moment.Sound)
    {progress : Progress} {prepared : List Prepared} {after : Reporter}
    (sound : Reporter.Sound state.moment ⟨some progress, prepared⟩)
    (advanced : progress.advance state prepared = some after) : after.Sound state.moment := by
  obtain ⟨current, past⟩ := sound.current progress rfl
  rw [Progress.advance] at advanced
  split at advanced
  · contradiction
  · rename_i field last
    cases advanced
    refine ⟨fun _ impossible => ?_, fun done mem => ?_, ?_⟩
    · cases impossible
    · rcases List.mem_append.mp mem with old | new
      · exact sound.prepared done old
      · cases List.mem_singleton.mp new
        refine ⟨current.begun, here, .refl _, fun other => loaded_setField counts current ?_⟩
        rw [last, List.mem_singleton]
        exact em _
    · rw [List.pairwise_append]
      refine ⟨sound.inOrder, List.pairwise_singleton _ _, fun first mem second new => ?_⟩
      cases List.mem_singleton.mp new
      exact past first mem
  · rename_i field rest more remaining
    cases advanced
    refine ⟨fun later same => ?_, sound.prepared, sound.inOrder⟩
    cases same
    refine ⟨⟨current.begun, current.before, fun other done => ?_⟩, past⟩
    apply loaded_setField counts current
    rw [remaining, List.mem_cons, not_or]
    exact (em (other = field)).imp_right fun different => ⟨different, done⟩

/-! ## What the calls do to the counters -/

variable {ucd}

theorem times_le_of_next {system after : System} {event : Accounting.Event}
    (accounted : Accounting.Accounted system) (step : Accounting.next ucd system event = some after)
    (counter : Counter) : system.times counter ≤ after.times counter := by
  cases event with
  | query ruleTrie payload =>
      obtain ⟨decision, _, rfl⟩ := Accounting.next_query step
      rw [System.times, System.times, total_cons, List.count_nil, Nat.zero_add]
  | advance place =>
      obtain ⟨call, phase, state, found, _, rfl⟩ := Accounting.next_advance step
      simp only [System.times, total_of_getElem? _ found, total_set _ found, List.count_append]
      omega
  | deliver place resolveResult =>
      obtain ⟨call, _, _, _, _, found, _, rfl⟩ := Accounting.next_deliver step
      simp only [System.times, total_of_getElem? _ found, total_set _ found]
      exact Nat.le_refl _
  | ret place =>
      obtain ⟨call, reply, found, _, rfl⟩ := Accounting.next_ret step
      simp only [System.times, total_of_getElem? _ found, total_cons]
      omega
  | abandon place =>
      obtain ⟨call, _, _, _, _, found, waits, rfl⟩ := Accounting.next_abandon step
      have sound := accounted.calls call (List.mem_of_getElem? found)
      rw [Accounting.Call.Sound, waits] at sound
      simp only [System.times, total_of_getElem? _ found, sound.2.1, List.count_nil, Nat.zero_add]
      exact Nat.le_refl _
  | tick time =>
      cases step
      exact Nat.le_refl _

/-- The calls that have begun and were not given up. -/
def lasting (system : System) : Nat :=
  system.calls.length + system.returned.length

theorem lasting_query {system after : System} {ruleTrie : DomainTrie} {payload : Bytes}
    (step : Accounting.next ucd system (.query ruleTrie payload) = some after) :
    lasting after = lasting system + 1 := by
  obtain ⟨decision, _, rfl⟩ := Accounting.next_query step
  simp only [lasting, List.length_cons]
  omega

theorem lasting_le_of_next {system after : System} {event : Accounting.Event}
    (later : ∀ ruleTrie payload, event ≠ .query ruleTrie payload)
    (step : Accounting.next ucd system event = some after) : lasting after ≤ lasting system := by
  cases event with
  | query ruleTrie payload => exact absurd rfl (later ruleTrie payload)
  | advance place =>
      obtain ⟨call, phase, state, found, _, rfl⟩ := Accounting.next_advance step
      rw [lasting, lasting, List.length_set]
  | deliver place resolveResult =>
      obtain ⟨call, _, _, _, _, found, _, rfl⟩ := Accounting.next_deliver step
      rw [lasting, lasting, List.length_set]
  | ret place =>
      obtain ⟨call, reply, found, _, rfl⟩ := Accounting.next_ret step
      have inside := (List.getElem?_eq_some_iff.mp found).1
      rw [lasting, lasting, List.length_eraseIdx_of_lt inside, List.length_cons]
      omega
  | abandon place =>
      obtain ⟨call, _, _, _, _, found, _, rfl⟩ := Accounting.next_abandon step
      have fewer := List.length_eraseIdx_le system.calls place
      simp only [lasting]
      omega
  | tick time =>
      cases step
      exact Nat.le_refl _

/-- A call counts once at most. -/
theorem length_counted_le {payload : Bytes} {counted : List Counter} {changed : Bool}
    {phase : Accounting.Phase} (sound : SoundAt payload counted changed phase) :
    counted.length ≤ 1 := by
  cases phase with
  | looking _ _ _ _ => exact sound.2.1 ▸ Nat.zero_le 1
  | waiting _ _ _ _ => exact sound.2.1 ▸ Nat.zero_le 1
  | storing _ _ _ _ _ => exact sound.1 ▸ Nat.zero_le 1
  | stored _ _ _ _ =>
      have none : counted = [] := sound
      exact none ▸ Nat.zero_le 1
  | pushing _ _ _ _ =>
      have one : counted = [.resolved] := sound
      exact one ▸ Nat.le_refl 1
  | counting _ _ => exact sound.2.1 ▸ Nat.zero_le 1
  | returning reply =>
      cases reply with
      | none =>
          have none : counted = [] := sound.1
          exact none ▸ Nat.zero_le 1
      | some reply =>
          obtain ⟨counter, rfl, _⟩ := sound
          exact Nat.le_refl 1

theorem early_le {system : System} (accounted : Accounting.Accounted system) :
    system.early ≤ system.calls.length :=
  total_le_length fun call mem => length_counted_le (accounted.calls call mem)

/-! ## Every run -/

structure State.Sound (state : State) : Prop where
  accounted : Accounting.Accounted state.system
  totalReq : state.totalReq = UInt64.ofNat state.received
  relayResolved : state.relayResolvedCount = 0
  calls : lasting state.system ≤ state.dispatched
  dispatched : state.dispatched ≤ state.received
  reporters : ∀ reporter ∈ state.reporters, reporter.Sound state.moment

theorem State.Sound.counts {state : State} (sound : state.Sound) : state.Counts := by
  intro field
  cases field with
  | totalReq => exact sound.totalReq
  | relayResolved => exact sound.relayResolved
  | count counter =>
      obtain ⟨metrics, enabled, read⟩ := sound.accounted.metrics
      rw [State.load, enabled]
      exact read counter

theorem State.Sound.moment {state : State} (sound : state.Sound) : state.moment.Sound := by
  have sum := Accounting.times_sum sound.accounted
  have early := early_le sound.accounted
  have replies : state.system.replies ≤ state.system.returned.length := List.countP_le_length
  have calls := sound.calls
  have dispatched := sound.dispatched
  rw [lasting] at calls
  constructor
  · simp only [State.moment, Moment.counted]
    omega
  · simp only [State.moment, Moment.counted]
    omega

theorem sound_start (cache : ResponseCache) (history : Option (List (Text × List Text))) (now : Nat) :
    (State.start cache history now).Sound where
  accounted := Accounting.accounted_start cache history now
  totalReq := rfl
  relayResolved := rfl
  calls := Nat.le_refl 0
  dispatched := Nat.le_refl 0
  reporters _ mem := absurd mem List.not_mem_nil

/-- The reporters after an event that only others take part in. -/
theorem State.Sound.others {state after : State} (sound : state.Sound)
    (same : after.reporters = state.reporters) (before : state.moment.Before after.moment) :
    ∀ reporter ∈ after.reporters, reporter.Sound after.moment := by
  rw [same]
  exact fun reporter mem => (sound.reporters reporter mem).mono before

theorem before_of_next {state : State} (sound : state.Sound) {system : System}
    {event : Accounting.Event} (step : Accounting.next ucd state.system event = some system) :
    ∀ field, state.moment.value field ≤ ({ state with system } : State).moment.value field := by
  intro field
  cases field with
  | totalReq => exact Nat.le_refl _
  | relayResolved => exact Nat.le_refl _
  | count counter => exact times_le_of_next sound.accounted step counter

theorem State.Sound.withReporters {state : State} (sound : state.Sound) {reporters : List Reporter}
    (each : ∀ reporter ∈ reporters, reporter.Sound state.moment) :
    ({ state with reporters } : State).Sound :=
  { sound with reporters := each }

theorem State.Sound.receive {state after : State} (sound : state.Sound) {count : Nat}
    (step : Reporting.next ucd state (.receive count) = some after) : after.Sound := by
  cases step
  have before : state.moment.Before { state.moment with received := state.received + count } := by
    intro field
    cases field with
    | totalReq => exact Nat.le_add_right _ _
    | relayResolved => exact Nat.le_refl _
    | count counter => exact Nat.le_refl _
  refine ⟨sound.accounted, ?_, sound.relayResolved, sound.calls, ?_, sound.others rfl before⟩
  · rw [sound.totalReq, UInt64.ofNat_add]
  · exact sound.dispatched.trans (Nat.le_add_right _ _)

/-- A call of `resolve_query` begins for a message that a listener has received. -/
theorem State.Sound.query {state : State} (sound : state.Sound) {system : System}
    {ruleTrie : DomainTrie} {payload : Bytes} (waiting : state.dispatched < state.received)
    (here : Accounting.next ucd state.system (.query ruleTrie payload) = some system) :
    ({ state with system, dispatched := state.dispatched + 1 } : State).Sound := by
  have calls : lasting system ≤ state.dispatched + 1 := by
    rw [lasting_query here]
    exact Nat.succ_le_succ sound.calls
  exact ⟨sound.accounted.next here, sound.totalReq, sound.relayResolved, calls, waiting,
    sound.others rfl (before_of_next sound here)⟩

theorem State.Sound.later {state : State} (sound : state.Sound) {system : System}
    {event : Accounting.Event} (later : ∀ ruleTrie payload, event ≠ .query ruleTrie payload)
    (here : Accounting.next ucd state.system event = some system) :
    ({ state with system } : State).Sound :=
  ⟨sound.accounted.next here, sound.totalReq, sound.relayResolved,
    (lasting_le_of_next later here).trans sound.calls, sound.dispatched,
    sound.others rfl (before_of_next sound here)⟩

theorem State.Sound.next {state after : State} {event : Event} (sound : state.Sound)
    (step : next ucd state event = some after) : after.Sound := by
  cases event with
  | receive count => exact sound.receive step
  | call event =>
      rw [Reporting.next] at step
      split at step
      · contradiction
      · rename_i system here
        split at step
        · split at step
          · rename_i waiting
            cases step
            exact sound.query waiting here
          · contradiction
        · rename_i later
          cases step
          exact sound.later later here
  | come =>
      cases step
      apply sound.withReporters
      intro reporter mem
      rcases List.mem_append.mp mem with old | new
      · exact sound.reporters reporter old
      · cases List.mem_singleton.mp new
        exact sound_come _
  | begin place =>
      rw [Reporting.next] at step
      split at step
      · rename_i prepared found
        cases step
        have idle := sound.reporters _ (List.mem_of_getElem? found)
        exact sound.withReporters (forall_mem_set sound.reporters (idle.begin sound.moment))
      · contradiction
  | load place =>
      rw [Reporting.next] at step
      split at step
      · rename_i progress prepared found
        obtain ⟨reporter, advanced, rfl⟩ := Option.map_eq_some_iff.mp step
        have busy := sound.reporters _ (List.mem_of_getElem? found)
        have advances := busy.advance sound.counts sound.moment advanced
        exact sound.withReporters (forall_mem_set sound.reporters advances)
      · contradiction

theorem sound_of_run {cache : ResponseCache} {history : Option (List (Text × List Text))} {now : Nat}
    {trace : List Event} {state : State}
    (ran : run (next ucd) (.start cache history now) trace = some state) : state.Sound :=
  run_invariant (sound_start cache history now) (fun _ _ _ sound step => sound.next step) ran

/-! ## What the reports say -/

/-- The sum of the counts in a report. -/
def reported (report : MetricReport) : Nat :=
  report.dropCount.toNat + report.redirectCount.toNat + report.cachedCount.toNat +
    report.resolvedCount.toNat + report.timeoutCount.toNat + report.failedCount.toNat

/-- Each number is between those of the moments at which the report was begun and prepared.
Together they count every query that had been answered before, and nothing that was not received. -/
structure Prepared.Faithful (prepared : Prepared) : Prop where
  least : ∀ field, prepared.begun.value field ≤ (valueOf prepared.report field).toNat
  most : ∀ field, (valueOf prepared.report field).toNat ≤ prepared.ended.value field
  answered : prepared.begun.replies ≤ reported prepared.report
  received : reported prepared.report ≤ prepared.ended.received

/-- No number of the first report is greater than in the second. -/
def Grows (first second : MetricReport) : Prop :=
  ∀ field, (valueOf first field).toNat ≤ (valueOf second field).toNat

theorem counted_le_reported {moment : Moment} {report : MetricReport}
    (least : ∀ field, moment.value field ≤ (valueOf report field).toNat) :
    moment.counted ≤ reported report := by
  have drop := least (.count .drop)
  have redirect := least (.count .redirect)
  have cached := least (.count .cached)
  have resolved := least (.count .resolved)
  have timeout := least (.count .timeout)
  have failed := least (.count .failed)
  simp only [Moment.value, valueOf] at drop redirect cached resolved timeout failed
  rw [Moment.counted, reported]
  omega

theorem reported_le_counted {moment : Moment} {report : MetricReport}
    (most : ∀ field, (valueOf report field).toNat ≤ moment.value field) :
    reported report ≤ moment.counted := by
  have drop := most (.count .drop)
  have redirect := most (.count .redirect)
  have cached := most (.count .cached)
  have resolved := most (.count .resolved)
  have timeout := most (.count .timeout)
  have failed := most (.count .failed)
  simp only [Moment.value, valueOf] at drop redirect cached resolved timeout failed
  rw [Moment.counted, reported]
  omega

theorem Prepared.Sound.faithful {now : Moment} {prepared : Prepared} (sound : prepared.Sound now)
    (few : now.received < 2 ^ 64) : prepared.Faithful := by
  have exactly (field : Field) : ∃ n, prepared.begun.value field ≤ n ∧ n ≤ prepared.ended.value field ∧
      (valueOf prepared.report field).toNat = n := by
    obtain ⟨n, least, most, same⟩ := sound.loaded field
    have small : n < 2 ^ 64 :=
      calc n ≤ prepared.ended.value field := most
        _ ≤ prepared.ended.received := sound.ended.value_le field
        _ ≤ now.received := sound.past .totalReq
        _ < 2 ^ 64 := few
    refine ⟨n, least, most, ?_⟩
    rw [same, UInt64.toNat_ofNat', Nat.mod_eq_of_lt small]
  have least : ∀ field, prepared.begun.value field ≤ (valueOf prepared.report field).toNat := by
    intro field
    obtain ⟨n, least, _, same⟩ := exactly field
    rwa [same]
  have most : ∀ field, (valueOf prepared.report field).toNat ≤ prepared.ended.value field := by
    intro field
    obtain ⟨n, _, most, same⟩ := exactly field
    rwa [same]
  exact ⟨least, most, sound.begun.replies.trans (counted_le_reported least),
    (reported_le_counted most).trans sound.ended.received⟩

/-! ## The log -/

theorem logLines_sublist (reports : List MetricReport) (lastTotalCount : UInt64) :
    (logLines lastTotalCount reports).Sublist reports := by
  induction reports generalizing lastTotalCount with
  | nil => exact .slnil
  | cons report reports ih =>
      rw [logLines]
      split
      · exact (ih _).cons _
      · exact (ih _).cons_cons _

theorem lt_of_mem_logLines {reports : List MetricReport} {lastTotalCount : UInt64}
    (inOrder : reports.Pairwise fun first second => first.totalReq ≤ second.totalReq)
    (least : ∀ report ∈ reports, lastTotalCount ≤ report.totalReq) :
    ∀ line ∈ logLines lastTotalCount reports, lastTotalCount < line.totalReq := by
  induction reports generalizing lastTotalCount with
  | nil => exact fun _ mem => absurd mem List.not_mem_nil
  | cons report reports ih =>
      rw [List.pairwise_cons] at inOrder
      rw [List.forall_mem_cons] at least
      intro line mem
      rw [logLines] at mem
      split at mem
      · exact ih inOrder.2 least.2 line mem
      · rename_i changed
        have grown : lastTotalCount < report.totalReq :=
          UInt64.lt_of_le_of_ne least.1 (Ne.symm changed)
        rcases List.mem_cons.mp mem with rfl | later
        · exact grown
        · exact UInt64.lt_trans grown (ih inOrder.2 inOrder.1 line later)

/-- Each line of the log has more requests than the one before. -/
theorem pairwise_logLines {reports : List MetricReport} {lastTotalCount : UInt64}
    (inOrder : reports.Pairwise fun first second => first.totalReq ≤ second.totalReq) :
    (logLines lastTotalCount reports).Pairwise
      fun first second => first.totalReq < second.totalReq := by
  induction reports generalizing lastTotalCount with
  | nil => exact .nil
  | cons report reports ih =>
      rw [List.pairwise_cons] at inOrder
      rw [logLines]
      split
      · exact ih inOrder.2
      · exact .cons (lt_of_mem_logLines inOrder.2 inOrder.1) (ih inOrder.2)

/-- No number of requests that was reported is missing in the log. -/
theorem exists_line {reports : List MetricReport} {report : MetricReport} (mem : report ∈ reports)
    (lastTotalCount : UInt64) :
    report.totalReq = lastTotalCount ∨
      ∃ line ∈ logLines lastTotalCount reports, line.totalReq = report.totalReq := by
  induction reports generalizing lastTotalCount with
  | nil => contradiction
  | cons first reports ih =>
      rw [logLines]
      rcases List.mem_cons.mp mem with rfl | later
      · split
        · rename_i same
          exact .inl same
        · exact .inr ⟨report, List.mem_cons_self, rfl⟩
      · split
        · exact ih later lastTotalCount
        · right
          rcases ih later first.totalReq with same | ⟨line, here, same⟩
          · exact ⟨first, List.mem_cons_self, same.symm⟩
          · exact ⟨line, List.mem_cons_of_mem _ here, same⟩

theorem pairwise_grows {now : Moment} {reporter : Reporter} (sound : reporter.Sound now)
    (few : now.received < 2 ^ 64) : (reporter.prepared.map Prepared.report).Pairwise Grows := by
  rw [List.pairwise_map]
  refine sound.inOrder.imp_of_mem fun {first second} firstMem secondMem earlier field => ?_
  have most := ((sound.prepared first firstMem).faithful few).most field
  have least := ((sound.prepared second secondMem).faithful few).least field
  exact most.trans ((earlier field).trans least)

/-- In every run, however the loads of a report are interleaved with the listeners and the calls of
`resolve_query`: each number of a report is at least what its counter was when the report was begun and
at most what it was when the report was prepared.  The counts of a report add up to at least the
queries that had been answered when it was begun and to no more than was received until it was
prepared, though not always to its own number of requests.  No number decreases from one report of a
reporter to the next.  The log has one line for each number of requests that was reported. -/
theorem reports_faithful {cache : ResponseCache} {history : Option (List (Text × List Text))}
    {now : Nat} {trace : List Event} {state : State}
    (ran : run (next ucd) (.start cache history now) trace = some state)
    (few : state.received < 2 ^ 64) {reporter : Reporter} (mem : reporter ∈ state.reporters) :
    let reports := reporter.prepared.map Prepared.report
    let lines := logLines 0 reports
    (∀ prepared ∈ reporter.prepared, prepared.Faithful) ∧ reports.Pairwise Grows ∧
      lines.Pairwise (fun first second => first.totalReq < second.totalReq ∧ Grows first second) ∧
      (∀ line ∈ lines, 0 < line.totalReq) ∧
      ∀ report ∈ reports, report.totalReq = 0 ∨ ∃ line ∈ lines, line.totalReq = report.totalReq := by
  intro reports lines
  have sound := (sound_of_run ran).reporters reporter mem
  have grows := pairwise_grows sound few
  have inOrder : reports.Pairwise fun first second => first.totalReq ≤ second.totalReq :=
    grows.imp fun grown => grown .totalReq
  refine ⟨fun prepared here => (sound.prepared prepared here).faithful few, grows, ?_, ?_, ?_⟩
  · exact (pairwise_logLines inOrder).and (grows.sublist (logLines_sublist reports 0))
  · exact lt_of_mem_logLines inOrder fun report _ => UInt64.zero_le
  · exact fun report here => exists_line here 0

/-! ## A report that is overtaken -/

/-- A query for the addresses of `a`. -/
def queryA : Bytes :=
  [0, 1, 1, 0, 0, 1, 0, 0, 0, 0, 0, 0, 1, 0x61, 0, 0, 1, 0, 1]

/-- The query is received and dropped when the report has loaded the number of requests already. -/
def overtaken : List Event :=
  [.come, .begin 0, .load 0, .receive 1,
    .call (.query (DomainTrie.insertDrop .ascii Trie.empty "a".toList) queryA),
    .call (.advance 0)] ++ List.replicate 7 (.load 0)

theorem reports_faithful_overtaken : ∃ state reporter prepared,
    run (next .ascii) (.start newCache none 0) overtaken = some state ∧
    reporter ∈ state.reporters ∧ prepared ∈ reporter.prepared ∧ prepared.Faithful ∧
    prepared.report.totalReq = 0 ∧ reported prepared.report = 1 := by
  have possible : (run (next .ascii) (.start newCache none 0) overtaken).map
      (fun state => (state.received, state.reporters.map fun reporter =>
        reporter.prepared.map Prepared.report)) = some (1, [[⟨0, 0, 0, 0, 0, 1, 0, 0⟩]]) := by
    decide +kernel
  obtain ⟨state, ran, shown⟩ := Option.map_eq_some_iff.mp possible
  obtain ⟨one, reports⟩ := Prod.mk.inj shown
  obtain ⟨reporter, others, reporters, first, _⟩ := List.map_eq_cons_iff.mp reports
  obtain ⟨prepared, rest, all, said, _⟩ := List.map_eq_cons_iff.mp first
  have mem : reporter ∈ state.reporters := reporters ▸ List.mem_cons_self
  have here : prepared ∈ reporter.prepared := all ▸ List.mem_cons_self
  have few : state.received < 2 ^ 64 := one ▸ (by decide)
  obtain ⟨faithful, _⟩ := reports_faithful ran few mem
  exact ⟨state, reporter, prepared, ran, mem, here, faithful prepared here, by rw [said],
    by rw [said]; rfl⟩

end DnsHijacker.DnsRelay.Reporting
