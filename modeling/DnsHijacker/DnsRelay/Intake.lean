import DnsHijacker.Library.Simulation
import DnsHijacker.Library.Slots
import DnsHijacker.Shared.Backlog
import DnsHijacker.DnsRelay.ObfsListener
import Mathlib.Algebra.Order.Group.Multiset
import Mathlib.Tactic.Abel

/-!
# From the sockets to the tasks

The two listeners of the relay read their sockets in batches, count what they have read and dispatch
it one datagram after the other; both share the permits with the backlog.  The proxy has the first
listener only.

Every datagram is numbered when it is received.  The numbers, what has been received, and what has
become of it, are there for the statements only.
-/

namespace DnsHijacker.DnsRelay.Intake

open DnsHijacker.Rust
open DnsHijacker.Library
open DnsHijacker.Shared
open DnsHijacker.Shared.Obfs

/-- `RECV_BATCH_MAX` -/
def recvBatchMax : Nat :=
  256

/-- `OBFS_RECV_BATCH_MAX` -/
def obfsRecvBatchMax : Nat :=
  64

variable {ObfsKey Addr : Type}

/-- Who has sent a datagram, and which of all this one is. -/
structure Sender (Addr : Type) where
  number : Nat
  addr : Addr

structure Datagram (Addr : Type) where
  payload : Bytes
  sender : Sender Addr

/-- The datagram of a query in the backlog. -/
def ofQueued (query : Queued (Sender Addr)) : Datagram Addr where
  payload := query.payload
  sender := query.source

/-- The main loop of `run_server`, or `run_obfs_listener`. -/
inductive Side where
  | plain
  | obfs
  deriving DecidableEq

/-- The size of the listener's buffer. -/
def Side.bufSize : Side → Nat
  | plain => payloadBufSize
  | obfs => obfsPayloadBufSize

/-- The size of the listener's batches. -/
def Side.batchMax : Side → Nat
  | plain => recvBatchMax
  | obfs => obfsRecvBatchMax

/-- Where a listener is. -/
inductive Listener (Addr : Type) where
  | receiving
  /-- It takes what has queued up on its socket. -/
  | draining (batch : List (Datagram Addr))
  | dispatching (batch : List (Datagram Addr))

namespace Listener

/-- What the listener has read and not dispatched. -/
def batch : Listener Addr → List (Datagram Addr)
  | receiving => []
  | draining batch => batch
  | dispatching batch => batch

/-- What the listener has read and not counted. -/
def uncounted : Listener Addr → List (Datagram Addr)
  | draining batch => batch
  | _ => []

/-- The listener before the rest of its batch. -/
def ofRest : List (Datagram Addr) → Listener Addr
  | [] => receiving
  | batch => dispatching batch

/-- `recv_from`, or `try_recv_from` while the batch is not full. -/
def receive (max : Nat) (datagram : Datagram Addr) : Listener Addr → Option (Listener Addr)
  | receiving => some (draining [datagram])
  | draining batch => if batch.length < max then some (draining (batch ++ [datagram])) else none
  | dispatching _ => none

@[simp]
theorem batch_ofRest (rest : List (Datagram Addr)) : (ofRest rest).batch = rest := by
  cases rest <;> rfl

@[simp]
theorem uncounted_ofRest (rest : List (Datagram Addr)) : (ofRest rest).uncounted = [] := by
  cases rest <;> rfl

theorem receive_eq_some {max : Nat} {datagram : Datagram Addr} {listener after : Listener Addr}
    (received : listener.receive max datagram = some after) :
    after.batch = listener.batch ++ [datagram] ∧
      after.uncounted = listener.uncounted ++ [datagram] ∧
      (listener = receiving ∨ listener.batch.length < max) := by
  cases listener with
  | receiving =>
      cases received
      exact ⟨rfl, rfl, .inl rfl⟩
  | draining batch =>
      rw [receive] at received
      split at received
      · rename_i room
        cases received
        exact ⟨rfl, rfl, .inr room⟩
      · contradiction
  | dispatching batch => contradiction

end Listener

/-- What has become of a datagram. -/
inductive Fate where
  /-- Its task has ended. -/
  | handled
  /-- There was no permit, and no room in the backlog. -/
  | full
  /-- No key opens it. -/
  | undecodable
  /-- It was in the backlog too long. -/
  | stale
  deriving DecidableEq

structure State (Addr : Type) where
  backlog : Backlog (Sender Addr)
  plain : Listener Addr
  obfs : Listener Addr
  /-- `total_req`, if there are counters. -/
  totalReq : Option UInt64
  received : List (Datagram Addr)
  /-- The tasks that are resolving. -/
  running : List (Datagram Addr)
  gone : List (Datagram Addr × Fate)

namespace State

def start (now : Nat) (totalReq : Option UInt64) : State Addr where
  backlog := Backlog.start now
  plain := .receiving
  obfs := .receiving
  totalReq := totalReq
  received := []
  running := []
  gone := []

def listener (state : State Addr) : Side → Listener Addr
  | .plain => state.plain
  | .obfs => state.obfs

def setListener (state : State Addr) (listener : Listener Addr) : Side → State Addr
  | .plain => { state with plain := listener }
  | .obfs => { state with obfs := listener }

variable (cipher : Cipher ObfsKey) (keys : List ObfsKey)

/-- The loop body of a listener for one datagram. -/
def dispatch (state : State Addr) (datagram : Datagram Addr) : Side → State Addr
  | .plain =>
      if 0 < state.backlog.permits then
        { state with
          backlog := { state.backlog with
            permits := state.backlog.permits - 1
            running := state.backlog.running + 1 }
          running := datagram :: state.running }
      else if state.backlog.queue.length < backlogCapacity then
        { state with
          backlog := { state.backlog with
            queue := state.backlog.queue ++
              [⟨datagram.payload, datagram.sender, state.backlog.now⟩] } }
      else { state with gone := (datagram, .full) :: state.gone }
  | .obfs =>
      match openDatagram cipher keys datagram.payload with
      | none => { state with gone := (datagram, .undecodable) :: state.gone }
      | some _ =>
          if 0 < state.backlog.permits then
            { state with
              backlog := { state.backlog with
                permits := state.backlog.permits - 1
                running := state.backlog.running + 1 }
              running := datagram :: state.running }
          else { state with gone := (datagram, .full) :: state.gone }

end State

inductive Event (Addr : Type) where
  | wait (duration : Nat)
  /-- The listener reads a datagram. -/
  | receive (side : Side) (datagram : Bytes) (source : Addr)
  /-- The batch is full, or the socket is empty or fails. -/
  | drained (side : Side)
  | dispatch (side : Side)
  /-- The backlog task receives a query and checks its age. -/
  | take
  | acquire
  | spawn
  | handle (index : Nat)
  /-- The call of `resolve_query` of a task has returned, and the task ends.  Which calls return, and
  when, is not decided here. -/
  | finish (index : Nat)

variable (cipher : Cipher ObfsKey) (keys : List ObfsKey)

/-- One event. -/
def next (state : State Addr) : Event Addr → Option (State Addr)
  | .wait duration =>
      some { state with backlog := { state.backlog with now := state.backlog.now + duration } }
  | .receive side bytes source =>
      let datagram : Datagram Addr :=
        ⟨bytes.take side.bufSize, ⟨state.received.length, source⟩⟩
      ((state.listener side).receive side.batchMax datagram).map fun listener =>
        { state.setListener listener side with received := state.received ++ [datagram] }
  | .drained side =>
      match state.listener side with
      | .draining batch =>
          some { state.setListener (.dispatching batch) side with
            totalReq := state.totalReq.map (· + UInt64.ofNat batch.length) }
      | _ => none
  | .dispatch side =>
      match state.listener side with
      | .dispatching (datagram :: rest) =>
          some ((state.setListener (.ofRest rest) side).dispatch cipher keys datagram side)
      | _ => none
  | .take =>
      match state.backlog.task, state.backlog.queue with
      | .receiving, query :: queue =>
          if query.isStale state.backlog.now then
            some { state with
              backlog := { state.backlog with queue }
              gone := (ofQueued query, .stale) :: state.gone }
          else
            some { state with
              backlog := { state.backlog with queue, task := .acquiring query } }
      | _, _ => none
  | .acquire =>
      (backlogStep state.backlog .acquire).map fun backlog => { state with backlog }
  | .spawn => (backlogStep state.backlog .spawn).map fun backlog => { state with backlog }
  | .handle index =>
      match state.backlog.spawned[index]? with
      | none => none
      | some query =>
          (backlogStep state.backlog (.handle index)).map fun backlog =>
            { state with backlog, running := ofQueued query :: state.running }
  | .finish index =>
      match state.running[index]? with
      | none => none
      | some datagram =>
          (backlogStep state.backlog .finish).map fun backlog =>
            { state with
              backlog
              running := state.running.eraseIdx index
              gone := (datagram, .handled) :: state.gone }

/-! ## What an event can do -/

variable {cipher keys}

@[simp]
theorem State.backlog_setListener (state : State Addr) (listener : Listener Addr) (side : Side) :
    (state.setListener listener side).backlog = state.backlog := by
  cases side <;> rfl

@[simp]
theorem State.running_setListener (state : State Addr) (listener : Listener Addr) (side : Side) :
    (state.setListener listener side).running = state.running := by
  cases side <;> rfl

@[simp]
theorem State.gone_setListener (state : State Addr) (listener : Listener Addr) (side : Side) :
    (state.setListener listener side).gone = state.gone := by
  cases side <;> rfl

@[simp]
theorem State.received_setListener (state : State Addr) (listener : Listener Addr) (side : Side) :
    (state.setListener listener side).received = state.received := by
  cases side <;> rfl

@[simp]
theorem State.totalReq_setListener (state : State Addr) (listener : Listener Addr) (side : Side) :
    (state.setListener listener side).totalReq = state.totalReq := by
  cases side <;> rfl

/-- What the events do. -/
inductive Moves (cipher : Cipher ObfsKey) (keys : List ObfsKey) (state : State Addr) :
    Event Addr → State Addr → Prop
  | wait (duration : Nat) :
      Moves cipher keys state (.wait duration)
        { state with backlog := { state.backlog with now := state.backlog.now + duration } }
  | receive {side : Side} {bytes : Bytes} {source : Addr} {listener : Listener Addr}
      (received : (state.listener side).receive side.batchMax
        ⟨bytes.take side.bufSize, ⟨state.received.length, source⟩⟩ = some listener) :
      Moves cipher keys state (.receive side bytes source)
        { state.setListener listener side with
          received := state.received ++
            [⟨bytes.take side.bufSize, ⟨state.received.length, source⟩⟩] }
  | drained {side : Side} {batch : List (Datagram Addr)}
      (drains : state.listener side = .draining batch) :
      Moves cipher keys state (.drained side)
        { state.setListener (.dispatching batch) side with
          totalReq := state.totalReq.map (· + UInt64.ofNat batch.length) }
  | run {side : Side} {datagram : Datagram Addr} {rest : List (Datagram Addr)}
      (dispatches : state.listener side = .dispatching (datagram :: rest))
      (opens : side = .obfs → (openDatagram cipher keys datagram.payload).isSome)
      (permit : 0 < state.backlog.permits) :
      Moves cipher keys state (.dispatch side)
        { state.setListener (.ofRest rest) side with
          backlog := { state.backlog with
            permits := state.backlog.permits - 1
            running := state.backlog.running + 1 }
          running := datagram :: state.running }
  | enqueue {datagram : Datagram Addr} {rest : List (Datagram Addr)}
      (dispatches : state.plain = .dispatching (datagram :: rest))
      (none : state.backlog.permits = 0) (room : state.backlog.queue.length < backlogCapacity) :
      Moves cipher keys state (.dispatch .plain)
        { state with
          plain := .ofRest rest
          backlog := { state.backlog with
            queue := state.backlog.queue ++
              [⟨datagram.payload, datagram.sender, state.backlog.now⟩] } }
  | reject {side : Side} {datagram : Datagram Addr} {rest : List (Datagram Addr)} {fate : Fate}
      (dispatches : state.listener side = .dispatching (datagram :: rest))
      (full : fate = .full → state.backlog.permits = 0 ∧
        (side = .plain → backlogCapacity ≤ state.backlog.queue.length))
      (undecodable : fate ≠ .full → side = .obfs ∧ fate = .undecodable ∧
        openDatagram cipher keys datagram.payload = Option.none) :
      Moves cipher keys state (.dispatch side)
        { state.setListener (.ofRest rest) side with gone := (datagram, fate) :: state.gone }
  | drop {query : Queued (Sender Addr)} {queue : List (Queued (Sender Addr))}
      (receives : state.backlog.task = .receiving) (first : state.backlog.queue = query :: queue)
      (stale : query.isStale state.backlog.now = true) :
      Moves cipher keys state .take
        { state with
          backlog := { state.backlog with queue }
          gone := (ofQueued query, .stale) :: state.gone }
  | take {query : Queued (Sender Addr)} {queue : List (Queued (Sender Addr))}
      (receives : state.backlog.task = .receiving) (first : state.backlog.queue = query :: queue)
      (fresh : query.isStale state.backlog.now = false) :
      Moves cipher keys state .take
        { state with backlog := { state.backlog with queue, task := .acquiring query } }
  | acquire {query : Queued (Sender Addr)} (acquires : state.backlog.task = .acquiring query)
      (permit : 0 < state.backlog.permits) :
      Moves cipher keys state .acquire
        { state with backlog := { state.backlog with
            permits := state.backlog.permits - 1
            task := .granted query } }
  | queueUp {query : Queued (Sender Addr)} (acquires : state.backlog.task = .acquiring query)
      (none : state.backlog.permits = 0) :
      Moves cipher keys state .acquire
        { state with backlog := { state.backlog with task := .waiting query } }
  | spawn {query : Queued (Sender Addr)} (granted : state.backlog.task = .granted query) :
      Moves cipher keys state .spawn
        { state with backlog := { state.backlog with
            task := .receiving
            spawned := query :: state.backlog.spawned } }
  | handle {index : Nat} {query : Queued (Sender Addr)}
      (found : state.backlog.spawned[index]? = some query) :
      Moves cipher keys state (.handle index)
        { state with
          backlog := { state.backlog with
            spawned := state.backlog.spawned.eraseIdx index
            running := state.backlog.running + 1
            handedOver := ⟨query, state.backlog.now⟩ :: state.backlog.handedOver }
          running := ofQueued query :: state.running }
  | grant {index : Nat} {datagram : Datagram Addr} {query : Queued (Sender Addr)}
      (found : state.running[index]? = some datagram) (some : 0 < state.backlog.running)
      (waits : state.backlog.task = .waiting query) :
      Moves cipher keys state (.finish index)
        { state with
          backlog := { state.backlog with
            running := state.backlog.running - 1
            task := .granted query }
          running := state.running.eraseIdx index
          gone := (datagram, .handled) :: state.gone }
  | finish {index : Nat} {datagram : Datagram Addr}
      (found : state.running[index]? = some datagram) (some : 0 < state.backlog.running)
      (noWaiter : ∀ query, state.backlog.task ≠ .waiting query) :
      Moves cipher keys state (.finish index)
        { state with
          backlog := { state.backlog with
            running := state.backlog.running - 1
            permits := state.backlog.permits + 1 }
          running := state.running.eraseIdx index
          gone := (datagram, .handled) :: state.gone }

theorem moves_dispatch {state : State Addr} {side : Side} {datagram : Datagram Addr}
    {rest : List (Datagram Addr)}
    (dispatches : state.listener side = .dispatching (datagram :: rest)) :
    Moves cipher keys state (.dispatch side)
      ((state.setListener (.ofRest rest) side).dispatch cipher keys datagram side) := by
  cases side with
  | plain =>
      rw [State.dispatch, State.backlog_setListener]
      split
      · rename_i permit
        exact .run dispatches nofun permit
      · rename_i none
        split
        · rename_i room
          exact .enqueue dispatches (Nat.eq_zero_of_not_pos none) room
        · rename_i noRoom
          refine .reject dispatches (fun _ => ⟨Nat.eq_zero_of_not_pos none, fun _ => ?_⟩) ?_
          · exact Nat.le_of_not_lt noRoom
          · exact fun other => absurd rfl other
  | obfs =>
      rw [State.dispatch]
      split
      · rename_i closed
        exact .reject dispatches nofun fun _ => ⟨rfl, rfl, closed⟩
      · rename_i opened
        rw [State.backlog_setListener]
        split
        · rename_i permit
          exact .run dispatches (fun _ => by rw [opened]; rfl) permit
        · rename_i none
          exact .reject dispatches (fun _ => ⟨Nat.eq_zero_of_not_pos none, nofun⟩)
            fun other => absurd rfl other

theorem moves_of_next {state after : State Addr} {event : Event Addr}
    (step : next cipher keys state event = some after) : Moves cipher keys state event after := by
  cases event with
  | wait duration =>
      cases step
      exact .wait duration
  | receive side bytes source =>
      obtain ⟨listener, received, rfl⟩ := Option.map_eq_some_iff.mp step
      exact .receive received
  | drained side =>
      rw [next] at step
      split at step
      · rename_i batch drains
        cases step
        exact .drained drains
      · contradiction
  | dispatch side =>
      rw [next] at step
      split at step
      · rename_i datagram rest dispatches
        cases step
        exact moves_dispatch dispatches
      · contradiction
  | take =>
      rw [next] at step
      split at step
      · rename_i query queue receives first
        split at step
        · rename_i stale
          cases step
          exact .drop receives first stale
        · rename_i fresh
          cases step
          exact .take receives first (Bool.eq_false_iff.mpr fresh)
      · contradiction
  | acquire =>
      obtain ⟨backlog, stepped, rfl⟩ := Option.map_eq_some_iff.mp step
      cases backlogMoves_of_step stepped with
      | acquire acquires permit => exact .acquire acquires permit
      | queueUp acquires none => exact .queueUp acquires none
  | spawn =>
      obtain ⟨backlog, stepped, rfl⟩ := Option.map_eq_some_iff.mp step
      cases backlogMoves_of_step stepped with
      | spawn granted => exact .spawn granted
  | handle index =>
      rw [next] at step
      split at step
      · contradiction
      · rename_i query found
        obtain ⟨backlog, stepped, rfl⟩ := Option.map_eq_some_iff.mp step
        cases backlogMoves_of_step stepped with
        | handle same =>
            rw [found] at same
            cases same
            exact .handle found
  | finish index =>
      rw [next] at step
      split at step
      · contradiction
      · rename_i datagram found
        obtain ⟨backlog, stepped, rfl⟩ := Option.map_eq_some_iff.mp step
        cases backlogMoves_of_step stepped with
        | grant waits some => exact .grant found some waits
        | finish noWaiter some => exact .finish found some noWaiter

/-! ## The backlog under the listeners -/

variable (cipher keys)

/-- What an event is for the backlog. -/
def backlogEvents (state : State Addr) : Event Addr → List (BacklogEvent (Sender Addr))
  | .wait duration => [.wait duration]
  | .receive _ _ _ => []
  | .drained _ => []
  | .dispatch .plain =>
      match state.plain with
      | .dispatching (datagram :: _) => [.receive datagram.payload datagram.sender]
      | _ => []
  | .dispatch .obfs =>
      match state.obfs with
      | .dispatching (datagram :: _) =>
          if (openDatagram cipher keys datagram.payload).isSome then [.receiveObfs] else []
      | _ => []
  | .take => [.take]
  | .acquire => [.acquire]
  | .spawn => [.spawn]
  | .handle index => [.handle index]
  | .finish _ => [.finish]

variable {cipher keys}

theorem run_single {σ α : Type} {next : σ → α → Option σ} {state after : σ} {event : α}
    (step : next state event = some after) : run next state [event] = some after :=
  run_cons_eq_some_iff.mpr ⟨after, step, rfl⟩

/-- For the backlog, every event of the listeners and the tasks is an event of its own or none. -/
theorem run_backlogEvents {state after : State Addr} {event : Event Addr}
    (step : next cipher keys state event = some after) :
    run backlogStep state.backlog (backlogEvents cipher keys state event) = some after.backlog := by
  cases moves_of_next step with
  | wait duration => rfl
  | receive received => rw [State.backlog_setListener]; rfl
  | drained drains => rw [State.backlog_setListener]; rfl
  | @run side datagram rest dispatches opens permit =>
      cases side with
      | plain =>
          have here : state.plain = .dispatching (datagram :: rest) := dispatches
          rw [backlogEvents, here]
          exact run_single (by rw [backlogStep, if_pos permit])
      | obfs =>
          have here : state.obfs = .dispatching (datagram :: rest) := dispatches
          rw [backlogEvents, here]
          dsimp only
          rw [if_pos (opens rfl)]
          exact run_single (by rw [backlogStep, if_pos permit])
  | enqueue dispatches none room =>
      rw [backlogEvents, dispatches]
      have noPermit : ¬ 0 < state.backlog.permits := by omega
      exact run_single (by rw [backlogStep, if_neg noPermit, if_pos room])
  | @reject side datagram rest fate dispatches full undecodable =>
      change _ = some (state.setListener (.ofRest rest) side).backlog
      rw [State.backlog_setListener]
      cases side with
      | plain =>
          have isFull : fate = .full := by
            by_contra other
            cases (undecodable other).1
          obtain ⟨none, noRoom⟩ := full isFull
          have here : state.plain = .dispatching (datagram :: rest) := dispatches
          have noPermit : ¬ 0 < state.backlog.permits := by omega
          rw [backlogEvents, here]
          exact run_single (by rw [backlogStep, if_neg noPermit, if_neg (Nat.not_lt.mpr (noRoom rfl))])
      | obfs =>
          have here : state.obfs = .dispatching (datagram :: rest) := dispatches
          rw [backlogEvents, here]
          dsimp only
          split
          · rename_i opened
            have isFull : fate = .full := by
              by_contra other
              rw [(undecodable other).2.2] at opened
              contradiction
            have noPermit : ¬ 0 < state.backlog.permits := by
              have := (full isFull).1
              omega
            exact run_single (by rw [backlogStep, if_neg noPermit])
          · rfl
  | drop receives first stale => exact run_single (by simp [backlogStep, receives, first, stale])
  | take receives first fresh => exact run_single (by simp [backlogStep, receives, first, fresh])
  | acquire acquires permit => exact run_single (by simp [backlogStep, acquires, permit])
  | queueUp acquires none => exact run_single (by simp [backlogStep, acquires, none])
  | spawn granted => exact run_single (by rw [backlogStep, granted])
  | handle found => exact run_single (by rw [backlogStep, found])
  | grant found some waits =>
      exact run_single (by rw [backlogStep, if_pos some, waits])
  | finish found some noWaiter =>
      refine run_single ?_
      rw [backlogStep, if_pos some]
      split
      · rename_i query waits
        exact absurd waits (noWaiter query)
      · rfl

/-- What the listeners and the tasks do to the backlog is what the backlog does by itself. -/
theorem simulation (cipher : Cipher ObfsKey) (keys : List ObfsKey) :
    Simulation (next cipher keys : State Addr → Event Addr → Option (State Addr)) backlogStep
      (fun state event block => block = backlogEvents cipher keys state event)
      (fun state backlog => state.backlog = backlog) where
  step := by
    rintro state after _ event rfl step
    exact ⟨_, _, rfl, run_backlogEvents step, rfl⟩

/-! ## Where the datagrams are -/

namespace State

/-- What the listeners have read and not dispatched. -/
def batches (state : State Addr) : Multiset (Datagram Addr) :=
  state.plain.batch + state.obfs.batch

/-- What the backlog has. -/
def waiting (backlog : Backlog (Sender Addr)) : Multiset (Datagram Addr) :=
  ↑(backlog.queue.map ofQueued) + ↑(backlog.task.held.map ofQueued) +
    ↑(backlog.spawned.map ofQueued)

/-- Every place a datagram can be in. -/
def placed (state : State Addr) : Multiset (Datagram Addr) :=
  state.batches + waiting state.backlog + ↑state.running + ↑(state.gone.map Prod.fst)

def uncounted (state : State Addr) : Nat :=
  state.plain.uncounted.length + state.obfs.uncounted.length

/-- The datagrams that wait for the backlog task, and those that may still join them, in order. -/
def line (state : State Addr) : List (Datagram Addr) :=
  (state.backlog.task.held ++ state.backlog.queue).map ofQueued ++ state.plain.batch

theorem batches_setListener (state : State Addr) (listener : Listener Addr) (side : Side) :
    ((state.setListener listener side).batches : Multiset (Datagram Addr)) + ↑(state.listener side).batch =
      state.batches + ↑listener.batch := by
  cases side with
  | plain => simp only [batches, setListener, State.listener, add_comm, add_left_comm]
  | obfs => simp only [batches, setListener, State.listener, add_assoc, add_comm]

theorem uncounted_setListener (state : State Addr) (listener : Listener Addr) (side : Side) :
    (state.setListener listener side).uncounted + (state.listener side).uncounted.length =
      state.uncounted + listener.uncounted.length := by
  cases side <;> simp only [uncounted, setListener, State.listener] <;> omega

end State

/-- What every run keeps. -/
structure Conserved (state : State Addr) : Prop where
  placed : (state.received : Multiset (Datagram Addr)) = state.placed
  numbered : state.received.map (·.sender.number) = List.range state.received.length
  counted : ∀ total ∈ state.totalReq,
    total + UInt64.ofNat state.uncounted = UInt64.ofNat state.received.length
  inLine : (state.line.map (·.sender.number) ++ [state.received.length]).Pairwise (· < ·)
  batches : ∀ side, (state.listener side).batch.length ≤ side.batchMax
  queue : state.backlog.queue.length ≤ backlogCapacity
  running : state.running.length = state.backlog.running

theorem conserved_start (now : Nat) {totalReq : Option UInt64} (zero : ∀ total ∈ totalReq, total = 0) :
    Conserved (State.start now totalReq : State Addr) where
  placed := rfl
  numbered := rfl
  counted total mem := by
    rw [zero total mem]
    rfl
  inLine := List.pairwise_singleton _ _
  batches side := by cases side <;> exact Nat.zero_le _
  queue := Nat.zero_le _
  running := rfl

/-! ### No datagram is lost or in two places -/

theorem coe_cons (datagram : Datagram Addr) (list : List (Datagram Addr)) :
    (↑(datagram :: list) : Multiset (Datagram Addr)) = {datagram} + ↑list := by
  rw [Multiset.singleton_add, Multiset.cons_coe]

theorem coe_concat (list : List (Datagram Addr)) (datagram : Datagram Addr) :
    (↑(list ++ [datagram]) : Multiset (Datagram Addr)) = ↑list + {datagram} := by
  rw [← Multiset.coe_add, Multiset.coe_singleton]

theorem coe_of_getElem? {list : List (Datagram Addr)} {index : Nat} {datagram : Datagram Addr}
    (found : list[index]? = some datagram) :
    (↑list : Multiset (Datagram Addr)) = {datagram} + ↑(list.eraseIdx index) := by
  rw [Multiset.coe_eq_coe.mpr (perm_of_getElem? found), coe_cons]

theorem batches_receive {state : State Addr} {listener : Listener Addr} {side : Side}
    {datagram : Datagram Addr} (grows : listener.batch = (state.listener side).batch ++ [datagram]) :
    (state.setListener listener side).batches = state.batches + {datagram} := by
  have both := state.batches_setListener listener side
  rw [grows, coe_concat, ← add_assoc, add_right_comm] at both
  exact add_right_cancel both

theorem batches_dispatch {state : State Addr} {listener : Listener Addr} {side : Side}
    {datagram : Datagram Addr}
    (shrinks : (state.listener side).batch = datagram :: listener.batch) :
    state.batches = (state.setListener listener side).batches + {datagram} := by
  have both := state.batches_setListener listener side
  rw [shrinks, coe_cons, ← add_assoc] at both
  exact (add_right_cancel both).symm

theorem batches_drained {state : State Addr} {listener : Listener Addr} {side : Side}
    (same : listener.batch = (state.listener side).batch) :
    (state.setListener listener side).batches = state.batches := by
  have both := state.batches_setListener listener side
  rw [same] at both
  exact add_right_cancel both

/-- A listener takes the first datagram of its batch. -/
theorem placed_setListener {state : State Addr} {side : Side} {datagram : Datagram Addr}
    {rest : List (Datagram Addr)} (dispatches : state.listener side = .dispatching (datagram :: rest))
    (placed : (state.received : Multiset (Datagram Addr)) = state.placed) :
    (state.received : Multiset (Datagram Addr)) =
      (state.setListener (.ofRest rest) side).batches + {datagram} + State.waiting state.backlog +
        ↑state.running + ↑(state.gone.map Prod.fst) := by
  have shrinks : (state.listener side).batch = datagram :: (Listener.ofRest rest).batch := by
    rw [dispatches, Listener.batch_ofRest]
    rfl
  rw [placed, State.placed, batches_dispatch shrinks]

theorem placed_next {state after : State Addr} {event : Event Addr}
    (placed : (state.received : Multiset (Datagram Addr)) = state.placed)
    (moves : Moves cipher keys state event after) :
    (after.received : Multiset (Datagram Addr)) = after.placed := by
  cases moves with
  | wait duration => exact placed
  | @receive side bytes source listener received =>
      have grows := batches_receive (Listener.receive_eq_some received).1
      change _ = (state.setListener listener side).batches +
        State.waiting (state.setListener listener side).backlog +
        ↑(state.setListener listener side).running +
        ↑((state.setListener listener side).gone.map Prod.fst)
      rw [grows, State.backlog_setListener, State.running_setListener, State.gone_setListener,
        coe_concat, placed, State.placed]
      abel
  | @drained side batch drains =>
      have same : (Listener.dispatching batch).batch = (state.listener side).batch := by
        rw [drains]
        rfl
      change ↑(state.setListener _ side).received = (state.setListener _ side).batches +
        State.waiting (state.setListener _ side).backlog + ↑(state.setListener _ side).running +
        ↑((state.setListener _ side).gone.map Prod.fst)
      rw [batches_drained same, State.backlog_setListener, State.running_setListener,
        State.gone_setListener, State.received_setListener]
      exact placed
  | @run side datagram rest dispatches opens permit =>
      change ↑(state.setListener _ side).received = (state.setListener _ side).batches +
        State.waiting state.backlog + ↑(datagram :: state.running) +
        ↑((state.setListener _ side).gone.map Prod.fst)
      rw [State.gone_setListener, State.received_setListener, placed_setListener dispatches placed,
        coe_cons]
      abel
  | @enqueue datagram rest dispatches none room =>
      have taken := placed_setListener (show state.listener .plain = _ from dispatches) placed
      change ↑state.received = (state.setListener (.ofRest rest) .plain).batches +
        (↑((state.backlog.queue ++ [_]).map ofQueued) + ↑(state.backlog.task.held.map ofQueued) +
          ↑(state.backlog.spawned.map ofQueued)) + ↑state.running + ↑(state.gone.map Prod.fst)
      rw [taken, List.map_append, List.map_singleton, coe_concat, ofQueued, State.waiting]
      abel
  | @reject side datagram rest fate dispatches full undecodable =>
      change ↑(state.setListener _ side).received = (state.setListener _ side).batches +
        State.waiting (state.setListener _ side).backlog + ↑(state.setListener _ side).running +
        ↑(datagram :: state.gone.map Prod.fst)
      rw [State.backlog_setListener, State.running_setListener, State.received_setListener,
        placed_setListener dispatches placed, coe_cons]
      abel
  | @drop query queue receives first stale =>
      rw [State.placed, State.waiting, first, List.map_cons, coe_cons] at placed
      change _ = state.batches + (↑(queue.map ofQueued) + ↑(state.backlog.task.held.map ofQueued) +
        ↑(state.backlog.spawned.map ofQueued)) + ↑state.running +
        ↑(ofQueued query :: state.gone.map Prod.fst)
      rw [placed, coe_cons]
      abel
  | @take query queue receives first fresh =>
      rw [State.placed, State.waiting, first, List.map_cons, coe_cons, receives] at placed
      change _ = state.batches + (↑(queue.map ofQueued) + ↑[ofQueued query] +
        ↑(state.backlog.spawned.map ofQueued)) + ↑state.running + ↑(state.gone.map Prod.fst)
      rw [placed, Multiset.coe_singleton]
      change _ + (_ + 0 + _) + _ + _ = _
      abel
  | acquire acquires permit =>
      rw [State.placed, State.waiting, acquires] at placed
      exact placed
  | queueUp acquires none =>
      rw [State.placed, State.waiting, acquires] at placed
      exact placed
  | @spawn query granted =>
      rw [State.placed, State.waiting, granted] at placed
      change _ = state.batches + (↑(state.backlog.queue.map ofQueued) + 0 +
        ↑(ofQueued query :: state.backlog.spawned.map ofQueued)) + ↑state.running +
        ↑(state.gone.map Prod.fst)
      rw [placed, coe_cons]
      change _ + (_ + {ofQueued query} + _) + _ + _ = _
      abel
  | @handle index query found =>
      have found' : (state.backlog.spawned.map ofQueued)[index]? = some (ofQueued query) := by
        rw [List.getElem?_map, found]
        rfl
      rw [State.placed, State.waiting, coe_of_getElem? found', List.eraseIdx_map] at placed
      change _ = state.batches + (↑(state.backlog.queue.map ofQueued) +
        ↑(state.backlog.task.held.map ofQueued) +
        ↑((state.backlog.spawned.eraseIdx index).map ofQueued)) +
        ↑(ofQueued query :: state.running) + ↑(state.gone.map Prod.fst)
      rw [placed, coe_cons]
      abel
  | @grant index datagram query found some waits =>
      rw [State.placed, State.waiting, waits, coe_of_getElem? found] at placed
      change _ = state.batches + (↑(state.backlog.queue.map ofQueued) + {ofQueued query} +
        ↑(state.backlog.spawned.map ofQueued)) + ↑(state.running.eraseIdx index) +
        ↑(datagram :: state.gone.map Prod.fst)
      rw [placed, coe_cons]
      change _ + (_ + {ofQueued query} + _) + _ + _ = _
      abel
  | @finish index datagram found some noWaiter =>
      rw [State.placed, coe_of_getElem? found] at placed
      change _ = state.batches + State.waiting state.backlog + ↑(state.running.eraseIdx index) +
        ↑(datagram :: state.gone.map Prod.fst)
      rw [placed, coe_cons]
      abel

/-! ### The line -/

theorem pairwise_lt_concat {line : List Nat} {bound : Nat} :
    (line ++ [bound]).Pairwise (· < ·) ↔ line.Pairwise (· < ·) ∧ ∀ number ∈ line, number < bound := by
  rw [List.pairwise_append]
  simp

theorem line_setListener {state : State Addr} {side : Side} {datagram : Datagram Addr}
    {rest : List (Datagram Addr)}
    (dispatches : state.listener side = .dispatching (datagram :: rest)) :
    (state.setListener (.ofRest rest) side).line.Sublist state.line := by
  cases side with
  | plain =>
      have here : state.plain = .dispatching (datagram :: rest) := dispatches
      apply (List.Sublist.refl _).append
      rw [here]
      change (Listener.ofRest rest).batch.Sublist (datagram :: rest)
      rw [Listener.batch_ofRest]
      exact List.sublist_cons_self datagram rest
  | obfs => exact List.Sublist.refl _

/-- Whoever joins the line comes last. -/
theorem line_next {state after : State Addr} {event : Event Addr}
    (moves : Moves cipher keys state event after) :
    (after.line.Sublist state.line ∧ after.received = state.received) ∨
      ∃ datagram, after.line.Sublist (state.line ++ [datagram]) ∧
        datagram.sender.number = state.received.length ∧
        after.received = state.received ++ [datagram] := by
  cases moves with
  | wait duration => exact .inl ⟨List.Sublist.refl _, rfl⟩
  | @receive side bytes source listener received =>
      refine .inr ⟨⟨bytes.take side.bufSize, ⟨state.received.length, source⟩⟩, ?_, rfl, rfl⟩
      have grows := (Listener.receive_eq_some received).1
      cases side with
      | plain =>
          change (_ ++ listener.batch).Sublist _
          rw [grows, ← List.append_assoc]
          exact List.Sublist.refl _
      | obfs => exact List.sublist_append_left _ _
  | @drained side batch drains =>
      refine .inl ⟨?_, State.received_setListener _ _ _⟩
      cases side with
      | plain =>
          have here : state.plain = .draining batch := drains
          rw [State.line, State.line, here]
          exact List.Sublist.refl _
      | obfs => exact List.Sublist.refl _
  | @run side datagram rest dispatches opens permit =>
      refine .inl ⟨?_, State.received_setListener _ _ _⟩
      have shorter := line_setListener dispatches
      rw [State.line, State.backlog_setListener] at shorter
      exact shorter
  | @enqueue datagram rest dispatches none room =>
      refine .inl ⟨?_, rfl⟩
      change ((state.backlog.task.held ++ (state.backlog.queue ++ [_])).map ofQueued ++
        (Listener.ofRest rest).batch).Sublist _
      rw [State.line, dispatches, Listener.batch_ofRest, ← List.append_assoc, List.map_append,
        List.append_assoc]
      exact List.Sublist.refl _
  | reject dispatches full undecodable =>
      exact .inl ⟨line_setListener dispatches, State.received_setListener _ _ _⟩
  | @drop query queue receives first stale =>
      refine .inl ⟨?_, rfl⟩
      rw [State.line, State.line, first]
      exact (((List.Sublist.refl _).append (List.sublist_cons_self query queue)).map _).append
        (List.Sublist.refl _)
  | @take query queue receives first fresh =>
      refine .inl ⟨?_, rfl⟩
      rw [State.line, State.line, first, receives]
      exact List.Sublist.refl _
  | acquire acquires permit =>
      refine .inl ⟨?_, rfl⟩
      rw [State.line, State.line, acquires]
      exact List.Sublist.refl _
  | queueUp acquires none =>
      refine .inl ⟨?_, rfl⟩
      rw [State.line, State.line, acquires]
      exact List.Sublist.refl _
  | @spawn query granted =>
      refine .inl ⟨?_, rfl⟩
      rw [State.line, State.line, granted]
      exact ((List.sublist_append_right [query] _).map _).append (List.Sublist.refl _)
  | handle found => exact .inl ⟨List.Sublist.refl _, rfl⟩
  | grant found some waits =>
      refine .inl ⟨?_, rfl⟩
      rw [State.line, State.line, waits]
      exact List.Sublist.refl _
  | finish found some noWaiter => exact .inl ⟨List.Sublist.refl _, rfl⟩

theorem inLine_next {state after : State Addr} {event : Event Addr}
    (inLine : (state.line.map (·.sender.number) ++ [state.received.length]).Pairwise (· < ·))
    (moves : Moves cipher keys state event after) :
    (after.line.map (·.sender.number) ++ [after.received.length]).Pairwise (· < ·) := by
  rcases line_next moves with ⟨shorter, same⟩ | ⟨datagram, longer, number, received⟩
  · rw [same]
    exact inLine.sublist ((shorter.map _).append (List.Sublist.refl _))
  · rw [received, List.length_append, List.length_singleton]
    have numbers : (after.line.map (·.sender.number)).Sublist
        (state.line.map (·.sender.number) ++ [state.received.length]) := by
      have mapped := longer.map (·.sender.number)
      rw [List.map_append, List.map_singleton, number] at mapped
      exact mapped
    rw [pairwise_lt_concat]
    refine ⟨inLine.sublist numbers, fun other mem => ?_⟩
    rcases List.mem_append.mp (numbers.subset mem) with before | last
    · exact Nat.lt_succ_of_lt ((pairwise_lt_concat.mp inLine).2 other before)
    · rw [List.mem_singleton.mp last]
      exact Nat.lt_succ_self _

theorem numbered_next {state after : State Addr} {event : Event Addr}
    (numbered : state.received.map (·.sender.number) = List.range state.received.length)
    (moves : Moves cipher keys state event after) :
    after.received.map (·.sender.number) = List.range after.received.length := by
  rcases line_next moves with ⟨_, same⟩ | ⟨datagram, _, number, received⟩
  · rw [same, numbered]
  · rw [received, List.map_append, numbered, List.length_append, List.length_singleton,
      List.range_succ, List.map_singleton, number]

/-! ### Counting and bounds -/

/-- A listener that dispatches has counted its batch. -/
theorem uncounted_dispatch {state : State Addr} {side : Side} {datagram : Datagram Addr}
    {rest : List (Datagram Addr)}
    (dispatches : state.listener side = .dispatching (datagram :: rest)) :
    (state.setListener (.ofRest rest) side).uncounted = state.uncounted := by
  have lengths := state.uncounted_setListener (.ofRest rest) side
  rw [dispatches, Listener.uncounted_ofRest] at lengths
  exact lengths

theorem counted_next {state after : State Addr} {event : Event Addr}
    (counted : ∀ total ∈ state.totalReq,
      total + UInt64.ofNat state.uncounted = UInt64.ofNat state.received.length)
    (moves : Moves cipher keys state event after) :
    ∀ total ∈ after.totalReq,
      total + UInt64.ofNat after.uncounted = UInt64.ofNat after.received.length := by
  cases moves with
  | @receive side bytes source listener received =>
      have grows := (Listener.receive_eq_some received).2.1
      have lengths := state.uncounted_setListener listener side
      rw [grows, List.length_append] at lengths
      intro total mem
      change total + UInt64.ofNat (state.setListener listener side).uncounted =
        UInt64.ofNat (state.received ++ [_]).length
      have more : (state.setListener listener side).uncounted = state.uncounted + 1 := by
        rw [List.length_singleton] at lengths
        omega
      change total ∈ (state.setListener listener side).totalReq at mem
      rw [State.totalReq_setListener] at mem
      rw [more, List.length_append, List.length_singleton, UInt64.ofNat_add, UInt64.ofNat_add,
        ← counted total mem, UInt64.add_assoc]
  | @drained side batch drains =>
      have lengths := state.uncounted_setListener (.dispatching batch) side
      rw [drains] at lengths
      intro total mem
      obtain ⟨before, memBefore, rfl⟩ := Option.mem_map.mp mem
      change before + _ + UInt64.ofNat (state.setListener _ side).uncounted =
        UInt64.ofNat (state.setListener _ side).received.length
      have fewer : state.uncounted =
          batch.length + (state.setListener (.dispatching batch) side).uncounted := by
        change _ + batch.length = _ + 0 at lengths
        omega
      rw [State.received_setListener, ← counted before memBefore, fewer, UInt64.ofNat_add,
        UInt64.add_assoc]
  | @run side datagram rest dispatches opens permit =>
      intro total mem
      change total ∈ (state.setListener _ side).totalReq at mem
      change total + UInt64.ofNat (state.setListener _ side).uncounted =
        UInt64.ofNat (state.setListener _ side).received.length
      rw [State.totalReq_setListener] at mem
      rw [State.received_setListener, uncounted_dispatch dispatches, counted total mem]
  | @enqueue datagram rest dispatches none room =>
      have same := uncounted_dispatch (show state.listener .plain = _ from dispatches)
      intro total mem
      change total + UInt64.ofNat (state.setListener (.ofRest rest) .plain).uncounted = _
      rw [same]
      exact counted total mem
  | @reject side datagram rest fate dispatches full undecodable =>
      intro total mem
      change total ∈ (state.setListener _ side).totalReq at mem
      change total + UInt64.ofNat (state.setListener _ side).uncounted =
        UInt64.ofNat (state.setListener _ side).received.length
      rw [State.totalReq_setListener] at mem
      rw [State.received_setListener, uncounted_dispatch dispatches, counted total mem]
  | _ => exact counted

theorem State.listener_setListener (state : State Addr) (listener : Listener Addr)
    (side other : Side) :
    (state.setListener listener side).listener other =
      if other = side then listener else state.listener other := by
  cases side <;> cases other <;> rfl

theorem batches_set {state : State Addr} {listener : Listener Addr} {side : Side}
    (batches : ∀ side, (state.listener side).batch.length ≤ side.batchMax)
    (here : listener.batch.length ≤ side.batchMax) (other : Side) :
    ((state.setListener listener side).listener other).batch.length ≤ other.batchMax := by
  rw [State.listener_setListener]
  split
  · rename_i same
    rw [same]
    exact here
  · exact batches other

theorem batches_rest {state : State Addr} {side : Side} {datagram : Datagram Addr}
    {rest : List (Datagram Addr)}
    (batches : ∀ side, (state.listener side).batch.length ≤ side.batchMax)
    (dispatches : state.listener side = .dispatching (datagram :: rest)) (other : Side) :
    ((state.setListener (.ofRest rest) side).listener other).batch.length ≤ other.batchMax := by
  apply batches_set batches
  have before := batches side
  rw [dispatches] at before
  rw [Listener.batch_ofRest]
  exact Nat.le_of_succ_le before

theorem batches_next {state after : State Addr} {event : Event Addr}
    (batches : ∀ side, (state.listener side).batch.length ≤ side.batchMax)
    (moves : Moves cipher keys state event after) (other : Side) :
    (after.listener other).batch.length ≤ other.batchMax := by
  cases moves with
  | @receive side bytes source listener received =>
      obtain ⟨grows, _, room⟩ := Listener.receive_eq_some received
      have here : listener.batch.length ≤ side.batchMax := by
        rw [grows, List.length_append, List.length_singleton]
        rcases room with first | room
        · rw [first]
          cases side <;> exact Nat.le_add_left 1 _
        · exact room
      have all := batches_set batches here other
      cases other <;> exact all
  | @drained side batch drains =>
      have here : (Listener.dispatching batch).batch.length ≤ side.batchMax := by
        have before := batches side
        rw [drains] at before
        exact before
      have all := batches_set batches here other
      cases other <;> exact all
  | run dispatches opens permit =>
      have all := batches_rest batches dispatches other
      cases other <;> exact all
  | @enqueue datagram rest dispatches none room =>
      have all := batches_rest batches (show state.listener .plain = _ from dispatches) other
      cases other <;> exact all
  | reject dispatches full undecodable =>
      have all := batches_rest batches dispatches other
      cases other <;> exact all
  | _ =>
      have all := batches other
      cases other <;> exact all

theorem queue_next {state after : State Addr} {event : Event Addr}
    (queue : state.backlog.queue.length ≤ backlogCapacity)
    (moves : Moves cipher keys state event after) :
    after.backlog.queue.length ≤ backlogCapacity := by
  cases moves with
  | receive received => rwa [State.backlog_setListener]
  | drained drains => rwa [State.backlog_setListener]
  | enqueue dispatches none room =>
      change (_ ++ [_]).length ≤ _
      rw [List.length_append, List.length_singleton]
      exact room
  | reject dispatches full undecodable => rwa [State.backlog_setListener]
  | drop receives first stale =>
      rw [first] at queue
      exact Nat.le_of_succ_le queue
  | take receives first fresh =>
      rw [first] at queue
      exact Nat.le_of_succ_le queue
  | _ => exact queue

theorem running_next {state after : State Addr} {event : Event Addr}
    (running : state.running.length = state.backlog.running)
    (moves : Moves cipher keys state event after) :
    after.running.length = after.backlog.running := by
  cases moves with
  | receive received => rwa [State.backlog_setListener, State.running_setListener]
  | drained drains => rwa [State.backlog_setListener, State.running_setListener]
  | run dispatches opens permit => exact congrArg (· + 1) running
  | reject dispatches full undecodable =>
      rwa [State.backlog_setListener, State.running_setListener]
  | handle found => exact congrArg (· + 1) running
  | grant found some waits =>
      change (state.running.eraseIdx _).length = _ - 1
      rw [List.length_eraseIdx_of_lt (List.getElem?_eq_some_iff.mp found).1, running]
  | finish found some noWaiter =>
      change (state.running.eraseIdx _).length = _ - 1
      rw [List.length_eraseIdx_of_lt (List.getElem?_eq_some_iff.mp found).1, running]
  | _ => exact running

theorem Conserved.next {state after : State Addr} {event : Event Addr} (conserved : Conserved state)
    (step : Intake.next cipher keys state event = some after) : Conserved after where
  placed := placed_next conserved.placed (moves_of_next step)
  numbered := numbered_next conserved.numbered (moves_of_next step)
  counted := counted_next conserved.counted (moves_of_next step)
  inLine := inLine_next conserved.inLine (moves_of_next step)
  batches := batches_next conserved.batches (moves_of_next step)
  queue := queue_next conserved.queue (moves_of_next step)
  running := running_next conserved.running (moves_of_next step)

theorem accounted_start (now : Nat) : Shared.Accounted (Backlog.start now : Backlog (Sender Addr)) where
  total := rfl
  waiting _ waits := nomatch waits

/-- In every run of the listeners and the tasks, each datagram that was received is in exactly one
place; what waits for the backlog task, and what may still join it, stands in the order of receipt;
the counter has what the listeners have read in full batches; and the tasks, the batches and the
backlog never exceed their bounds. -/
theorem intake_conserves (cipher : Cipher ObfsKey) (keys : List ObfsKey) (now : Nat)
    (totalReq : Option UInt64) (zero : ∀ total ∈ totalReq, total = 0) (trace : List (Event Addr))
    (state : State Addr)
    (ran : run (next cipher keys) (State.start now totalReq) trace = some state) :
    Conserved state ∧
      state.backlog.permits + state.running.length + state.backlog.spawned.length +
        state.backlog.task.permits = resolveSemaphore := by
  have conserved : Conserved state := run_invariant (conserved_start now zero)
    (fun _ _ _ conserved step => conserved.next step) ran
  obtain ⟨backlog, rfl, accounted⟩ := (simulation cipher keys).invariant
    (I := Shared.Accounted) (accounted_start now)
    (fun _ _ _ accounted step => accounted.move (backlogMoves_of_step step)) rfl ran
  rw [conserved.running]
  exact ⟨conserved, accounted.total⟩

/-- Two plain datagrams in one batch, and one that the first key opens. -/
def firstDatagrams : List (Event Nat) :=
  [.receive .plain [1] 0, .receive .obfs datagramA 1, .receive .plain [2] 0, .drained .plain,
    .drained .obfs, .dispatch .plain, .dispatch .obfs]

theorem exists_run_firstDatagrams : ∃ state : State Nat,
    run (next Cipher.tagged [7]) (State.start 0 (some 0)) firstDatagrams = some state := by
  have possible : (run (next Cipher.tagged [7]) (State.start 0 (some 0))
      firstDatagrams).isSome := by decide +kernel
  exact Option.isSome_iff_exists.mp possible

theorem intake_conserves_first : ∃ state : State Nat,
    run (next Cipher.tagged [7]) (State.start 0 (some 0)) firstDatagrams = some state ∧
    Conserved state ∧ state.backlog.permits + state.running.length +
      state.backlog.spawned.length + state.backlog.task.permits = resolveSemaphore := by
  obtain ⟨state, ran⟩ := exists_run_firstDatagrams
  exact ⟨state, ran, intake_conserves Cipher.tagged [7] 0 (some 0) (by simp) firstDatagrams state ran⟩

/-! ## Only calls that do not return are in the way -/

/-- A step of a listener or of a task. -/
def Event.isStep : Event Addr → Bool
  | .wait _ => false
  | .receive _ _ _ => false
  | _ => true

/-- Nothing is received, and no task ends but one whose call returns. -/
def Closed (returns : Nat → Prop) (state : State Addr) : Event Addr → Prop
  | .receive _ _ _ => False
  | .finish index => ∀ datagram ∈ state.running[index]?, returns datagram.sender.number
  | _ => True

instance (returns : Nat → Prop) [DecidablePred returns] (state : State Addr) :
    (event : Event Addr) → Decidable (Closed returns state event)
  | .receive _ _ _ => .isFalse id
  | .finish index =>
      inferInstanceAs (Decidable (∀ datagram ∈ state.running[index]?, returns datagram.sender.number))
  | .wait _ | .drained _ | .dispatch _ | .take | .acquire | .spawn | .handle _ => .isTrue trivial

/-- How many events a listener's batch may still need. -/
def Listener.work : Listener Addr → Nat
  | receiving => 0
  | draining batch => 1 + 7 * batch.length
  | dispatching batch => 7 * batch.length

/-- How many events the query between its age check and its task may still need. -/
def taskWork : BacklogTask (Sender Addr) → Nat
  | .receiving => 0
  | .acquiring _ => 5
  | .waiting _ => 4
  | .granted _ => 3

/-- How many events it may take until all that has been received is dealt with. -/
def State.work (state : State Addr) : Nat :=
  state.plain.work + state.obfs.work + 6 * state.backlog.queue.length + taskWork state.backlog.task +
    2 * state.backlog.spawned.length + state.running.length

@[simp]
theorem Listener.work_ofRest (rest : List (Datagram Addr)) :
    (Listener.ofRest rest).work = 7 * rest.length := by
  cases rest <;> rfl

theorem work_setListener (state : State Addr) (listener : Listener Addr) (side : Side) :
    (state.setListener listener side).work + (state.listener side).work =
      state.work + listener.work := by
  cases side <;> simp only [State.work, State.setListener, State.listener] <;> omega

/-- Every step of the listeners and the tasks leaves less to do. -/
theorem work_next {state after : State Addr} {event : Event Addr} (isStep : event.isStep = true)
    (moves : Moves cipher keys state event after) : after.work < state.work := by
  cases moves with
  | wait duration => cases isStep
  | receive received => cases isStep
  | @drained side batch drains =>
      have both := work_setListener state (.dispatching batch) side
      rw [drains, Listener.work, Listener.work] at both
      change (state.setListener (.dispatching batch) side).work < state.work
      omega
  | @run side datagram rest dispatches opens permit =>
      have both := work_setListener state (.ofRest rest) side
      rw [dispatches, Listener.work_ofRest, Listener.work, List.length_cons] at both
      have split : (state.setListener (.ofRest rest) side).work =
          (state.setListener (.ofRest rest) side).plain.work +
          (state.setListener (.ofRest rest) side).obfs.work + 6 * state.backlog.queue.length +
          taskWork state.backlog.task + 2 * state.backlog.spawned.length + state.running.length := by
        rw [State.work, State.backlog_setListener, State.running_setListener]
      change (state.setListener (.ofRest rest) side).plain.work +
          (state.setListener (.ofRest rest) side).obfs.work + 6 * state.backlog.queue.length +
          taskWork state.backlog.task + 2 * state.backlog.spawned.length +
          (state.running.length + 1) < state.work
      omega
  | @enqueue datagram rest dispatches none room =>
      have left : (Listener.dispatching (datagram :: rest)).work = 7 * (rest.length + 1) := rfl
      simp only [State.work, dispatches, left, Listener.work_ofRest, List.length_append,
        List.length_cons, List.length_nil]
      omega
  | @reject side datagram rest fate dispatches full undecodable =>
      have both := work_setListener state (.ofRest rest) side
      rw [dispatches, Listener.work_ofRest, Listener.work, List.length_cons] at both
      change (state.setListener (.ofRest rest) side).work < state.work
      omega
  | drop receives first stale =>
      simp only [State.work, first, List.length_cons]
      omega
  | take receives first fresh =>
      simp only [State.work, first, receives, taskWork, List.length_cons]
      omega
  | acquire acquires permit =>
      simp only [State.work, acquires, taskWork]
      omega
  | queueUp acquires none =>
      simp only [State.work, acquires, taskWork]
      omega
  | spawn granted =>
      simp only [State.work, granted, taskWork, List.length_cons]
      omega
  | handle found =>
      have inside := (List.getElem?_eq_some_iff.mp found).1
      simp only [State.work, List.length_eraseIdx_of_lt inside, List.length_cons]
      omega
  | grant found some waits =>
      have inside := (List.getElem?_eq_some_iff.mp found).1
      simp only [State.work, List.length_eraseIdx_of_lt inside, waits, taskWork]
      omega
  | finish found some noWaiter =>
      have inside := (List.getElem?_eq_some_iff.mp found).1
      simp only [State.work, List.length_eraseIdx_of_lt inside]
      omega

variable {returns : Nat → Prop}

theorem work_closed {state after : State Addr} {event : Event Addr}
    (closed : Closed returns state event) (step : next cipher keys state event = some after) :
    after.work + (if event.isStep then 1 else 0) ≤ state.work := by
  cases event with
  | wait duration =>
      cases step
      exact Nat.le_refl _
  | receive side bytes source => exact closed.elim
  | _ => exact work_next rfl (moves_of_next step)

/-- A step of a listener or of a task is possible. -/
def CanStep (cipher : Cipher ObfsKey) (keys : List ObfsKey) (returns : Nat → Prop)
    (state : State Addr) : Prop :=
  ∃ event after, event.isStep = true ∧ Closed returns state event ∧
    next cipher keys state event = some after

/-- A listener that has something to do can go on. -/
theorem listener_canStep {state : State Addr} {side : Side}
    (some : 0 < (state.listener side).work) : CanStep cipher keys returns state := by
  cases here : state.listener side with
  | receiving =>
      rw [here] at some
      contradiction
  | draining batch =>
      exact ⟨.drained side, _, rfl, trivial, by rw [next, here]⟩
  | dispatching batch =>
      cases batch with
      | nil =>
          rw [here] at some
          contradiction
      | cons datagram rest => exact ⟨.dispatch side, _, rfl, trivial, by rw [next, here]⟩

/-- What holds of every state a run of the listeners and the tasks can be in. -/
structure Sound (state : State Addr) : Prop where
  conserved : Conserved state
  accounted : Shared.Accounted state.backlog

theorem Sound.next {state after : State Addr} {event : Event Addr} (sound : Sound state)
    (step : Intake.next cipher keys state event = some after) : Sound after where
  conserved := sound.conserved.next step
  accounted := run_invariant sound.accounted
    (fun _ _ _ accounted step => accounted.move (backlogMoves_of_step step)) (run_backlogEvents step)

/-- A task that is running can end. -/
theorem exists_finish {backlog : Backlog (Sender Addr)} (running : 0 < backlog.running) :
    ∃ after, backlogStep backlog .finish = some after := by
  rw [backlogStep, if_pos running]
  cases backlog.task with
  | waiting query => exact ⟨_, rfl⟩
  | _ => exact ⟨_, rfl⟩

/-- A task whose call returns can end. -/
theorem finish_canStep {state : State Addr} (sound : Sound state) {datagram : Datagram Addr}
    (mem : datagram ∈ state.running) (ends : returns datagram.sender.number) :
    CanStep cipher keys returns state := by
  obtain ⟨index, found⟩ := List.mem_iff_getElem?.mp mem
  have running : 0 < state.backlog.running := by
    rw [← sound.conserved.running]
    exact List.length_pos_of_mem mem
  have closed : Closed returns state (.finish index) := by
    intro other here
    rw [found] at here
    cases here
    exact ends
  obtain ⟨after, stepped⟩ := exists_finish running
  exact ⟨.finish index, _, rfl, closed, by rw [next, found, stepped]; rfl⟩

theorem handle_canStep {state : State Addr} (some : 0 < state.backlog.spawned.length) :
    CanStep cipher keys returns state := by
  have found : state.backlog.spawned[0]? = .some state.backlog.spawned[0] :=
    List.getElem?_eq_getElem some
  exact ⟨.handle 0, _, rfl, trivial, by rw [next, found, backlogStep, found]; rfl⟩

theorem Listener.batch_eq_nil {listener : Listener Addr} (done : listener.work = 0) :
    listener.batch = [] := by
  cases listener with
  | receiving => rfl
  | draining batch =>
      rw [Listener.work] at done
      omega
  | dispatching batch =>
      change 7 * batch.length = 0 at done
      change batch = []
      exact List.eq_nil_of_length_eq_zero (by omega)

/-- Nothing is left but calls that do not return: they have all the permits, or everything else that
was received has met its fate, and they have all the permits that are not free. -/
structure Drained (returns : Nat → Prop) (state : State Addr) : Prop where
  batches : ∀ side, (state.listener side).batch = []
  running : ∀ datagram ∈ state.running, ¬ returns datagram.sender.number
  rest : state.running.length = resolveSemaphore ∨
    state.backlog.permits + state.running.length = resolveSemaphore ∧
      (state.gone.map Prod.fst ++ state.running).Perm state.received

/-- When the backlog is empty too, every datagram has met its fate or is with a running task. -/
theorem Sound.of_backlog_empty {state : State Addr} (sound : Sound state)
    (batches : ∀ side, (state.listener side).batch = []) (task : state.backlog.task = .receiving)
    (queue : state.backlog.queue = []) (spawned : state.backlog.spawned = []) :
    state.backlog.permits + state.running.length = resolveSemaphore ∧
      (state.gone.map Prod.fst ++ state.running).Perm state.received := by
  have placed := sound.conserved.placed
  have total := sound.accounted.total
  have plain : state.plain.batch = [] := batches .plain
  have obfs : state.obfs.batch = [] := batches .obfs
  rw [State.placed, State.batches, State.waiting, plain, obfs, queue, task, spawned] at placed
  rw [task, spawned, ← sound.conserved.running] at total
  refine ⟨total, ?_⟩
  rw [← Multiset.coe_eq_coe, placed, ← Multiset.coe_add, add_comm]
  exact congrArg (· + _) (zero_add _).symm

/-- Where nothing can go on, only calls that do not return are left. -/
theorem canStep_or_drained {state : State Addr} (sound : Sound state) :
    CanStep cipher keys returns state ∨ Drained returns state := by
  by_cases work : ∃ side, 0 < (state.listener side).work
  · obtain ⟨side, some⟩ := work
    exact .inl (listener_canStep some)
  have batches (side : Side) : (state.listener side).batch = [] :=
    Listener.batch_eq_nil (Nat.eq_zero_of_not_pos fun some => work ⟨side, some⟩)
  by_cases ending : ∃ datagram ∈ state.running, returns datagram.sender.number
  · obtain ⟨datagram, mem, ends⟩ := ending
    exact .inl (finish_canStep sound mem ends)
  have running : ∀ datagram ∈ state.running, ¬ returns datagram.sender.number :=
    fun datagram mem ends => ending ⟨datagram, mem, ends⟩
  rcases Nat.eq_zero_or_pos state.backlog.spawned.length with noSpawned | some
  · have spawned := List.eq_nil_of_length_eq_zero noSpawned
    cases task : state.backlog.task with
    | receiving =>
        cases queue : state.backlog.queue with
        | nil =>
            exact .inr ⟨batches, running, .inr (sound.of_backlog_empty batches task queue spawned)⟩
        | cons query rest =>
            left
            rcases Bool.eq_false_or_eq_true (query.isStale state.backlog.now) with old | fresh
            · exact ⟨.take, _, rfl, trivial, by simp only [next, task, queue, old, if_true]; rfl⟩
            · exact ⟨.take, _, rfl, trivial, by
                simp only [next, task, queue, fresh, Bool.false_eq_true, if_false]; rfl⟩
    | acquiring query =>
        left
        rcases Nat.eq_zero_or_pos state.backlog.permits with none | permit
        · exact ⟨.acquire, _, rfl, trivial, by rw [next, backlogStep, task]; simp only [none]; rfl⟩
        · exact ⟨.acquire, _, rfl, trivial, by
            rw [next, backlogStep, task]; simp only [permit, if_true]; rfl⟩
    | waiting query =>
        -- There is no free permit, so the running tasks have them all.
        have total := sound.accounted.total
        rw [sound.accounted.waiting query task, ← sound.conserved.running, noSpawned, task] at total
        change 0 + state.running.length + 0 + 0 = _ at total
        exact .inr ⟨batches, running, .inl (by omega)⟩
    | granted query =>
        exact .inl ⟨.spawn, _, rfl, trivial, by rw [next, backlogStep, task]; rfl⟩
  · exact .inl (handle_canStep some)

theorem received_closed {state after : State Addr} {event : Event Addr}
    (closed : Closed returns state event) (moves : Moves cipher keys state event after) :
    after.received = state.received := by
  cases moves with
  | receive received => exact closed.elim
  | drained drains => exact State.received_setListener _ _ _
  | run dispatches opens permit => exact State.received_setListener _ _ _
  | reject dispatches full undecodable => exact State.received_setListener _ _ _
  | _ => rfl

/-- The listeners, the backlog and the tasks are never stuck but on calls of `resolve_query` that do not
return.  Whichever calls do, in whatever order everything goes on, and whatever time passes: if no more
datagrams come, only so many steps are left, and until there are none one is possible (that a call
returns says nothing of how long it takes, or what it waits for).  In the end the listeners have nothing
left and no call that returns is running; and unless the calls that do not return have all the permits,
all others are free again, and every datagram that was received is with such a call, or was handled, or
dropped for one of the three reasons, exactly once. -/
theorem intake_drains (cipher : Cipher ObfsKey) (keys : List ObfsKey) (now : Nat)
    (totalReq : Option UInt64) (zero : ∀ total ∈ totalReq, total = 0) (trace : List (Event Addr))
    (state : State Addr)
    (ran : run (next cipher keys) (State.start now totalReq) trace = some state)
    (returns : Nat → Prop) (more : List (Event Addr)) (final : State Addr)
    (closed : Along (next cipher keys) (Closed returns) state more)
    (ranMore : run (next cipher keys) state more = some final) :
    more.countP Event.isStep ≤ state.work ∧ final.received = state.received ∧
      (CanStep cipher keys returns final ∨ Drained returns final) := by
  have sound : Sound state := run_invariant ⟨conserved_start now zero, accounted_start now⟩
    (fun _ _ _ sound step => sound.next step) ran
  have soundFinal : Sound final :=
    run_invariant sound (fun _ _ _ sound step => sound.next step) ranMore
  have less : ∀ (before : State Addr) event after, Sound before → Closed returns before event →
      next cipher keys before event = some after →
        after.work + (if event.isStep then 1 else 0) ≤ before.work :=
    fun _ _ _ _ closed step => work_closed closed step
  have steps := countP_add_le_of_run sound (fun _ _ _ sound step => sound.next step) less closed
    ranMore
  have same : final.received = state.received :=
    run_invariant_along (I := fun middle => middle.received = state.received) rfl
      (fun _ _ _ before closed step =>
        (received_closed closed (moves_of_next step)).trans before) closed ranMore
  exact ⟨(Nat.le_add_right _ _).trans steps, same, canStep_or_drained soundFinal⟩

/-- The plain queries are answered, and the call for the obfuscated one does not return. -/
def firstSteps : List (Event Nat) :=
  [.dispatch .plain, .wait 5, .finish 0, .finish 1]

theorem intake_drains_first : ∃ state final : State Nat,
    run (next Cipher.tagged [7]) (State.start 0 (some 0)) firstDatagrams = some state ∧
    run (next Cipher.tagged [7]) state firstSteps = some final ∧
    final.running.map (·.sender.number) = [1] ∧ firstSteps.countP Event.isStep ≤ state.work ∧
    final.received = state.received ∧
    (CanStep Cipher.tagged [7] (· ≠ 1) final ∨ Drained (· ≠ 1) final) := by
  have possible : (run (next Cipher.tagged [7]) (State.start 0 (some 0)) firstDatagrams).any
      (fun state => decide (Along (next Cipher.tagged [7]) (Closed (· ≠ 1)) state firstSteps ∧
        (run (next Cipher.tagged [7]) state firstSteps).map
          (fun final => final.running.map (·.sender.number)) = some [1])) := by
    decide +kernel
  obtain ⟨state, ran⟩ := exists_run_firstDatagrams
  rw [ran, Option.any_some, decide_eq_true_iff] at possible
  obtain ⟨closed, left⟩ := possible
  obtain ⟨final, ranMore, running⟩ := Option.map_eq_some_iff.mp left
  exact ⟨state, final, ran, ranMore, running, intake_drains Cipher.tagged [7] 0 (some 0) (by simp)
    firstDatagrams state ran (· ≠ 1) firstSteps final closed ranMore⟩

end DnsHijacker.DnsRelay.Intake
