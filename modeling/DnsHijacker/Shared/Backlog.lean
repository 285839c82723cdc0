import DnsHijacker.Library.Run
import DnsHijacker.Shared.Cache

/-!
# The backlog of a busy server

The listener spawns a task for each query while there are permits and puts the
query into the backlog otherwise.  The backlog task takes the queries out one by
one, drops those that are too old, waits for a permit and spawns a task of its own,
which calls `handle_query`.  Both programs have this code.

A permit that is given back goes to the task that waits for one.
-/

namespace DnsHijacker.Shared

open DnsHijacker.Rust
open DnsHijacker.Library

/-- `RESOLVE_SEMAPHORE` -/
def resolveSemaphore : Nat :=
  512

/-- `BACKLOG_CAPACITY` -/
def backlogCapacity : Nat :=
  1024

/-- `MAX_BACKLOG_AGE_MS` -/
def maxBacklogAge : Nat :=
  800 * second / 1000

variable {Addr : Type}

/-- A query in the backlog. -/
structure Queued (Addr : Type) where
  payload : Bytes
  source : Addr
  enqueuedAt : Nat
  deriving DecidableEq

/-- The age check of the backlog task. -/
def Queued.isStale (query : Queued Addr) (now : Nat) : Bool :=
  maxBacklogAge < now - query.enqueuedAt

/-- At most `MAX_BACKLOG_AGE_MS` have passed since the query was enqueued. -/
def Queued.IsFresh (query : Queued Addr) (now : Nat) : Prop :=
  now ≤ query.enqueuedAt + maxBacklogAge

instance (query : Queued Addr) (now : Nat) : Decidable (query.IsFresh now) :=
  inferInstanceAs (Decidable (_ ≤ _))

theorem Queued.isFresh_iff {query : Queued Addr} {now : Nat} :
    query.IsFresh now ↔ query.isStale now = false := by
  rw [Queued.IsFresh, Queued.isStale, decide_eq_false_iff_not, Nat.not_lt, Nat.sub_le_iff_le_add']

/-- Where the backlog task is. -/
inductive BacklogTask (Addr : Type) where
  | receiving
  /-- The age check is done. -/
  | acquiring (query : Queued Addr)
  /-- There was no permit. -/
  | waiting (query : Queued Addr)
  | granted (query : Queued Addr)
  deriving DecidableEq

/-- The query between its age check and its task. -/
def BacklogTask.held : BacklogTask Addr → List (Queued Addr)
  | .receiving => []
  | .acquiring query => [query]
  | .waiting query => [query]
  | .granted query => [query]

/-- The permits the backlog task has. -/
def BacklogTask.permits : BacklogTask Addr → Nat
  | .receiving => 0
  | .acquiring _ => 0
  | .waiting _ => 0
  | .granted _ => 1

/-- A query of the backlog that was handed to `handle_query`. -/
structure HandedOver (Addr : Type) where
  query : Queued Addr
  time : Nat
  deriving DecidableEq

structure Backlog (Addr : Type) where
  now : Nat
  /-- The permits left. -/
  permits : Nat
  /-- The tasks that are resolving. -/
  running : Nat
  queue : List (Queued Addr)
  task : BacklogTask Addr
  /-- The tasks of the backlog that have not started. -/
  spawned : List (Queued Addr)
  /-- What the backlog has handed over so far. -/
  handedOver : List (HandedOver Addr)
  deriving DecidableEq

namespace Backlog

def start (now : Nat) : Backlog Addr where
  now := now
  permits := resolveSemaphore
  running := 0
  queue := []
  task := .receiving
  spawned := []
  handedOver := []

/-- The queries that have passed their age check and are not handed over. -/
def taken (backlog : Backlog Addr) : List (Queued Addr) :=
  backlog.task.held ++ backlog.spawned

end Backlog

inductive BacklogEvent (Addr : Type) where
  | wait (duration : Nat)
  /-- The listener receives a query. -/
  | receive (payload : Bytes) (source : Addr)
  /-- The listener for obfuscated queries, which has no backlog, receives one. -/
  | receiveObfs
  /-- The backlog task receives a query and checks its age. -/
  | take
  | acquire
  | spawn
  /-- One of the spawned tasks starts. -/
  | handle (index : Nat)
  /-- One of the running tasks ends. -/
  | finish
  deriving DecidableEq

/-- No time passes. -/
def BacklogEvent.IsUntimed : BacklogEvent Addr → Prop
  | .wait _ => False
  | _ => True

theorem BacklogEvent.isUntimed_or_eq_wait (event : BacklogEvent Addr) :
    event.IsUntimed ∨ ∃ duration, event = .wait duration := by
  cases event with
  | wait duration => exact .inr ⟨duration, rfl⟩
  | receive payload source => exact .inl trivial
  | receiveObfs => exact .inl trivial
  | take => exact .inl trivial
  | acquire => exact .inl trivial
  | spawn => exact .inl trivial
  | handle index => exact .inl trivial
  | finish => exact .inl trivial

/-- One event. -/
def backlogStep (backlog : Backlog Addr) : BacklogEvent Addr → Option (Backlog Addr)
  | .wait duration => some { backlog with now := backlog.now + duration }
  | .receive payload source =>
      if 0 < backlog.permits then
        some { backlog with permits := backlog.permits - 1, running := backlog.running + 1 }
      else if backlog.queue.length < backlogCapacity then
        some { backlog with queue := backlog.queue ++ [⟨payload, source, backlog.now⟩] }
      else some backlog
  | .receiveObfs =>
      if 0 < backlog.permits then
        some { backlog with permits := backlog.permits - 1, running := backlog.running + 1 }
      else some backlog
  | .take =>
      match backlog.task, backlog.queue with
      | .receiving, query :: queue =>
          if query.isStale backlog.now then some { backlog with queue }
          else some { backlog with queue, task := .acquiring query }
      | _, _ => none
  | .acquire =>
      match backlog.task with
      | .acquiring query =>
          if 0 < backlog.permits then
            some { backlog with permits := backlog.permits - 1, task := .granted query }
          else some { backlog with task := .waiting query }
      | _ => none
  | .spawn =>
      match backlog.task with
      | .granted query =>
          some { backlog with task := .receiving, spawned := query :: backlog.spawned }
      | _ => none
  | .handle index =>
      match backlog.spawned[index]? with
      | some query =>
          some { backlog with
            spawned := backlog.spawned.eraseIdx index
            running := backlog.running + 1
            handedOver := ⟨query, backlog.now⟩ :: backlog.handedOver }
      | none => none
  | .finish =>
      if 0 < backlog.running then
        match backlog.task with
        | .waiting query => some { backlog with running := backlog.running - 1, task := .granted query }
        | _ => some { backlog with running := backlog.running - 1, permits := backlog.permits + 1 }
      else none

/-- What the events do. -/
inductive BacklogMoves (backlog : Backlog Addr) : BacklogEvent Addr → Backlog Addr → Prop
  | wait (duration : Nat) :
      BacklogMoves backlog (.wait duration) { backlog with now := backlog.now + duration }
  | receive {payload : Bytes} {source : Addr} (permit : 0 < backlog.permits) :
      BacklogMoves backlog (.receive payload source)
        { backlog with permits := backlog.permits - 1, running := backlog.running + 1 }
  | enqueue {payload : Bytes} {source : Addr} :
      BacklogMoves backlog (.receive payload source)
        { backlog with queue := backlog.queue ++ [⟨payload, source, backlog.now⟩] }
  | reject {payload : Bytes} {source : Addr} : BacklogMoves backlog (.receive payload source) backlog
  | receiveObfs (permit : 0 < backlog.permits) :
      BacklogMoves backlog .receiveObfs
        { backlog with permits := backlog.permits - 1, running := backlog.running + 1 }
  | rejectObfs : BacklogMoves backlog .receiveObfs backlog
  | drop {queue : List (Queued Addr)} (receiving : backlog.task = .receiving) :
      BacklogMoves backlog .take { backlog with queue }
  | take {query : Queued Addr} {queue : List (Queued Addr)} (receiving : backlog.task = .receiving)
      (fresh : query.isStale backlog.now = false) :
      BacklogMoves backlog .take { backlog with queue, task := .acquiring query }
  | acquire {query : Queued Addr} (acquiring : backlog.task = .acquiring query)
      (permit : 0 < backlog.permits) :
      BacklogMoves backlog .acquire
        { backlog with permits := backlog.permits - 1, task := .granted query }
  | queueUp {query : Queued Addr} (acquiring : backlog.task = .acquiring query)
      (none : backlog.permits = 0) :
      BacklogMoves backlog .acquire { backlog with task := .waiting query }
  | spawn {query : Queued Addr} (granted : backlog.task = .granted query) :
      BacklogMoves backlog .spawn
        { backlog with task := .receiving, spawned := query :: backlog.spawned }
  | handle {index : Nat} {query : Queued Addr} (found : backlog.spawned[index]? = some query) :
      BacklogMoves backlog (.handle index)
        { backlog with
          spawned := backlog.spawned.eraseIdx index
          running := backlog.running + 1
          handedOver := ⟨query, backlog.now⟩ :: backlog.handedOver }
  | grant {query : Queued Addr} (waiting : backlog.task = .waiting query)
      (some : 0 < backlog.running) :
      BacklogMoves backlog .finish
        { backlog with running := backlog.running - 1, task := .granted query }
  | finish (noWaiter : ∀ query, backlog.task ≠ .waiting query) (some : 0 < backlog.running) :
      BacklogMoves backlog .finish
        { backlog with running := backlog.running - 1, permits := backlog.permits + 1 }

theorem backlogMoves_of_step {backlog after : Backlog Addr} {event : BacklogEvent Addr}
    (stepped : backlogStep backlog event = some after) : BacklogMoves backlog event after := by
  cases event with
  | wait duration =>
      cases stepped
      exact .wait duration
  | receive payload source =>
      rw [backlogStep] at stepped
      split at stepped
      · rename_i permit
        cases stepped
        exact .receive permit
      · split at stepped
        · cases stepped
          exact .enqueue
        · cases stepped
          exact .reject
  | receiveObfs =>
      rw [backlogStep] at stepped
      split at stepped
      · rename_i permit
        cases stepped
        exact .receiveObfs permit
      · cases stepped
        exact .rejectObfs
  | take =>
      rw [backlogStep] at stepped
      split at stepped
      · rename_i query queue receiving _
        split at stepped
        · cases stepped
          exact .drop receiving
        · rename_i fresh
          cases stepped
          exact .take receiving (Bool.eq_false_iff.mpr fresh)
      · contradiction
  | acquire =>
      rw [backlogStep] at stepped
      split at stepped
      · rename_i query acquiring
        split at stepped
        · rename_i permit
          cases stepped
          exact .acquire acquiring permit
        · rename_i none
          cases stepped
          exact .queueUp acquiring (Nat.eq_zero_of_not_pos none)
      · contradiction
  | spawn =>
      rw [backlogStep] at stepped
      split at stepped
      · rename_i query granted
        cases stepped
        exact .spawn granted
      · contradiction
  | handle index =>
      rw [backlogStep] at stepped
      split at stepped
      · rename_i query found
        cases stepped
        exact .handle found
      · contradiction
  | finish =>
      rw [backlogStep] at stepped
      split at stepped
      · rename_i some
        split at stepped
        · rename_i query waiting
          cases stepped
          exact .grant waiting some
        · rename_i noWaiter
          cases stepped
          exact .finish noWaiter some
      · contradiction

/-! ## How old a query gets -/

/-- Every query was handed over in time. -/
def HandsOverFresh (backlog : Backlog Addr) : Prop :=
  ∀ handed ∈ backlog.handedOver, handed.query.IsFresh handed.time

/-- So was every query so far, and those that will be handed over are not too old
yet. -/
structure AllFresh (backlog : Backlog Addr) : Prop where
  handedOver : HandsOverFresh backlog
  taken : ∀ query ∈ backlog.taken, query.IsFresh backlog.now

/-- No query that has passed its age check gets too old while time passes. -/
def TakenStayFresh (backlog : Backlog Addr) : BacklogEvent Addr → Prop
  | .wait duration => ∀ query ∈ backlog.taken, query.IsFresh (backlog.now + duration)
  | _ => True

theorem takenStayFresh_of_untimed {backlog : Backlog Addr} {event : BacklogEvent Addr}
    (untimed : event.IsUntimed) : TakenStayFresh backlog event := by
  cases event with
  | wait duration => contradiction
  | receive payload source => trivial
  | receiveObfs => trivial
  | take => trivial
  | acquire => trivial
  | spawn => trivial
  | handle index => trivial
  | finish => trivial

theorem allFresh_of_same {backlog after : Backlog Addr}
    (handedOver : after.handedOver = backlog.handedOver) (now : after.now = backlog.now)
    (taken : after.taken = backlog.taken) : AllFresh after ↔ AllFresh backlog := by
  constructor
  · rintro ⟨handedFresh, takenFresh⟩
    constructor
    · rw [HandsOverFresh, ← handedOver]
      exact handedFresh
    · rw [← taken, ← now]
      exact takenFresh
  · rintro ⟨handedFresh, takenFresh⟩
    constructor
    · rw [HandsOverFresh, handedOver]
      exact handedFresh
    · rw [taken, now]
      exact takenFresh

theorem allFresh_wait {backlog : Backlog Addr} (duration : Nat) :
    AllFresh { backlog with now := backlog.now + duration } ↔
      AllFresh backlog ∧ ∀ query ∈ backlog.taken, query.IsFresh (backlog.now + duration) := by
  constructor
  · rintro ⟨handedFresh, takenFresh⟩
    refine ⟨⟨handedFresh, ?_⟩, takenFresh⟩
    intro query mem
    exact (Nat.le_add_right _ duration).trans (takenFresh query mem)
  · rintro ⟨before, takenFresh⟩
    exact ⟨before.handedOver, takenFresh⟩

theorem allFresh_take {backlog : Backlog Addr} {query : Queued Addr} {queue : List (Queued Addr)}
    (receiving : backlog.task = .receiving) (fresh : query.IsFresh backlog.now) :
    AllFresh { backlog with queue, task := .acquiring query } ↔ AllFresh backlog := by
  have taken : backlog.taken = backlog.spawned := by
    rw [Backlog.taken, receiving]
    rfl
  constructor
  · rintro ⟨handedFresh, takenFresh⟩
    refine ⟨handedFresh, ?_⟩
    rw [taken]
    intro other mem
    exact takenFresh other (List.mem_cons_of_mem _ mem)
  · rintro ⟨handedFresh, takenFresh⟩
    refine ⟨handedFresh, List.forall_mem_cons.mpr ⟨fresh, ?_⟩⟩
    rw [← taken]
    exact takenFresh

theorem allFresh_handle {backlog : Backlog Addr} {query : Queued Addr} {index : Nat}
    (found : backlog.spawned[index]? = some query) :
    AllFresh { backlog with
      spawned := backlog.spawned.eraseIdx index
      running := backlog.running + 1
      handedOver := ⟨query, backlog.now⟩ :: backlog.handedOver } ↔ AllFresh backlog := by
  obtain ⟨inside, rfl⟩ := List.getElem?_eq_some_iff.mp found
  have split : ∀ other, other ∈ backlog.spawned ↔
      other = backlog.spawned[index] ∨ other ∈ backlog.spawned.eraseIdx index := by
    intro other
    rw [← (List.getElem_cons_eraseIdx_perm inside).mem_iff, List.mem_cons]
  constructor
  · rintro ⟨handedFresh, takenFresh⟩
    rw [HandsOverFresh, List.forall_mem_cons] at handedFresh
    refine ⟨handedFresh.2, ?_⟩
    intro other mem
    rcases List.mem_append.mp mem with held | spawned
    · exact takenFresh other (List.mem_append_left _ held)
    · rcases (split other).mp spawned with rfl | later
      · exact handedFresh.1
      · exact takenFresh other (List.mem_append_right _ later)
  · rintro ⟨handedFresh, takenFresh⟩
    constructor
    · rw [HandsOverFresh, List.forall_mem_cons]
      exact ⟨takenFresh _ (List.mem_append_right _ ((split _).mpr (.inl rfl))), handedFresh⟩
    · intro other mem
      rcases List.mem_append.mp mem with held | later
      · exact takenFresh other (List.mem_append_left _ held)
      · exact takenFresh other (List.mem_append_right _ ((split other).mpr (.inr later)))

/-- A step without time changes nothing. -/
theorem allFresh_iff_of_untimed {backlog after : Backlog Addr} {event : BacklogEvent Addr}
    (untimed : event.IsUntimed) (moves : BacklogMoves backlog event after) :
    AllFresh after ↔ AllFresh backlog := by
  cases moves with
  | wait duration => contradiction
  | receive permit => exact allFresh_of_same rfl rfl rfl
  | enqueue => exact allFresh_of_same rfl rfl rfl
  | reject => rfl
  | receiveObfs permit => exact allFresh_of_same rfl rfl rfl
  | rejectObfs => rfl
  | drop receiving => exact allFresh_of_same rfl rfl rfl
  | take receiving fresh => exact allFresh_take receiving (Queued.isFresh_iff.mpr fresh)
  | acquire acquiring permit =>
      refine allFresh_of_same rfl rfl ?_
      rw [Backlog.taken, Backlog.taken, acquiring]
      rfl
  | queueUp acquiring none =>
      refine allFresh_of_same rfl rfl ?_
      rw [Backlog.taken, Backlog.taken, acquiring]
      rfl
  | spawn granted =>
      refine allFresh_of_same rfl rfl ?_
      rw [Backlog.taken, Backlog.taken, granted]
      rfl
  | handle found => exact allFresh_handle found
  | grant waiting some =>
      refine allFresh_of_same rfl rfl ?_
      rw [Backlog.taken, Backlog.taken, waiting]
      rfl
  | finish noWaiter some => exact allFresh_of_same rfl rfl rfl

theorem allFresh_iff_of_moves {backlog after : Backlog Addr} {event : BacklogEvent Addr}
    (moves : BacklogMoves backlog event after) :
    AllFresh after ↔ AllFresh backlog ∧ TakenStayFresh backlog event := by
  rcases event.isUntimed_or_eq_wait with untimed | ⟨duration, rfl⟩
  · rw [allFresh_iff_of_untimed untimed moves]
    exact (and_iff_left (takenStayFresh_of_untimed untimed)).symm
  · cases moves with
    | wait => exact allFresh_wait duration

theorem allFresh_start (now : Nat) : AllFresh (Backlog.start now : Backlog Addr) where
  handedOver _ mem := nomatch mem
  taken _ mem := nomatch mem

theorem allFresh_iff {now : Nat} {trace : List (BacklogEvent Addr)} {backlog : Backlog Addr}
    (ran : run backlogStep (Backlog.start now) trace = some backlog) :
    AllFresh backlog ↔ Along backlogStep TakenStayFresh (Backlog.start now) trace := by
  apply along_iff (I := fun _ => True) trivial (allFresh_start now) _ _ ran
  · intro _ _ _ _ _
    trivial
  · intro state event after _ stepped
    exact allFresh_iff_of_moves (backlogMoves_of_step stepped)

/-! ## What has been taken is handed over -/

/-- The permits are shared out between the tasks, and the backlog task waits only while
there is none. -/
structure Accounted (backlog : Backlog Addr) : Prop where
  total : backlog.permits + backlog.running + backlog.spawned.length + backlog.task.permits =
    resolveSemaphore
  waiting : ∀ query, backlog.task = .waiting query → backlog.permits = 0

theorem Accounted.move {backlog after : Backlog Addr} {event : BacklogEvent Addr}
    (accounted : Accounted backlog) (moves : BacklogMoves backlog event after) :
    Accounted after := by
  have total := accounted.total
  cases moves with
  | wait duration => exact ⟨total, accounted.waiting⟩
  | receive permit =>
      refine ⟨?_, fun query waiting => ?_⟩
      · dsimp only
        omega
      · rw [accounted.waiting query waiting]
  | enqueue => exact ⟨total, accounted.waiting⟩
  | reject => exact accounted
  | receiveObfs permit =>
      refine ⟨?_, fun query waiting => ?_⟩
      · dsimp only
        omega
      · rw [accounted.waiting query waiting]
  | rejectObfs => exact accounted
  | drop receiving => exact ⟨total, accounted.waiting⟩
  | take receiving fresh =>
      rw [receiving] at total
      exact ⟨total, fun query waiting => nomatch waiting⟩
  | acquire acquiring permit =>
      rw [acquiring, BacklogTask.permits] at total
      refine ⟨?_, fun query waiting => nomatch waiting⟩
      dsimp only [BacklogTask.permits]
      omega
  | queueUp acquiring none =>
      rw [acquiring] at total
      exact ⟨total, fun query waiting => none⟩
  | spawn granted =>
      rw [granted, BacklogTask.permits] at total
      refine ⟨?_, fun query waiting => nomatch waiting⟩
      dsimp only [BacklogTask.permits, List.length_cons]
      omega
  | handle found =>
      have inside := (List.getElem?_eq_some_iff.mp found).1
      refine ⟨?_, accounted.waiting⟩
      dsimp only
      rw [List.length_eraseIdx_of_lt inside]
      omega
  | grant waiting some =>
      rw [waiting, BacklogTask.permits] at total
      refine ⟨?_, fun query waiting => nomatch waiting⟩
      dsimp only [BacklogTask.permits]
      omega
  | finish noWaiter some =>
      refine ⟨?_, fun query waiting => absurd waiting (noWaiter query)⟩
      dsimp only
      omega

theorem accounted_of_run {now : Nat} {trace : List (BacklogEvent Addr)} {backlog : Backlog Addr}
    (ran : run backlogStep (Backlog.start now) trace = some backlog) : Accounted backlog := by
  apply run_invariant (I := Accounted) _ _ ran
  · exact ⟨rfl, fun query waiting => nomatch waiting⟩
  · intro state event after accounted stepped
    exact accounted.move (backlogMoves_of_step stepped)

/-- The tasks may hand it over before any time passes. -/
def Yields (backlog : Backlog Addr) (handed : HandedOver Addr) : Prop :=
  ∃ more final, (∀ event ∈ more, event.IsUntimed) ∧ run backlogStep backlog more = some final ∧
    handed ∈ final.handedOver

theorem Yields.of_step {backlog after : Backlog Addr} {event : BacklogEvent Addr}
    {handed : HandedOver Addr} (yields : Yields after handed)
    (stepped : backlogStep backlog event = some after) (untimed : event.IsUntimed) :
    Yields backlog handed := by
  rcases yields with ⟨more, final, each, ran, mem⟩
  refine ⟨event :: more, final, List.forall_mem_cons.mpr ⟨untimed, each⟩, ?_, mem⟩
  exact run_cons_eq_some_iff.mpr ⟨after, stepped, ran⟩

theorem yields_of_spawned {backlog : Backlog Addr} {query : Queued Addr}
    (mem : query ∈ backlog.spawned) : Yields backlog ⟨query, backlog.now⟩ := by
  obtain ⟨index, found⟩ := List.mem_iff_getElem?.mp mem
  have stepped : backlogStep backlog (.handle index) = some { backlog with
      spawned := backlog.spawned.eraseIdx index
      running := backlog.running + 1
      handedOver := ⟨query, backlog.now⟩ :: backlog.handedOver } := by
    rw [backlogStep, found]
  refine ⟨[.handle index], _, List.forall_mem_singleton.mpr trivial,
    run_cons_eq_some_iff.mpr ⟨_, stepped, rfl⟩, ?_⟩
  exact List.mem_cons_self

theorem yields_of_granted {backlog : Backlog Addr} {query : Queued Addr}
    (granted : backlog.task = .granted query) : Yields backlog ⟨query, backlog.now⟩ := by
  have stepped : backlogStep backlog .spawn =
      some { backlog with task := .receiving, spawned := query :: backlog.spawned } := by
    rw [backlogStep, granted]
  have later : Yields { backlog with task := .receiving, spawned := query :: backlog.spawned }
      ⟨query, backlog.now⟩ := yields_of_spawned List.mem_cons_self
  exact later.of_step stepped trivial

theorem yields_of_running {backlog : Backlog Addr} {query : Queued Addr}
    (waiting : backlog.task = .waiting query) (some : 0 < backlog.running) :
    Yields backlog ⟨query, backlog.now⟩ := by
  have stepped : backlogStep backlog .finish =
      .some { backlog with running := backlog.running - 1, task := .granted query } := by
    rw [backlogStep, if_pos some, waiting]
  have later : Yields { backlog with running := backlog.running - 1, task := .granted query }
      ⟨query, backlog.now⟩ := yields_of_granted rfl
  exact later.of_step stepped trivial

/-- The permits are out, so some task has one: it runs, or it is spawned and can
start. -/
theorem yields_of_waiting {backlog : Backlog Addr} {query : Queued Addr}
    (accounted : Accounted backlog) (waiting : backlog.task = .waiting query) :
    Yields backlog ⟨query, backlog.now⟩ := by
  by_cases some : 0 < backlog.running
  · exact yields_of_running waiting some
  · have out : 0 < backlog.spawned.length := by
      have total := accounted.total
      rw [accounted.waiting query waiting, Nat.eq_zero_of_not_pos some, waiting] at total
      dsimp only [BacklogTask.permits, resolveSemaphore] at total
      omega
    have stepped : backlogStep backlog (.handle 0) = .some { backlog with
        spawned := backlog.spawned.eraseIdx 0
        running := backlog.running + 1
        handedOver := ⟨backlog.spawned[0], backlog.now⟩ :: backlog.handedOver } := by
      rw [backlogStep, List.getElem?_eq_getElem out]
    have later : Yields { backlog with
        spawned := backlog.spawned.eraseIdx 0
        running := backlog.running + 1
        handedOver := ⟨backlog.spawned[0], backlog.now⟩ :: backlog.handedOver }
        ⟨query, backlog.now⟩ := yields_of_running waiting (Nat.succ_pos _)
    exact later.of_step stepped trivial

theorem yields_of_acquiring {backlog : Backlog Addr} {query : Queued Addr}
    (accounted : Accounted backlog) (acquiring : backlog.task = .acquiring query) :
    Yields backlog ⟨query, backlog.now⟩ := by
  by_cases permit : 0 < backlog.permits
  · have stepped : backlogStep backlog .acquire =
        some { backlog with permits := backlog.permits - 1, task := .granted query } := by
      rw [backlogStep, acquiring]
      exact if_pos permit
    have later : Yields { backlog with permits := backlog.permits - 1, task := .granted query }
        ⟨query, backlog.now⟩ := yields_of_granted rfl
    exact later.of_step stepped trivial
  · have stepped : backlogStep backlog .acquire =
        some { backlog with task := .waiting query } := by
      rw [backlogStep, acquiring]
      exact if_neg permit
    have next := accounted.move (backlogMoves_of_step stepped)
    have later : Yields { backlog with task := .waiting query } ⟨query, backlog.now⟩ :=
      yields_of_waiting next rfl
    exact later.of_step stepped trivial

/-- A query that has passed its age check can be handed over before any time
passes. -/
theorem yields_of_taken {backlog : Backlog Addr} {query : Queued Addr}
    (accounted : Accounted backlog) (mem : query ∈ backlog.taken) :
    Yields backlog ⟨query, backlog.now⟩ := by
  rcases List.mem_append.mp mem with held | spawned
  · cases task : backlog.task with
    | receiving =>
        rw [task] at held
        contradiction
    | acquiring other =>
        rw [task] at held
        rw [List.mem_singleton.mp held]
        exact yields_of_acquiring accounted task
    | waiting other =>
        rw [task] at held
        rw [List.mem_singleton.mp held]
        exact yields_of_waiting accounted task
    | granted other =>
        rw [task] at held
        rw [List.mem_singleton.mp held]
        exact yields_of_granted task
  · exact yields_of_spawned spawned

/-- Whatever the tasks do before more time passes, every query of the backlog has been
handed over in time. -/
def HandsOverInTime (backlog : Backlog Addr) : Prop :=
  ∀ more final, (∀ event ∈ more, event.IsUntimed) → run backlogStep backlog more = some final →
    HandsOverFresh final

/-- A run hands over every query of the backlog in time exactly if no query gets too
old between its age check and its task. -/
theorem handed_over_fresh_iff {now : Nat} {trace : List (BacklogEvent Addr)}
    {backlog : Backlog Addr}
    (ran : run backlogStep (Backlog.start now) trace = some backlog) :
    HandsOverInTime backlog ↔ Along backlogStep TakenStayFresh (Backlog.start now) trace := by
  rw [← allFresh_iff ran]
  constructor
  · intro fresh
    constructor
    · exact fresh [] backlog (by simp) rfl
    · intro query mem
      obtain ⟨more, final, each, later, handed⟩ := yields_of_taken (accounted_of_run ran) mem
      exact fresh more final each later _ handed
  · intro allFresh more final each later
    have kept : AllFresh final := by
      apply run_invariant_along (I := AllFresh) allFresh _ (along_of_forall_mem each backlog) later
      intro state event after before untimed stepped
      exact (allFresh_iff_of_untimed untimed (backlogMoves_of_step stepped)).mpr before
    exact kept.handedOver

/-! ## A busy server -/

/-- The listener spawns a task for each query while there are permits. -/
theorem run_receive {backlog : Backlog Addr} (payload : Bytes) (source : Addr) {count : Nat}
    (permits : count ≤ backlog.permits) :
    run backlogStep backlog (List.replicate count (.receive payload source)) =
      some { backlog with
        permits := backlog.permits - count
        running := backlog.running + count } := by
  induction count generalizing backlog with
  | zero => rfl
  | succ count ih =>
      have permit : 0 < backlog.permits := Nat.zero_lt_of_lt permits
      rw [List.replicate_succ, run, backlogStep, if_pos permit, Option.bind_some, ih]
      · simp only [Nat.sub_sub, Nat.add_assoc, Nat.add_comm 1 count]
      · exact Nat.le_sub_of_add_le permits

/-- A query for the addresses of `a`. -/
def smallQuery : Bytes :=
  [0x12, 0x34, 0x01, 0x00, 0, 1, 0, 0, 0, 0, 0, 0] ++ [0x01, 0x61, 0x00, 0, 1, 0, 1]

/-- There are as many queries as permits, and one more, whose age is checked at
once. -/
def busy : List (BacklogEvent Nat) :=
  List.replicate resolveSemaphore (.receive smallQuery 0) ++
    [.receive smallQuery 1, .take, .acquire]

/-- After some time a task ends and the query gets its permit. -/
def resumedAfter (duration : Nat) : List (BacklogEvent Nat) :=
  busy ++ [.wait duration, .finish, .spawn, .handle 0]

/-- The server when the backlog task waits for a permit. -/
def waitingBacklog : Backlog Nat where
  now := 0
  permits := 0
  running := resolveSemaphore
  queue := []
  task := .waiting ⟨smallQuery, 1, 0⟩
  spawned := []
  handedOver := []

theorem run_busy : run backlogStep (Backlog.start 0) busy = some waitingBacklog := by
  have full : run backlogStep (Backlog.start 0)
      (List.replicate resolveSemaphore (.receive smallQuery 0)) =
        some { waitingBacklog with task := .receiving } :=
    run_receive smallQuery 0 (Nat.le_refl _)
  rw [busy, run_append, full]
  rfl

theorem along_of_untimed {trace : List (BacklogEvent Addr)}
    (each : ∀ event ∈ trace, event.IsUntimed) (backlog : Backlog Addr) :
    Along backlogStep TakenStayFresh backlog trace := by
  induction trace generalizing backlog with
  | nil => trivial
  | cons event trace ih =>
      rw [List.forall_mem_cons] at each
      exact ⟨takenStayFresh_of_untimed each.1, fun middle _ => ih each.2 middle⟩

/-- The server after the query has been handed over. -/
theorem run_resumedAfter (duration : Nat) :
    run backlogStep (Backlog.start 0) (resumedAfter duration) =
      some { waitingBacklog with
        now := duration
        task := .receiving
        handedOver := [⟨⟨smallQuery, 1, 0⟩, duration⟩] } := by
  rw [resumedAfter, run_append, run_busy, waitingBacklog, Option.bind_some, run, backlogStep,
    Nat.zero_add]
  rfl

/-- A query that waits no longer than `MAX_BACKLOG_AGE_MS` is in time. -/
theorem handed_over_fresh_resumed : HandsOverInTime { waitingBacklog with
    now := maxBacklogAge
    task := .receiving
    handedOver := [⟨⟨smallQuery, 1, 0⟩, maxBacklogAge⟩] } := by
  apply (handed_over_fresh_iff (run_resumedAfter maxBacklogAge)).mpr
  rw [resumedAfter, along_append]
  constructor
  · apply along_of_untimed
    intro event mem
    rcases List.mem_append.mp mem with full | last
    · rw [List.eq_of_mem_replicate full]
      trivial
    · have each : ∀ event ∈ [.receive smallQuery 1, .take, .acquire],
          (event : BacklogEvent Nat).IsUntimed := by simp [BacklogEvent.IsUntimed]
      exact each event last
  · intro middle ran
    rw [run_busy] at ran
    cases ran
    constructor
    · intro query mem
      rw [List.mem_singleton.mp mem]
      exact Nat.le_refl _
    · intro later _
      exact along_of_untimed (by simp [BacklogEvent.IsUntimed]) later

/-- After ten seconds the query is handed over all the same. -/
theorem stale_handed_over : ∃ backlog,
    run backlogStep (Backlog.start 0) (resumedAfter (10 * second)) = some backlog ∧
      ¬ HandsOverFresh backlog := by
  refine ⟨_, run_resumedAfter (10 * second), ?_⟩
  intro fresh
  have inTime := fresh _ List.mem_cons_self
  contradiction

end DnsHijacker.Shared
