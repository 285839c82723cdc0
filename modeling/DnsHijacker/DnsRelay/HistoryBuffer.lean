import DnsHijacker.DnsRelay.HistoryFile

/-!
# The history buffer

Calls of `push_many` put lookups into a bounded queue.  A full queue makes them
spawn a task that runs `flush`, which takes the queue, merges it into the file
and writes the file again; a flag lets only one such task exist.  `close` waits
until the flag is down and then runs `flush` itself, without the flag.

Any number of calls, the spawned tasks and the call of `close` take their steps
in any order.  An operation on the queue, on the flag or on the file is one
step; every file operation succeeds.
-/

namespace DnsHijacker.DnsRelay

open DnsHijacker.Rust

def CAP : Nat := 100

/-! ## `flush` -/

/-- The operation a call of `flush` does next. -/
inductive Flush where
  /-- `queue.pop()`, with the batch so far. -/
  | popping (batch : List HistoryBufferEntry)
  /-- `read_to_string` -/
  | reading (batch : List HistoryBufferEntry)
  /-- `File::create` -/
  | creating (out : Text)
  /-- `write_all` -/
  | writing (out : Text)
  | returned
  deriving DecidableEq

/-- What the calls of `flush` work on. -/
structure Store where
  queue : List HistoryBufferEntry
  /-- The bytes of the file, if it exists. -/
  file : Option Bytes
  /-- All lookups any call has popped, the latest first. -/
  popped : List HistoryBufferEntry
  deriving DecidableEq

/-- `read_to_string`, `none` for an error. -/
def Store.content (store : Store) : Option Text :=
  store.file.bind fromUtf8

/-- The maps after the batch is merged in. -/
def merged (content : Option Text) (batch : List HistoryBufferEntry) : Merge :=
  batch.foldl Merge.addEntry (Merge.readFile content)

/-- `write_all` at the start of the file. -/
def overwrite (file new : Bytes) : Bytes :=
  new ++ file.drop new.length

variable (linesCount : Nat) (matchedList : List Text)

/-- One operation of `flush`; `none` is a call that has returned or panics. -/
def flushStep (store : Store) : Flush → Option (Flush × Store)
  | .popping batch =>
      match store.queue with
      | entry :: queue =>
          some (.popping (batch ++ [entry]),
            { store with queue, popped := entry :: store.popped })
      | [] => some (if batch = [] then .returned else .reading batch, store)
  | .reading batch =>
      ((merged store.content batch).dropExcess linesCount).render.map fun out =>
        (.creating out, store)
  | .creating out => some (.writing out, { store with file := some [] })
  | .writing out =>
      some (.returned, { store with file := some (overwrite (store.file.getD []) (toUtf8 out)) })
  | .returned => none

/-! ## The callers -/

/-- The operation a call of `push_many` does next. -/
inductive Pusher where
  /-- `queue.push(entry)` -/
  | trying (entry : HistoryBufferEntry)
  /-- `try_spawn_flush` after the queue has rejected the entry. -/
  | rejected (entry : HistoryBufferEntry)
  /-- `queue.len() >= CAP` -/
  | pushed
  /-- `try_spawn_flush` after the queue was seen full. -/
  | full
  | returned

inductive Closer where
  | uncalled
  /-- `flushing.load(Acquire)` -/
  | waiting
  | running (flush : Flush)

/-- The call of `flush` by `close`. -/
def Closer.flushes : Closer → List Flush
  | .running flush => [flush]
  | _ => []

structure HistoryBuffer where
  store : Store
  flushing : Bool
  pushers : List Pusher
  /-- The spawned tasks that have not cleared the flag. -/
  spawned : List Flush
  closer : Closer

/-- A new buffer over a file that may exist already. -/
def HistoryBuffer.new (file : Option Bytes) : HistoryBuffer where
  store := ⟨[], file, []⟩
  flushing := false
  pushers := []
  spawned := []
  closer := .uncalled

inductive HistoryEvent where
  /-- `push_many` is called. -/
  | pushMany (domain : Text) (ips : List Text)
  /-- The call number `n` of `push_many` does its next operation. -/
  | pusher (n : Nat)
  /-- The spawned task number `n` does. -/
  | task (n : Nat)
  /-- `close` is called. -/
  | close
  /-- The call of `close` does its next operation. -/
  | closer

/-- `domain_matches(pattern, domain)` -/
def domainMatches (pattern domain : Text) : Bool :=
  match stripPrefix ['*'] pattern with
  | some suffix =>
      domain = suffix ∨ suffix.length < domain.length ∧ suffix <:+ domain ∧
        domain[domain.length - suffix.length - 1]? = some '.'
  | none => domain = pattern

namespace HistoryBuffer

/-- `try_spawn_flush`: the flag is taken and the task spawned, or nothing
happens. -/
def trySpawnFlush (buffer : HistoryBuffer) : HistoryBuffer :=
  if buffer.flushing then buffer
  else { buffer with flushing := true, spawned := buffer.spawned ++ [.popping []] }

/-- The call of `push_many` up to the loop. -/
def pushMany (buffer : HistoryBuffer) (domain : Text) (ips : List Text) : HistoryBuffer :=
  if ips = [] then buffer
  else if matchedList ≠ [] ∧ !(matchedList.any (domainMatches · domain)) then buffer
  else { buffer with pushers := buffer.pushers ++ [.trying (domain, ips)] }

/-- The next operation of call number `n`. -/
def pusherStep (buffer : HistoryBuffer) (n : Nat) : Pusher → Option HistoryBuffer
  | .trying entry =>
      if buffer.store.queue.length < CAP then
        some { buffer with
          store := { buffer.store with queue := buffer.store.queue ++ [entry] }
          pushers := buffer.pushers.set n .pushed }
      else some { buffer with pushers := buffer.pushers.set n (.rejected entry) }
  | .rejected entry =>
      some { buffer.trySpawnFlush with pushers := buffer.pushers.set n (.trying entry) }
  | .pushed =>
      let next := if CAP ≤ buffer.store.queue.length then .full else .returned
      some { buffer with pushers := buffer.pushers.set n next }
  | .full => some { buffer.trySpawnFlush with pushers := buffer.pushers.set n .returned }
  | .returned => none

/-- The next operation of the spawned task number `n`; after `flush` it clears
the flag. -/
def taskStep (buffer : HistoryBuffer) (n : Nat) : Flush → Option HistoryBuffer
  | .returned => some { buffer with flushing := false, spawned := buffer.spawned.eraseIdx n }
  | flush =>
      (flushStep linesCount buffer.store flush).map fun (flush, store) =>
        { buffer with store, spawned := buffer.spawned.set n flush }

/-- The next operation of `close`. -/
def closerStep (buffer : HistoryBuffer) : Closer → Option HistoryBuffer
  | .uncalled => none
  | .waiting =>
      some (if buffer.flushing then buffer else { buffer with closer := .running (.popping []) })
  | .running flush =>
      (flushStep linesCount buffer.store flush).map fun (flush, store) =>
        { buffer with store, closer := .running flush }

def step (buffer : HistoryBuffer) : HistoryEvent → Option HistoryBuffer
  | .pushMany domain ips => some (buffer.pushMany matchedList domain ips)
  | .pusher n => buffer.pushers[n]?.bind (buffer.pusherStep n)
  | .task n => buffer.spawned[n]?.bind (buffer.taskStep linesCount n)
  | .close =>
      match buffer.closer with
      | .uncalled => some { buffer with closer := .waiting }
      | _ => none
  | .closer => buffer.closerStep linesCount buffer.closer

end HistoryBuffer

end DnsHijacker.DnsRelay
