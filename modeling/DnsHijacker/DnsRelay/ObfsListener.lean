import DnsHijacker.Library.Run
import DnsHijacker.Shared.Obfs
import DnsHijacker.DnsRelay.HandlerSpec

/-!
# The listener for obfuscated queries

`run_obfs_listener` decodes every datagram it receives, and a task of its own
resolves the query and seals the reply.  The listener takes what has queued up
in batches; a batch is handled one datagram after the other.

The listener keeps nothing about a datagram once its task has ended.  What is
recorded here about the datagrams of a run (the deliveries, the tasks, the
replies) is there for the statements only.
-/

namespace DnsHijacker.DnsRelay

open DnsHijacker.Rust
open DnsHijacker.Library
open DnsHijacker.Wire
open DnsHijacker.Shared
open DnsHijacker.Shared.Dns
open DnsHijacker.Shared.Obfs

/-- `PAYLOAD_BUF_SIZE` -/
def payloadBufSize : Nat :=
  1024

/-- `OBFS_PAYLOAD_BUF_SIZE` -/
def obfsPayloadBufSize : Nat :=
  payloadBufSize + nonceLen + tagLen + lenPrefix + padMax + 64

variable {ObfsKey Addr : Type} (cipher : Cipher ObfsKey)

/-- The first key that decodes the datagram, and the query under it. -/
def openDatagram (keys : List ObfsKey) (datagram : Bytes) : Option (ObfsKey × Bytes) :=
  keys.findSome? fun key => (decode cipher key datagram).map fun query => (key, query)

variable {cipher}

/-- A datagram opens under its own key, if all other keys reject it. -/
theorem openDatagram_encode {keys : List ObfsKey} {key : ObfsKey} (mem : key ∈ keys)
    (rejects : ∀ other ∈ keys, other ≠ key → cipher.Rejects other key)
    {query : Bytes} (short : query.length < 65536) (draw : Draw) :
    openDatagram cipher keys (encode cipher key query draw) = some (key, query) := by
  induction keys with
  | nil => contradiction
  | cons first rest ih =>
      rw [openDatagram, List.findSome?_cons]
      by_cases same : first = key
      · rw [same, decode_encode key short draw]
        rfl
      · rw [decode_encode_other (rejects first List.mem_cons_self same) query draw]
        refine ih ?_ fun other later => rejects other (List.mem_cons_of_mem first later)
        rcases List.mem_cons.mp mem with rfl | later
        · contradiction
        · exact later

theorem decode_of_openDatagram {keys : List ObfsKey} {datagram query : Bytes} {key : ObfsKey}
    (opened : openDatagram cipher keys datagram = some (key, query)) :
    decode cipher key datagram = some query := by
  rcases List.exists_of_findSome?_eq_some opened with ⟨found, _, decoded⟩
  rcases Option.map_eq_some_iff.mp decoded with ⟨_, decoded, same⟩
  cases same
  exact decoded

/-- The buffer of the listener holds the datagram of every query the proxy can
receive. -/
theorem take_obfsPayloadBufSize (key : ObfsKey) {query : Bytes}
    (short : query.length ≤ payloadBufSize) (draw : Draw) :
    (encode cipher key query draw).take obfsPayloadBufSize = encode cipher key query draw := by
  have padding := draw.le_padMax
  apply List.take_of_length_le
  rw [length_encode, obfsPayloadBufSize, overhead]
  omega

/-! ## Tasks -/

/-- A query whose datagram has been decoded. -/
structure ObfsTask (ObfsKey Addr : Type) where
  /-- Which delivery of the run this is. -/
  arrival : Nat
  datagram : Bytes
  /-- The same datagram had been delivered before. -/
  repeated : Bool
  source : Addr
  key : ObfsKey
  query : Bytes

/-- Where the task is in `resolve_query`. -/
inductive Stage where
  | spawned (ruleTrie : DomainTrie)
  | waiting (domain : Text) (cacheKey : CacheKey)

/-- A reply that was sent to the source of a query. -/
structure ObfsReply (ObfsKey Addr : Type) where
  task : ObfsTask ObfsKey Addr
  content : Bytes
  datagram : Bytes

structure ObfsListener (ObfsKey Addr : Type) where
  relay : RelayState
  running : List (ObfsTask ObfsKey Addr × Stage)
  received : List Bytes
  dispatched : List (ObfsTask ObfsKey Addr)
  replies : List (ObfsReply ObfsKey Addr)

inductive ObfsEvent (Addr : Type) where
  /-- A datagram comes in; `permit` tells whether `resolve_sem` has a permit. -/
  | receive (datagram : Bytes) (source : Addr) (ruleTrie : DomainTrie) (permit : Bool)
  /-- A spawned task runs up to its reply or to its upstream call. -/
  | start (arrival : Nat) (now : Nat) (draw : Draw)
  /-- The upstream call of a task ends. -/
  | deliver (arrival : Nat) (delivery : Delivery) (now : Nat) (draw : Draw)

namespace ObfsListener

def start (relay : RelayState) : ObfsListener ObfsKey Addr where
  relay := relay
  running := []
  received := []
  dispatched := []
  replies := []

/-- The loop body of `run_obfs_listener` for one datagram. -/
def receive (cipher : Cipher ObfsKey) (keys : List ObfsKey)
    (listener : ObfsListener ObfsKey Addr) (datagram : Bytes) (source : Addr)
    (ruleTrie : DomainTrie) (permit : Bool) : ObfsListener ObfsKey Addr :=
  match openDatagram cipher keys (datagram.take obfsPayloadBufSize) with
  | none => { listener with received := datagram :: listener.received }
  | some (key, query) =>
      if permit then
        let task : ObfsTask ObfsKey Addr := {
          arrival := listener.received.length
          datagram
          repeated := listener.received.contains datagram
          source
          key
          query }
        { listener with
          received := datagram :: listener.received
          dispatched := task :: listener.dispatched
          running := (task, .spawned ruleTrie) :: listener.running }
      else { listener with received := datagram :: listener.received }

/-- The end of a task, with what `resolve_query` returned. -/
def finish (cipher : Cipher ObfsKey) (listener : ObfsListener ObfsKey Addr)
    (task : ObfsTask ObfsKey Addr) (reply : Option Bytes) (draw : Draw) (relay : RelayState) :
    ObfsListener ObfsKey Addr :=
  let running := listener.running.filter (·.1.arrival ≠ task.arrival)
  match reply with
  | none => { listener with relay, running }
  | some resp =>
      { listener with
        relay
        running
        replies := ⟨task, resp, encode cipher task.key resp draw⟩ :: listener.replies }

/-- A task starts to wait for its upstream. -/
def wait (listener : ObfsListener ObfsKey Addr) (task : ObfsTask ObfsKey Addr) (domain : Text)
    (cacheKey : CacheKey) (relay : RelayState) : ObfsListener ObfsKey Addr :=
  { listener with
    relay
    running := (task, .waiting domain cacheKey) ::
      listener.running.filter (·.1.arrival ≠ task.arrival) }

end ObfsListener

variable (ucd : UnicodeData) (aead : Aead) (cipher) (keys : List ObfsKey)

/-- One event.  A call that does not come back ends the run. -/
def obfsStep (listener : ObfsListener ObfsKey Addr) :
    ObfsEvent Addr → Option (ObfsListener ObfsKey Addr)
  | .receive datagram source ruleTrie permit =>
      some (listener.receive cipher keys datagram source ruleTrie permit)
  | .start arrival now draw =>
      match listener.running.find? (·.1.arrival = arrival) with
      | some (task, .spawned ruleTrie) =>
          match beginResolve ucd ruleTrie task.query now listener.relay with
          | .error _ => none
          | .ok (.answered reply, relay) => some (listener.finish cipher task reply draw relay)
          | .ok (.forward domain cacheKey, relay) =>
              some (listener.wait task domain cacheKey relay)
      | _ => none
  | .deliver arrival delivery now draw =>
      match listener.running.find? (·.1.arrival = arrival) with
      | some (task, .waiting domain cacheKey) =>
          match finishResolve ucd task.query domain cacheKey (delivery.outcome aead) now
            listener.relay with
          | .error _ => none
          | .ok (reply, relay) => some (listener.finish cipher task reply draw relay)
      | _ => none

/-! ## What a step does -/

variable {ucd aead cipher keys}

/-- One of the tasks got further: it waits, or it has ended. -/
def Advanced (cipher : Cipher ObfsKey) (listener after : ObfsListener ObfsKey Addr) : Prop :=
  ∃ task stage, (task, stage) ∈ listener.running ∧
    ((∃ domain cacheKey relay, after = listener.wait task domain cacheKey relay) ∨
      ∃ reply draw relay, after = listener.finish cipher task reply draw relay)

theorem obfsStep_start {listener after : ObfsListener ObfsKey Addr} {arrival now : Nat}
    {draw : Draw}
    (stepped : obfsStep cipher ucd aead keys listener (.start arrival now draw) = some after) :
    Advanced cipher listener after := by
  rw [obfsStep] at stepped
  split at stepped
  · rename_i task ruleTrie found
    have mem := List.mem_of_find?_eq_some found
    rcases began : beginResolve ucd ruleTrie task.query now listener.relay with fault | ⟨begun, relay⟩
    · simp [began] at stepped
    · cases begun with
      | answered reply =>
          rw [began] at stepped
          cases stepped
          exact ⟨task, .spawned ruleTrie, mem, .inr ⟨reply, draw, relay, rfl⟩⟩
      | forward domain cacheKey =>
          rw [began] at stepped
          cases stepped
          exact ⟨task, .spawned ruleTrie, mem, .inl ⟨domain, cacheKey, relay, rfl⟩⟩
  · contradiction

theorem obfsStep_deliver {listener after : ObfsListener ObfsKey Addr} {arrival now : Nat}
    {delivery : Delivery} {draw : Draw}
    (stepped : obfsStep cipher ucd aead keys listener (.deliver arrival delivery now draw) =
      some after) :
    Advanced cipher listener after := by
  rw [obfsStep] at stepped
  split at stepped
  · rename_i task domain cacheKey found
    have mem := List.mem_of_find?_eq_some found
    rcases finished : finishResolve ucd task.query domain cacheKey (delivery.outcome aead) now
      listener.relay with fault | ⟨reply, relay⟩
    · simp [finished] at stepped
    · rw [finished] at stepped
      cases stepped
      exact ⟨task, .waiting domain cacheKey, mem, .inr ⟨reply, draw, relay, rfl⟩⟩
  · contradiction

/-- A task that gets further sends at most one reply. -/
theorem replies_of_advanced {listener after : ObfsListener ObfsKey Addr}
    (advanced : Advanced cipher listener after) :
    after.replies = listener.replies ∨ ∃ task content draw,
      after.replies = ⟨task, content, encode cipher task.key content draw⟩ :: listener.replies := by
  rcases advanced with ⟨task, stage, _, ⟨domain, cacheKey, relay, rfl⟩ | ⟨reply, draw, relay, rfl⟩⟩
  · exact .inl rfl
  · cases reply with
    | none => exact .inl rfl
    | some content => exact .inr ⟨task, content, draw, rfl⟩

theorem dispatched_of_advanced {listener after : ObfsListener ObfsKey Addr}
    (advanced : Advanced cipher listener after) : after.dispatched = listener.dispatched := by
  rcases advanced with ⟨task, stage, _, ⟨domain, cacheKey, relay, rfl⟩ | ⟨reply, draw, relay, rfl⟩⟩
  · rfl
  · cases reply <;> rfl

/-- A delivery is dropped, or it makes a task. -/
theorem receive_cases (cipher : Cipher ObfsKey) (keys : List ObfsKey)
    (listener : ObfsListener ObfsKey Addr) (datagram : Bytes) (source : Addr)
    (ruleTrie : DomainTrie) (permit : Bool) :
    ((permit = false ∨ openDatagram cipher keys (datagram.take obfsPayloadBufSize) = none) ∧
      listener.receive cipher keys datagram source ruleTrie permit =
        { listener with received := datagram :: listener.received }) ∨
    ∃ task : ObfsTask ObfsKey Addr,
      permit = true ∧
      openDatagram cipher keys (datagram.take obfsPayloadBufSize) = some (task.key, task.query) ∧
      task.datagram = datagram ∧ task.repeated = listener.received.contains datagram ∧
      listener.receive cipher keys datagram source ruleTrie permit =
        { listener with
          received := datagram :: listener.received
          dispatched := task :: listener.dispatched
          running := (task, .spawned ruleTrie) :: listener.running } := by
  rw [ObfsListener.receive]
  cases opened : openDatagram cipher keys (datagram.take obfsPayloadBufSize) with
  | none => exact .inl ⟨.inr rfl, rfl⟩
  | some found =>
      rcases found with ⟨key, query⟩
      cases permit with
      | false => exact .inl ⟨.inl rfl, rfl⟩
      | true =>
          right
          exact ⟨⟨listener.received.length, datagram, listener.received.contains datagram, source,
            key, query⟩, rfl, rfl, rfl, rfl, rfl⟩

/-! ## One reply for each task -/

/-- The resolutions a datagram has triggered. -/
def resolutionsOf (listener : ObfsListener ObfsKey Addr) (datagram : Bytes) : Nat :=
  listener.dispatched.countP (·.datagram = datagram)

/-- The replies a datagram has triggered. -/
def repliesTo (listener : ObfsListener ObfsKey Addr) (datagram : Bytes) : Nat :=
  listener.replies.countP (·.task.datagram = datagram)

/-- The tasks of a datagram that have not ended. -/
def unfinished (listener : ObfsListener ObfsKey Addr) (datagram : Bytes) : Nat :=
  listener.running.countP (·.1.datagram = datagram)

/-- Every task stems from a delivery and sends at most one reply. -/
structure Accounted (listener : ObfsListener ObfsKey Addr) : Prop where
  dispatched : ∀ task ∈ listener.dispatched, task.datagram ∈ listener.received
  running : ∀ entry ∈ listener.running, entry.1 ∈ listener.dispatched
  replied : ∀ reply ∈ listener.replies, reply.task ∈ listener.dispatched
  counted : ∀ datagram,
    repliesTo listener datagram + unfinished listener datagram ≤ resolutionsOf listener datagram

/-- Taking out an element by a test takes it out of every count. -/
theorem countP_filter_add_le {α : Type} {list : List α} {entry : α} (mem : entry ∈ list)
    (keep count : α → Bool) (dropped : keep entry = false) :
    (list.filter keep).countP count + (if count entry then 1 else 0) ≤ list.countP count := by
  rw [List.countP_eq_countP_filter_add list count keep]
  apply Nat.add_le_add_left
  split
  · rename_i counted
    rw [Nat.succ_le_iff, List.countP_pos_iff]
    exact ⟨entry, List.mem_filter.mpr ⟨mem, by simp [dropped]⟩, counted⟩
  · exact Nat.zero_le _

theorem accounted_start (relay : RelayState) :
    Accounted (ObfsListener.start relay : ObfsListener ObfsKey Addr) where
  dispatched _ mem := nomatch mem
  running _ mem := nomatch mem
  replied _ mem := nomatch mem
  counted _ := Nat.le_refl 0

theorem Accounted.receive {listener : ObfsListener ObfsKey Addr} (accounted : Accounted listener)
    (datagram : Bytes) (source : Addr) (ruleTrie : DomainTrie) (permit : Bool) :
    Accounted (listener.receive cipher keys datagram source ruleTrie permit) := by
  rcases receive_cases cipher keys listener datagram source ruleTrie permit
    with ⟨_, same⟩ | ⟨task, _, _, from_, _, same⟩
  · rw [same]
    constructor
    · intro task mem
      exact List.mem_cons_of_mem _ (accounted.dispatched task mem)
    · exact accounted.running
    · exact accounted.replied
    · exact accounted.counted
  · rw [same]
    constructor
    · intro other mem
      rcases List.mem_cons.mp mem with rfl | before
      · rw [from_]
        exact List.mem_cons_self
      · exact List.mem_cons_of_mem _ (accounted.dispatched other before)
    · intro entry mem
      rcases List.mem_cons.mp mem with rfl | before
      · exact List.mem_cons_self
      · exact List.mem_cons_of_mem _ (accounted.running entry before)
    · intro reply mem
      exact List.mem_cons_of_mem _ (accounted.replied reply mem)
    · intro other
      have before := accounted.counted other
      simp only [repliesTo, unfinished, resolutionsOf, List.countP_cons] at before ⊢
      omega

theorem Accounted.advance {listener after : ObfsListener ObfsKey Addr}
    (accounted : Accounted listener) (advanced : Advanced cipher listener after) :
    Accounted after := by
  rcases advanced with ⟨task, stage, mem, ⟨domain, cacheKey, relay, rfl⟩ | ⟨reply, draw, relay, rfl⟩⟩
  · constructor
    · exact accounted.dispatched
    · intro entry entryMem
      rcases List.mem_cons.mp entryMem with rfl | kept
      · exact accounted.running (task, stage) mem
      · exact accounted.running entry (List.mem_of_mem_filter kept)
    · exact accounted.replied
    · intro datagram
      have before := accounted.counted datagram
      have moved := countP_filter_add_le mem (·.1.arrival ≠ task.arrival)
        (·.1.datagram = datagram) (by simp)
      simp only [repliesTo, unfinished, resolutionsOf, ObfsListener.wait, List.countP_cons]
        at before moved ⊢
      omega
  · have running : ∀ entry ∈ listener.running.filter (·.1.arrival ≠ task.arrival),
        entry.1 ∈ listener.dispatched :=
      fun entry kept => accounted.running entry (List.mem_of_mem_filter kept)
    have moved := fun datagram => countP_filter_add_le mem (·.1.arrival ≠ task.arrival)
      (·.1.datagram = datagram) (by simp)
    cases reply with
    | none =>
        constructor
        · exact accounted.dispatched
        · exact running
        · exact accounted.replied
        · intro datagram
          have before := accounted.counted datagram
          have here := moved datagram
          simp only [repliesTo, unfinished, resolutionsOf, ObfsListener.finish] at before here ⊢
          omega
    | some resp =>
        constructor
        · exact accounted.dispatched
        · exact running
        · intro reply replyMem
          rcases List.mem_cons.mp replyMem with rfl | before
          · exact accounted.running _ mem
          · exact accounted.replied reply before
        · intro datagram
          have before := accounted.counted datagram
          have here := moved datagram
          simp only [repliesTo, unfinished, resolutionsOf, ObfsListener.finish, List.countP_cons]
            at before here ⊢
          omega

theorem Accounted.step {listener after : ObfsListener ObfsKey Addr} {event : ObfsEvent Addr}
    (accounted : Accounted listener)
    (stepped : obfsStep cipher ucd aead keys listener event = some after) : Accounted after := by
  cases event with
  | receive datagram source ruleTrie permit =>
      cases stepped
      exact accounted.receive datagram source ruleTrie permit
  | start arrival now draw => exact accounted.advance (obfsStep_start stepped)
  | deliver arrival delivery now draw => exact accounted.advance (obfsStep_deliver stepped)

/-! ## Replays -/

/-- A datagram some client makes of a query. -/
def IsQueryDatagram (cipher : Cipher ObfsKey) (datagram : Bytes) : Prop :=
  ∃ key query draw, datagram = encode cipher key query draw

/-- The datagram is resolved at most once and answered at most once, and only its
first delivery is. -/
structure OnceOnly (listener : ObfsListener ObfsKey Addr) (datagram : Bytes) : Prop where
  resolutions : resolutionsOf listener datagram ≤ 1
  replies : repliesTo listener datagram ≤ 1
  resolvedFirst : ∀ task ∈ listener.dispatched, task.datagram = datagram → task.repeated = false
  answeredFirst : ∀ reply ∈ listener.replies, reply.task.datagram = datagram →
    reply.task.repeated = false

/-- No query datagram that opens comes in again while a permit is free. -/
def NotReplayed (cipher : Cipher ObfsKey) (keys : List ObfsKey)
    (listener : ObfsListener ObfsKey Addr) : ObfsEvent Addr → Prop
  | .receive datagram _ _ true =>
      IsQueryDatagram cipher datagram →
      (openDatagram cipher keys (datagram.take obfsPayloadBufSize)).isSome →
      datagram ∉ listener.received
  | _ => True

/-- What is said about the resolutions says the rest. -/
theorem Accounted.onceOnly_iff {listener : ObfsListener ObfsKey Addr}
    (accounted : Accounted listener) (datagram : Bytes) :
    OnceOnly listener datagram ↔ resolutionsOf listener datagram ≤ 1 ∧
      ∀ task ∈ listener.dispatched, task.datagram = datagram → task.repeated = false := by
  constructor
  · intro once
    exact ⟨once.resolutions, once.resolvedFirst⟩
  · rintro ⟨resolutions, first⟩
    have counted := accounted.counted datagram
    constructor
    · exact resolutions
    · omega
    · exact first
    · intro reply mem
      exact first reply.task (accounted.replied reply mem)

theorem resolutionsOf_eq_zero {listener : ObfsListener ObfsKey Addr}
    (accounted : Accounted listener) {datagram : Bytes} (new : datagram ∉ listener.received) :
    resolutionsOf listener datagram = 0 := by
  rw [resolutionsOf, List.countP_eq_zero]
  intro task mem same
  apply new
  rw [← of_decide_eq_true same]
  exact accounted.dispatched task mem

/-- A new task keeps every datagram at one resolution exactly if its datagram had
not been delivered before. -/
theorem onceOnly_dispatch_iff {listener : ObfsListener ObfsKey Addr}
    (accounted : Accounted listener) {task : ObfsTask ObfsKey Addr}
    {dispatched : List (ObfsTask ObfsKey Addr)}
    (made : task.repeated = listener.received.contains task.datagram)
    (spawned : dispatched = task :: listener.dispatched) (datagram : Bytes) :
    (dispatched.countP (·.datagram = datagram) ≤ 1 ∧
      ∀ other ∈ dispatched, other.datagram = datagram → other.repeated = false) ↔
    (resolutionsOf listener datagram ≤ 1 ∧
      ∀ other ∈ listener.dispatched, other.datagram = datagram → other.repeated = false) ∧
    (task.datagram = datagram → datagram ∉ listener.received) := by
  rw [spawned, List.countP_cons, List.forall_mem_cons]
  constructor
  · rintro ⟨count, here, before⟩
    refine ⟨⟨Nat.le_trans (Nat.le_add_right _ _) count, before⟩, ?_⟩
    rintro rfl seen
    have again := here rfl
    rw [made, List.contains_iff_mem.mpr seen] at again
    contradiction
  · rintro ⟨⟨count, before⟩, new⟩
    by_cases same : task.datagram = datagram
    · subst same
      have none := resolutionsOf_eq_zero accounted (new rfl)
      rw [resolutionsOf] at none
      refine ⟨by simp [none], ?_, before⟩
      intro _
      rw [made]
      simpa using new rfl
    · rw [resolutionsOf] at count
      refine ⟨by simpa [same] using count, ?_, before⟩
      intro equal
      contradiction

/-- One step keeps query datagrams at one resolution exactly if it is no
replay. -/
theorem onceOnly_step {listener after : ObfsListener ObfsKey Addr} {event : ObfsEvent Addr}
    (accounted : Accounted listener)
    (stepped : obfsStep cipher ucd aead keys listener event = some after) :
    (∀ datagram, IsQueryDatagram cipher datagram → OnceOnly after datagram) ↔
      (∀ datagram, IsQueryDatagram cipher datagram → OnceOnly listener datagram) ∧
        NotReplayed cipher keys listener event := by
  have accountedAfter := accounted.step stepped
  have unchanged : after.dispatched = listener.dispatched → NotReplayed cipher keys listener event →
      ((∀ datagram, IsQueryDatagram cipher datagram → OnceOnly after datagram) ↔
        (∀ datagram, IsQueryDatagram cipher datagram → OnceOnly listener datagram) ∧
          NotReplayed cipher keys listener event) := by
    intro same holds
    rw [and_iff_left holds]
    apply forall_congr'
    intro datagram
    rw [accountedAfter.onceOnly_iff, accounted.onceOnly_iff, resolutionsOf, resolutionsOf, same]
  cases event with
  | start arrival now draw =>
      exact unchanged (dispatched_of_advanced (obfsStep_start stepped)) trivial
  | deliver arrival delivery now draw =>
      exact unchanged (dispatched_of_advanced (obfsStep_deliver stepped)) trivial
  | receive datagram source ruleTrie permit =>
      cases stepped
      rcases receive_cases cipher keys listener datagram source ruleTrie permit
        with ⟨dropped, same⟩ | ⟨task, rfl, opened, rfl, made, same⟩
      · apply unchanged
        · rw [same]
        · rcases dropped with rfl | closed
          · trivial
          · cases permit
            · trivial
            · intro _ opens
              rw [closed] at opens
              contradiction
      · have each := onceOnly_dispatch_iff accounted made
          (by rw [same] : (listener.receive cipher keys task.datagram source ruleTrie true).dispatched =
            task :: listener.dispatched)
        simp only [accountedAfter.onceOnly_iff, accounted.onceOnly_iff, resolutionsOf] at each ⊢
        simp only [each, NotReplayed, opened, Option.isSome_some, forall_const]
        constructor
        · intro all
          exact ⟨fun datagram query => (all datagram query).1,
            fun query => (all task.datagram query).2 rfl⟩
        · rintro ⟨before, new⟩ datagram query
          refine ⟨before datagram query, ?_⟩
          rintro rfl
          exact new query

/-- After a run every query datagram has been resolved and answered at most once,
and only for its first delivery, exactly if none that opens came in again while
a permit was free. -/
theorem replays_unanswered_iff (cipher : Cipher ObfsKey) (ucd : UnicodeData) (aead : Aead)
    (keys : List ObfsKey) (relay : RelayState) (trace : List (ObfsEvent Addr))
    (listener : ObfsListener ObfsKey Addr)
    (ran : run (obfsStep cipher ucd aead keys) (ObfsListener.start relay) trace = some listener) :
    (∀ datagram, IsQueryDatagram cipher datagram → OnceOnly listener datagram) ↔
      Along (obfsStep cipher ucd aead keys) (NotReplayed cipher keys) (ObfsListener.start relay)
        trace := by
  apply along_iff (I := Accounted)
    (P := fun listener => ∀ datagram, IsQueryDatagram cipher datagram → OnceOnly listener datagram)
  · exact accounted_start relay
  · intro datagram _
    constructor
    · exact Nat.zero_le 1
    · exact Nat.zero_le 1
    · exact fun task mem => nomatch mem
    · exact fun reply mem => nomatch mem
  · exact fun state event after accounted stepped => accounted.step stepped
  · exact fun state event after accounted stepped => onceOnly_step accounted stepped
  · exact ran

/-- The datagram of a query for `a`. -/
def datagramA : Bytes :=
  encode Cipher.tagged 7 (bareQuery [labelA] 1).encode Draw.zero

/-- The datagram comes in and is answered at once, since its name is dropped. -/
def answerA (arrival : Nat) (source : Nat) : List (ObfsEvent Nat) :=
  [.receive datagramA source (DomainTrie.insertDrop .ascii Trie.empty "a".toList) true,
    .start arrival 0 Draw.zero]

/-- How often the datagram was resolved and answered. -/
def answersIn (trace : List (ObfsEvent Nat)) : Option (Nat × Nat) :=
  (run (obfsStep Cipher.tagged .ascii Aead.transparent [7])
    (ObfsListener.start ⟨newCache, none, none⟩) trace).map fun listener =>
      (resolutionsOf listener datagramA, repliesTo listener datagramA)

theorem exists_run_of_answersIn {trace : List (ObfsEvent Nat)} {resolutions replies : Nat}
    (answers : answersIn trace = some (resolutions, replies)) :
    ∃ listener, run (obfsStep Cipher.tagged .ascii Aead.transparent [7])
        (ObfsListener.start ⟨newCache, none, none⟩) trace = some listener ∧
      resolutionsOf listener datagramA = resolutions ∧ repliesTo listener datagramA = replies := by
  rcases Option.map_eq_some_iff.mp answers with ⟨listener, ran, same⟩
  cases same
  exact ⟨listener, ran, rfl, rfl⟩

theorem replays_unanswered_once : ∃ listener,
    run (obfsStep Cipher.tagged .ascii Aead.transparent [7])
        (ObfsListener.start ⟨newCache, none, none⟩) (answerA 0 1) = some listener ∧
    repliesTo listener datagramA = 1 ∧
    ((∀ datagram, IsQueryDatagram Cipher.tagged datagram → OnceOnly listener datagram) ↔
      Along (obfsStep Cipher.tagged .ascii Aead.transparent [7]) (NotReplayed Cipher.tagged [7])
        (ObfsListener.start ⟨newCache, none, none⟩) (answerA 0 1)) := by
  have answers : answersIn (answerA 0 1) = some (1, 1) := by decide +kernel
  rcases exists_run_of_answersIn answers with ⟨listener, ran, _, replies⟩
  exact ⟨listener, ran, replies, replays_unanswered_iff _ _ _ _ _ _ _ ran⟩

/-- The same datagram, delivered again from another address, is resolved and
answered again. -/
theorem replay_answered : ∃ listener,
    run (obfsStep Cipher.tagged .ascii Aead.transparent [7])
        (ObfsListener.start ⟨newCache, none, none⟩) (answerA 0 1 ++ answerA 1 2) =
      some listener ∧
    IsQueryDatagram Cipher.tagged datagramA ∧
    resolutionsOf listener datagramA = 2 ∧ repliesTo listener datagramA = 2 ∧
    ¬ OnceOnly listener datagramA := by
  have answers : answersIn (answerA 0 1 ++ answerA 1 2) = some (2, 2) := by decide +kernel
  rcases exists_run_of_answersIn answers with ⟨listener, ran, resolutions, replies⟩
  refine ⟨listener, ran, ⟨7, _, Draw.zero, rfl⟩, resolutions, replies, ?_⟩
  intro once
  have few := once.replies
  rw [replies] at few
  contradiction

end DnsHijacker.DnsRelay
