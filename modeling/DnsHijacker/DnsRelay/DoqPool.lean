import DnsHijacker.Library.Run
import DnsHijacker.Library.Slots
import DnsHijacker.DnsRelay.Doq
import DnsHijacker.DnsRelay.ResolverList

/-!
# The pool of QUIC connections

All tasks share one QUIC endpoint, which the first of them to need it sets, and a pool of connections
by resolver.  A call looks for a connection that is still open; without one it connects and puts the
new connection in the pool.  The lock is not held in between, so two calls may connect at the same
time, and two may build an endpoint.
-/

namespace DnsHijacker.DnsRelay.DoqPool

open DnsHijacker.Rust
open DnsHijacker.Library
open DnsHijacker.Shared

/-! ## The target of a resolver -/

/-- `DOQ_DEFAULT_PORT` -/
def doqDefaultPort : UInt16 :=
  853

/-- `str::rsplit_once` -/
def rsplitOnce (sep : Char) (text : Text) : Option (Text × Text) :=
  (splitOnce sep text.reverse).map fun (after, before) => (before.reverse, after.reverse)

/-- `text.parse::<u16>().ok()`; one plus sign may stand before the digits. -/
def parseU16 (text : Text) : Option UInt16 :=
  parsePort ((stripPrefix ['+'] text).getD text)

/-- The host and the port that a resolver names. -/
def hostAndPort (rest : Text) : Text × UInt16 :=
  match rsplitOnce ':' rest with
  | some (host, port) => (host, (parseU16 port).getD doqDefaultPort)
  | none => (rest, doqDefaultPort)

example : hostAndPort "dns.example:+8853".toList = ("dns.example".toList, 8853) := by decide

variable {Ip : Type}

/-- `parse_doq_target`.  Which texts are addresses, and what the system answers when it is asked for
those of a host, is left open. -/
def parseDoqTarget (parseIp : Text → Option Ip) (answer : Except Text (List Ip)) (resolver : Text) :
    Except Error (Text × Ip × UInt16) :=
  match stripPrefix quicPrefix resolver with
  | none => .error (.invalidResolver resolver)
  | some rest =>
      let (host, port) := hostAndPort rest
      match parseIp host with
      | some ip => .ok (host, ip, port)
      | none =>
          match answer with
          | .error err =>
              .error (.config ("failed to resolve DoQ host ".toList ++ host ++ ": ".toList ++ err))
          | .ok [] => .error (.invalidResolver resolver)
          | .ok (ip :: _) => .ok (host, ip, port)

/-! ## Calls -/

/-- `Connection`: the endpoint it was made with, whom it is to, and its close reason. -/
structure Connection (Ip : Type) where
  endpoint : Nat
  target : Text × Ip × UInt16
  closed : Bool

/-- What is written on a stream, by which call and on which connection. -/
structure Stream where
  call : Nat
  connection : Nat
  message : Bytes

/-- What the calls share. -/
structure Pool (Ip : Type) where
  /-- `QUIC_ENDPOINT` -/
  endpoint : Option Nat
  /-- How many endpoints were built. -/
  built : Nat
  connections : Text → Option Nat
  /-- All connections that were made. -/
  made : List (Connection Ip)
  streams : List Stream

/-- What a call does next. -/
inductive Phase (Ip : Type) where
  /-- `cached` -/
  | lookup
  | target
  /-- `QUIC_ENDPOINT.get()` -/
  | endpoint (target : Text × Ip × UInt16)
  | build (target : Text × Ip × UInt16)
  /-- `QUIC_ENDPOINT.set(endpoint)` -/
  | set (target : Text × Ip × UInt16) (built : Nat)
  /-- `QUIC_ENDPOINT.get().expect("just set")` -/
  | get (target : Text × Ip × UInt16)
  | connect (target : Text × Ip × UInt16) (endpoint : Nat)
  | handshake (target : Text × Ip × UInt16) (endpoint : Nat)
  | store (connection : Nat)
  | query (connection : Nat)
  | done (result : Except Error Bytes)
  | panicked

/-- A call of `DoqPool::resolve` or of `measure_latency`. -/
structure Call (Ip : Type) where
  resolver : Text
  payload : Bytes
  phase : Phase Ip

structure State (Ip : Type) where
  pool : Pool Ip
  calls : List (Call Ip)

/-- Before the first call. -/
def State.start : State Ip where
  pool := ⟨none, 0, fun _ => none, [], []⟩
  calls := []

/-- What `connect` comes to: with a session ticket the connection is there at once. -/
inductive Connecting where
  | failed (err : Text)
  | early
  | full

/-- What comes from outside when a call goes on. -/
inductive Answer (Ip : Type) where
  | none
  | addresses (answer : Except Text (List Ip))
  | built (failure : Option Error)
  | connecting (outcome : Connecting)
  | handshaken (failure : Option Text)
  | stream (stream : Except Error Bytes)

inductive Event (Ip : Type) where
  | call (resolver : Text) (payload : Bytes)
  | go (call : Nat) (answer : Answer Ip)
  /-- A connection ends. -/
  | close (connection : Nat)

namespace Pool

/-- `cached` -/
def cached (pool : Pool Ip) (resolver : Text) : Option Nat := do
  let connection ← pool.connections resolver
  let conn ← pool.made[connection]?
  if conn.closed then none else some connection

/-- `store` -/
def store (pool : Pool Ip) (resolver : Text) (connection : Nat) : Pool Ip :=
  { pool with connections := Function.update pool.connections resolver (some connection) }

@[simp]
theorem connections_store_self (pool : Pool Ip) (resolver : Text) (connection : Nat) :
    (pool.store resolver connection).connections resolver = some connection :=
  Function.update_self ..

@[simp]
theorem connections_store_of_ne (pool : Pool Ip) {resolver other : Text} (differ : other ≠ resolver)
    (connection : Nat) :
    (pool.store resolver connection).connections other = pool.connections other :=
  Function.update_of_ne differ ..

/-- The pool when a connection was made. -/
def connected (pool : Pool Ip) (target : Text × Ip × UInt16) (endpoint : Nat) : Pool Ip :=
  { pool with made := pool.made ++ [⟨endpoint, target, false⟩] }

end Pool

/-- What `read_to_end` makes of the stream. -/
def readToEnd : Except Error Bytes → Except Error Bytes
  | .error error => .error error
  | .ok stream =>
      if stream.length ≤ doqReadLimit then .ok stream
      else .error (.config "failed to read DoQ response: stream too long".toList)

variable (parseIp : Text → Option Ip)

/-- One step of a call, up to the next thing it shares with the others or waits for. -/
def advance (pool : Pool Ip) (number : Nat) (call : Call Ip) :
    Answer Ip → Option (Pool Ip × Phase Ip)
  | .none =>
      match call.phase with
      | .lookup =>
          match pool.cached call.resolver with
          | some connection => some (pool, .query connection)
          | none => some (pool, .target)
      | .endpoint target =>
          match pool.endpoint with
          | some endpoint => some (pool, .connect target endpoint)
          | none => some (pool, .build target)
      | .set target built =>
          some ({ pool with endpoint := some (pool.endpoint.getD built) }, .get target)
      | .get target =>
          match pool.endpoint with
          | some endpoint => some (pool, .connect target endpoint)
          | none => some (pool, .panicked)
      | .store connection =>
          some (pool.store call.resolver connection, .query connection)
      | _ => none
  | .addresses answer =>
      match call.phase with
      | .target =>
          match parseDoqTarget parseIp answer call.resolver with
          | .error error => some (pool, .done (.error error))
          | .ok target => some (pool, .endpoint target)
      | _ => none
  | .built failure =>
      match call.phase, failure with
      | .build _, some error => some (pool, .done (.error error))
      | .build target, none => some ({ pool with built := pool.built + 1 }, .set target pool.built)
      | _, _ => none
  | .connecting outcome =>
      match call.phase, outcome with
      | .connect _ _, .failed err =>
          some (pool, .done (.error (.config ("QUIC connect setup failed for ".toList ++
            call.resolver ++ ": ".toList ++ err))))
      | .connect target endpoint, .early =>
          some (pool.connected target endpoint, .store pool.made.length)
      | .connect target endpoint, .full => some (pool, .handshake target endpoint)
      | _, _ => none
  | .handshaken failure =>
      match call.phase, failure with
      | .handshake _ _, some err =>
          some (pool, .done (.error (.config ("QUIC handshake failed for ".toList ++
            call.resolver ++ ": ".toList ++ err))))
      | .handshake target endpoint, none =>
          some (pool.connected target endpoint, .store pool.made.length)
      | _, _ => none
  | .stream stream =>
      match call.phase with
      | .query connection =>
          some ({ pool with
            streams := pool.streams ++ [⟨number, connection, sendQuery call.payload⟩] },
            .done (readToEnd stream))
      | _ => none

/-- One event. -/
def next (state : State Ip) : Event Ip → Option (State Ip)
  | .call resolver payload =>
      some { state with calls := state.calls ++ [⟨resolver, payload, .lookup⟩] }
  | .go number answer =>
      match state.calls[number]? with
      | none => none
      | some call =>
          (advance parseIp state.pool number call answer).map fun (pool, phase) =>
            { pool, calls := state.calls.set number { call with phase } }
  | .close connection =>
      match state.pool.made[connection]? with
      | none => none
      | some conn =>
          some { state with
            pool := { state.pool with
              made := state.pool.made.set connection { conn with closed := true } } }

/-! ## What a step can do -/

variable {parseIp}

/-- The steps of a call. -/
inductive Advances (parseIp : Text → Option Ip) (pool : Pool Ip) (number : Nat) (call : Call Ip) :
    Pool Ip → Phase Ip → Prop
  | hit {connection : Nat} (phase : call.phase = .lookup)
      (found : pool.cached call.resolver = some connection) :
      Advances parseIp pool number call pool (.query connection)
  | miss (phase : call.phase = .lookup) (none : pool.cached call.resolver = none) :
      Advances parseIp pool number call pool .target
  | fail {error : Error} :
      Advances parseIp pool number call pool (.done (.error error))
  | target {target : Text × Ip × UInt16} {answer : Except Text (List Ip)}
      (phase : call.phase = .target)
      (parsed : parseDoqTarget parseIp answer call.resolver = .ok target) :
      Advances parseIp pool number call pool (.endpoint target)
  | endpoint {target : Text × Ip × UInt16} {endpoint : Nat}
      (phase : call.phase = .endpoint target ∨ call.phase = .get target)
      (known : pool.endpoint = some endpoint) :
      Advances parseIp pool number call pool (.connect target endpoint)
  | build {target : Text × Ip × UInt16} (phase : call.phase = .endpoint target)
      (none : pool.endpoint = none) :
      Advances parseIp pool number call pool (.build target)
  | built {target : Text × Ip × UInt16} (phase : call.phase = .build target) :
      Advances parseIp pool number call { pool with built := pool.built + 1 }
        (.set target pool.built)
  | set {target : Text × Ip × UInt16} {built : Nat} (phase : call.phase = .set target built) :
      Advances parseIp pool number call
        { pool with endpoint := some (pool.endpoint.getD built) } (.get target)
  | panic {target : Text × Ip × UInt16} (phase : call.phase = .get target)
      (none : pool.endpoint = none) :
      Advances parseIp pool number call pool .panicked
  | full {target : Text × Ip × UInt16} {endpoint : Nat}
      (phase : call.phase = .connect target endpoint) :
      Advances parseIp pool number call pool (.handshake target endpoint)
  | connected {target : Text × Ip × UInt16} {endpoint : Nat}
      (phase : call.phase = .connect target endpoint ∨ call.phase = .handshake target endpoint) :
      Advances parseIp pool number call (pool.connected target endpoint) (.store pool.made.length)
  | store {connection : Nat} (phase : call.phase = .store connection) :
      Advances parseIp pool number call (pool.store call.resolver connection) (.query connection)
  | query {connection : Nat} {result : Except Error Bytes} (phase : call.phase = .query connection) :
      Advances parseIp pool number call
        { pool with streams := pool.streams ++ [⟨number, connection, sendQuery call.payload⟩] }
        (.done result)

theorem advances_of_advance {pool after : Pool Ip} {number : Nat} {call : Call Ip}
    {answer : Answer Ip} {phase : Phase Ip}
    (step : advance parseIp pool number call answer = some (after, phase)) :
    Advances parseIp pool number call after phase := by
  cases answer with
  | none =>
      dsimp only [advance] at step
      split at step
      · rename_i here
        split at step
        · cases step
          exact .hit here ‹_›
        · cases step
          exact .miss here ‹_›
      · rename_i here
        split at step
        · cases step
          exact .endpoint (.inl here) ‹_›
        · cases step
          exact .build here ‹_›
      · cases step
        exact .set ‹_›
      · rename_i here
        split at step
        · cases step
          exact .endpoint (.inr here) ‹_›
        · cases step
          exact .panic here ‹_›
      · cases step
        exact .store ‹_›
      · contradiction
  | addresses answer =>
      dsimp only [advance] at step
      split at step
      · split at step
        · cases step
          exact .fail
        · cases step
          exact .target ‹_› ‹_›
      · contradiction
  | built failure =>
      dsimp only [advance] at step
      split at step
      · cases step
        exact .fail
      · cases step
        exact .built ‹_›
      · contradiction
  | connecting outcome =>
      dsimp only [advance] at step
      split at step
      · cases step
        exact .fail
      · cases step
        exact .connected (.inl ‹_›)
      · cases step
        exact .full ‹_›
      · contradiction
  | handshaken failure =>
      dsimp only [advance] at step
      split at step
      · cases step
        exact .fail
      · cases step
        exact .connected (.inr ‹_›)
      · contradiction
  | stream stream =>
      dsimp only [advance] at step
      split at step
      · cases step
        exact .query ‹_›
      · contradiction

/-! ## What a pool keeps -/

/-- Nothing is taken back: the endpoint stays, and so do the target and the endpoint of every
connection. -/
structure Grows (before after : Pool Ip) : Prop where
  endpoint : ∀ endpoint, before.endpoint = some endpoint → after.endpoint = some endpoint
  made : ∀ (connection : Nat) (conn : Connection Ip), before.made[connection]? = some conn →
    ∃ later, after.made[connection]? = some later ∧ later.target = conn.target ∧
      later.endpoint = conn.endpoint

theorem Grows.of_same {before after : Pool Ip} (endpoint : after.endpoint = before.endpoint)
    (made : after.made = before.made) : Grows before after where
  endpoint known same := by rw [endpoint, same]
  made connection conn found := ⟨conn, by rw [made, found], rfl, rfl⟩

theorem grows_connected (pool : Pool Ip) (target : Text × Ip × UInt16) (endpoint : Nat) :
    Grows pool (pool.connected target endpoint) where
  endpoint _ same := same
  made connection conn found := by
    refine ⟨conn, ?_, rfl, rfl⟩
    rw [Pool.connected, List.getElem?_append_left (List.getElem?_eq_some_iff.mp found).1]
    exact found

theorem Advances.grows {pool after : Pool Ip} {number : Nat} {call : Call Ip} {phase : Phase Ip}
    (advances : Advances parseIp pool number call after phase) : Grows pool after := by
  cases advances with
  | set => exact ⟨fun endpoint same => by rw [same, Option.getD_some], fun _ conn found =>
      ⟨conn, found, rfl, rfl⟩⟩
  | connected => exact grows_connected pool _ _
  | hit | miss | fail | target | endpoint | build | built | panic | full | store | query =>
      exact .of_same rfl rfl

/-! ## Whom a connection is to -/

/-- The target is what the resolver names, with some answer of the system. -/
def Names (parseIp : Text → Option Ip) (resolver : Text) (target : Text × Ip × UInt16) : Prop :=
  ∃ answer, parseDoqTarget parseIp answer resolver = .ok target

/-- The connection was made to what the resolver names. -/
def LeadsTo (parseIp : Text → Option Ip) (pool : Pool Ip) (connection : Nat) (resolver : Text) :
    Prop :=
  ∃ conn, pool.made[connection]? = some conn ∧ Names parseIp resolver conn.target

theorem LeadsTo.grows {pool after : Pool Ip} {connection : Nat} {resolver : Text}
    (leads : LeadsTo parseIp pool connection resolver) (grows : Grows pool after) :
    LeadsTo parseIp after connection resolver := by
  obtain ⟨conn, found, names⟩ := leads
  obtain ⟨later, there, same, _⟩ := grows.made connection conn found
  exact ⟨later, there, by rw [same]; exact names⟩

/-- The new connection leads to the target it was made with. -/
theorem leadsTo_connected {pool : Pool Ip} {target : Text × Ip × UInt16} {endpoint : Nat}
    {resolver : Text} (names : Names parseIp resolver target) :
    LeadsTo parseIp (pool.connected target endpoint) pool.made.length resolver :=
  ⟨⟨endpoint, target, false⟩, List.getElem?_concat_length, names⟩

theorem Pool.connections_of_cached {pool : Pool Ip} {resolver : Text} {connection : Nat}
    (found : pool.cached resolver = some connection) :
    pool.connections resolver = some connection := by
  rw [Pool.cached] at found
  obtain ⟨pooled, here, rest⟩ := Option.bind_eq_some_iff.mp found
  obtain ⟨conn, _, open_⟩ := Option.bind_eq_some_iff.mp rest
  split at open_
  · contradiction
  · cases open_
    exact here

/-- What a call has found out is about its own resolver, and the endpoint it has is the one that all
calls have. -/
def Call.Sound (parseIp : Text → Option Ip) (pool : Pool Ip) (call : Call Ip) : Prop :=
  match call.phase with
  | .lookup | .target | .done _ => True
  | .endpoint target | .build target | .set target _ => Names parseIp call.resolver target
  | .get target => Names parseIp call.resolver target ∧ pool.endpoint.isSome
  | .connect target endpoint | .handshake target endpoint =>
      Names parseIp call.resolver target ∧ pool.endpoint = some endpoint
  | .store connection | .query connection => LeadsTo parseIp pool connection call.resolver
  | .panicked => False

theorem Call.Sound.grows {pool after : Pool Ip} {call : Call Ip}
    (sound : call.Sound parseIp pool) (grows : Grows pool after) : call.Sound parseIp after := by
  rw [Call.Sound] at sound ⊢
  cases here : call.phase with
  | lookup | target | done => trivial
  | endpoint | build | set =>
      rw [here] at sound
      exact sound
  | get =>
      rw [here] at sound
      obtain ⟨endpoint, known⟩ := Option.isSome_iff_exists.mp sound.2
      exact ⟨sound.1, by rw [grows.endpoint endpoint known]; rfl⟩
  | connect | handshake =>
      rw [here] at sound
      exact ⟨sound.1, grows.endpoint _ sound.2⟩
  | store | query =>
      rw [here] at sound
      exact LeadsTo.grows sound grows
  | panicked =>
      rw [here] at sound
      exact sound

/-- What holds of the pool itself. -/
structure Pool.Sound (parseIp : Text → Option Ip) (pool : Pool Ip) : Prop where
  endpoint : ∀ conn ∈ pool.made, pool.endpoint = some conn.endpoint
  pooled : ∀ resolver connection, pool.connections resolver = some connection →
    LeadsTo parseIp pool connection resolver

/-- A step of a call keeps what holds of the pool, and the call is sound after it. -/
theorem Advances.sound {pool after : Pool Ip} {number : Nat} {call : Call Ip} {phase : Phase Ip}
    (advances : Advances parseIp pool number call after phase) (sound : pool.Sound parseIp)
    (callSound : call.Sound parseIp pool) :
    after.Sound parseIp ∧ Call.Sound parseIp after { call with phase } := by
  have pooled : ∀ resolver connection, pool.connections resolver = some connection →
      LeadsTo parseIp after connection resolver := fun resolver connection found =>
    (sound.pooled resolver connection found).grows advances.grows
  rw [Call.Sound] at callSound
  cases advances with
  | hit _ found => exact ⟨sound, sound.pooled _ _ (Pool.connections_of_cached found)⟩
  | miss | fail => exact ⟨sound, trivial⟩
  | target _ parsed => exact ⟨sound, _, parsed⟩
  | endpoint phase known =>
      rcases phase with here | here
      · rw [here] at callSound
        exact ⟨sound, callSound, known⟩
      · rw [here] at callSound
        exact ⟨sound, callSound.1, known⟩
  | build here =>
      rw [here] at callSound
      exact ⟨sound, callSound⟩
  | built here =>
      rw [here] at callSound
      exact ⟨⟨sound.endpoint, pooled⟩, callSound⟩
  | set here =>
      rw [here] at callSound
      refine ⟨⟨fun conn mem => ?_, pooled⟩, callSound, rfl⟩
      rw [sound.endpoint conn mem, Option.getD_some]
  | panic here none =>
      rw [here, none] at callSound
      exact absurd callSound.2 (by simp)
  | full here =>
      rw [here] at callSound
      exact ⟨sound, callSound⟩
  | @connected target endpoint phase =>
      have known : Names parseIp call.resolver target ∧ pool.endpoint = some endpoint := by
        rcases phase with here | here
        · rw [here] at callSound
          exact callSound
        · rw [here] at callSound
          exact callSound
      refine ⟨⟨?_, pooled⟩, leadsTo_connected known.1⟩
      intro conn mem
      rcases List.mem_append.mp mem with old | new
      · exact sound.endpoint conn old
      · rw [List.mem_singleton.mp new]
        exact known.2
  | @store connection here =>
      rw [here] at callSound
      refine ⟨⟨sound.endpoint, fun resolver other found => ?_⟩, callSound⟩
      by_cases same : resolver = call.resolver
      · subst same
        rw [Pool.connections_store_self] at found
        cases found
        exact callSound
      · rw [Pool.connections_store_of_ne pool same] at found
        exact pooled resolver other found
  | query => exact ⟨⟨sound.endpoint, pooled⟩, trivial⟩

/-! ## Every run -/

/-- A stream carries the query of the call that opened it, to the resolver of that call. -/
def StreamSound (parseIp : Text → Option Ip) (state : State Ip) (stream : Stream) : Prop :=
  ∃ call, state.calls[stream.call]? = some call ∧ stream.message = sendQuery call.payload ∧
    LeadsTo parseIp state.pool stream.connection call.resolver

structure State.Sound (parseIp : Text → Option Ip) (state : State Ip) : Prop where
  pool : state.pool.Sound parseIp
  calls : ∀ call ∈ state.calls, call.Sound parseIp state.pool
  streams : ∀ stream ∈ state.pool.streams, StreamSound parseIp state stream

/-- Calls keep their place, their resolver and their query. -/
def Keeps (before after : List (Call Ip)) : Prop :=
  ∀ (number : Nat) (call : Call Ip), before[number]? = some call →
    ∃ later, after[number]? = some later ∧ later.resolver = call.resolver ∧
      later.payload = call.payload

theorem keeps_append (calls new : List (Call Ip)) : Keeps calls (calls ++ new) :=
  fun _ call found => ⟨call, by
    rw [List.getElem?_append_left (List.getElem?_eq_some_iff.mp found).1, found], rfl, rfl⟩

theorem keeps_set {calls : List (Call Ip)} {number : Nat} {call : Call Ip}
    (found : calls[number]? = some call) (phase : Phase Ip) :
    Keeps calls (calls.set number { call with phase }) := by
  intro other old there
  by_cases same : number = other
  · subst same
    cases found.symm.trans there
    exact ⟨_, List.getElem?_set_self (List.getElem?_eq_some_iff.mp found).1, rfl, rfl⟩
  · exact ⟨old, by rw [List.getElem?_set_ne same, there], rfl, rfl⟩

theorem StreamSound.later {state after : State Ip} {stream : Stream}
    (sound : StreamSound parseIp state stream) (grows : Grows state.pool after.pool)
    (keeps : Keeps state.calls after.calls) : StreamSound parseIp after stream := by
  obtain ⟨call, found, message, leads⟩ := sound
  obtain ⟨later, there, resolver, payload⟩ := keeps _ call found
  refine ⟨later, there, by rw [message, payload], ?_⟩
  rw [resolver]
  exact leads.grows grows

theorem grows_close {pool : Pool Ip} {connection : Nat} {conn : Connection Ip}
    (found : pool.made[connection]? = some conn) :
    Grows pool { pool with made := pool.made.set connection { conn with closed := true } } where
  endpoint _ same := same
  made other old there := by
    by_cases same : connection = other
    · subst same
      cases found.symm.trans there
      exact ⟨_, List.getElem?_set_self (List.getElem?_eq_some_iff.mp found).1, rfl, rfl⟩
    · exact ⟨old, by rw [List.getElem?_set_ne same, there], rfl, rfl⟩

/-- What a step adds to the streams is the query of the call that goes on. -/
theorem Advances.streams {pool after : Pool Ip} {number : Nat} {call : Call Ip} {phase : Phase Ip}
    (advances : Advances parseIp pool number call after phase) {stream : Stream}
    (mem : stream ∈ after.streams) :
    stream ∈ pool.streams ∨ ∃ connection, call.phase = .query connection ∧
      stream = ⟨number, connection, sendQuery call.payload⟩ := by
  cases advances with
  | query here =>
      rcases List.mem_append.mp mem with old | new
      · exact .inl old
      · exact .inr ⟨_, here, List.mem_singleton.mp new⟩
  | hit | miss | fail | target | endpoint | build | built | set | panic | full | connected | store =>
      exact .inl mem

theorem State.Sound.next {state after : State Ip} {event : Event Ip} (sound : state.Sound parseIp)
    (step : DoqPool.next parseIp state event = some after) : after.Sound parseIp := by
  cases event with
  | call resolver payload =>
      cases step
      refine ⟨sound.pool, ?_, fun stream mem =>
        (sound.streams stream mem).later (.of_same rfl rfl) (keeps_append _ _)⟩
      intro call mem
      rcases List.mem_append.mp mem with old | new
      · exact sound.calls call old
      · rw [List.mem_singleton.mp new]
        trivial
  | go number answer =>
      rw [DoqPool.next] at step
      split at step
      · contradiction
      · rename_i call found
        obtain ⟨⟨pool, phase⟩, stepped, rfl⟩ := Option.map_eq_some_iff.mp step
        have advances := advances_of_advance stepped
        obtain ⟨poolSound, callSound⟩ :=
          advances.sound sound.pool (sound.calls call (List.mem_of_getElem? found))
        refine ⟨poolSound, ?_, ?_⟩
        · exact forall_mem_set (fun other mem => (sound.calls other mem).grows advances.grows)
            callSound
        · intro stream mem
          rcases advances.streams mem with old | ⟨connection, here, rfl⟩
          · exact (sound.streams stream old).later advances.grows (keeps_set found phase)
          · have leads := sound.calls call (List.mem_of_getElem? found)
            rw [Call.Sound, here] at leads
            exact ⟨_, List.getElem?_set_self (List.getElem?_eq_some_iff.mp found).1, rfl,
              LeadsTo.grows leads advances.grows⟩
  | close connection =>
      rw [DoqPool.next] at step
      split at step
      · contradiction
      · rename_i conn found
        cases step
        have grows := grows_close found
        refine ⟨⟨?_, fun resolver other pooled =>
          (sound.pool.pooled resolver other pooled).grows grows⟩,
          fun call mem => (sound.calls call mem).grows grows,
          fun stream mem => (sound.streams stream mem).later grows fun _ call there =>
            ⟨call, there, rfl, rfl⟩⟩
        exact forall_mem_set sound.pool.endpoint (sound.pool.endpoint conn (List.mem_of_getElem? found))

theorem sound_start : (State.start : State Ip).Sound parseIp where
  pool := ⟨fun _ mem => absurd mem List.not_mem_nil, fun _ _ found => by cases found⟩
  calls _ mem := absurd mem List.not_mem_nil
  streams _ mem := absurd mem List.not_mem_nil

/-- Whatever the calls do at the same time, however their connections end, and whatever the system
answers: all connections are made with the one endpoint of the process, no call finds it missing after
it was set, and every query is sent over a connection to what its own resolver names. -/
theorem pool_sound (parseIp : Text → Option Ip) (trace : List (Event Ip)) (state : State Ip)
    (ran : run (next parseIp) State.start trace = some state) :
    (∀ conn ∈ state.pool.made, state.pool.endpoint = some conn.endpoint) ∧
    (∀ call ∈ state.calls, call.phase ≠ .panicked) ∧
    ∀ stream ∈ state.pool.streams, ∃ call, state.calls[stream.call]? = some call ∧
      stream.message = sendQuery call.payload ∧
      ∃ conn, state.pool.made[stream.connection]? = some conn ∧
        ∃ answer, parseDoqTarget parseIp answer call.resolver = .ok conn.target := by
  have sound : state.Sound parseIp :=
    run_invariant sound_start (fun _ _ _ sound step => sound.next step) ran
  refine ⟨sound.pool.endpoint, fun call mem panicked => ?_, sound.streams⟩
  have callSound := sound.calls call mem
  rw [Call.Sound, panicked] at callSound
  exact callSound

/-- The resolver `quic://a`. -/
def quicA : Text :=
  "quic://a".toList

/-- A call finds no connection and no endpoint. -/
def missesA (call : Nat) : List (Event Nat) :=
  [.go call .none, .go call (.addresses (.ok [7])), .go call .none]

/-- Two calls build an endpoint, and the second one's is set; both connect, and the second stores its
connection last. -/
def racingCalls : List (Event Nat) :=
  [.call quicA [0, 1], .call quicA [0, 2]] ++ missesA 0 ++ missesA 1 ++
    [.go 0 (.built none), .go 1 (.built none), .go 1 .none, .go 0 .none, .go 0 .none, .go 1 .none,
      .go 0 (.connecting .early), .go 1 (.connecting .full), .go 0 .none, .go 1 (.handshaken none),
      .go 1 .none, .go 0 (.stream (.ok [])), .go 1 (.stream (.ok []))]

/-- Hosts are no addresses here. -/
def noAddress (_ : Text) : Option Nat :=
  none

theorem pool_sound_racing : ∃ state,
    run (next noAddress) State.start racingCalls = some state ∧
    (∀ conn ∈ state.pool.made, state.pool.endpoint = some conn.endpoint) ∧
    (∀ call ∈ state.calls, call.phase ≠ .panicked) ∧
    ∀ stream ∈ state.pool.streams, ∃ call, state.calls[stream.call]? = some call ∧
      stream.message = sendQuery call.payload ∧
      ∃ conn, state.pool.made[stream.connection]? = some conn ∧
        ∃ answer, parseDoqTarget noAddress answer call.resolver = .ok conn.target := by
  have possible : (run (next noAddress) State.start racingCalls).isSome := by decide +kernel
  obtain ⟨state, ran⟩ := Option.isSome_iff_exists.mp possible
  exact ⟨state, ran, pool_sound noAddress racingCalls state ran⟩

/-! ## Connections are used again -/

/-- The call is not about to connect. -/
def Phase.IsQuiet : Phase Ip → Prop
  | .lookup | .query _ | .done _ => True
  | _ => False

instance : DecidablePred (Phase.IsQuiet : Phase Ip → Prop) := fun phase =>
  match phase with
  | .lookup | .query _ | .done _ => .isTrue trivial
  | .target | .endpoint _ | .build _ | .set _ _ | .get _ | .connect _ _ | .handshake _ _
  | .store _ | .panicked => .isFalse id

/-- The call has found the connection, or it will. -/
def Phase.Takes (connection : Nat) : Phase Ip → Prop
  | .lookup => True
  | .query other => other = connection
  | .done _ => True
  | _ => False

theorem Phase.Takes.isQuiet {phase : Phase Ip} {connection : Nat} (takes : phase.Takes connection) :
    phase.IsQuiet := by
  cases phase <;> trivial

/-- A live connection of the resolver is in the pool, and the calls from some number on take it. -/
structure Settled (parseIp : Text → Option Ip) (resolver : Text) (connection first : Nat)
    (state : State Ip) : Prop where
  sound : state.Sound parseIp
  cached : state.pool.cached resolver = some connection
  quiet : ∀ call ∈ state.calls, call.resolver = resolver → call.phase.IsQuiet
  takes : ∀ (number : Nat) (call : Call Ip), first ≤ number → state.calls[number]? = some call →
    call.resolver = resolver → call.phase.Takes connection
  streams : ∀ stream ∈ state.pool.streams, first ≤ stream.call →
    ∀ call, state.calls[stream.call]? = some call → call.resolver = resolver →
      stream.connection = connection

theorem Pool.cached_eq_some_iff {pool : Pool Ip} {resolver : Text} {connection : Nat} :
    pool.cached resolver = some connection ↔ pool.connections resolver = some connection ∧
      ∃ conn, pool.made[connection]? = some conn ∧ conn.closed = false := by
  rw [Pool.cached]
  constructor
  · intro found
    obtain ⟨pooled, here, rest⟩ := Option.bind_eq_some_iff.mp found
    obtain ⟨conn, there, last⟩ := Option.bind_eq_some_iff.mp rest
    split at last
    · contradiction
    · rename_i stillOpen
      cases last
      exact ⟨here, conn, there, Bool.not_eq_true _ ▸ stillOpen⟩
  · rintro ⟨here, conn, there, stillOpen⟩
    simp [here, there, stillOpen]

/-- A call of another resolver leaves the connection in the pool, and so does one that is not about to
connect. -/
theorem Advances.cached {pool after : Pool Ip} {number : Nat} {call : Call Ip} {phase : Phase Ip}
    (advances : Advances parseIp pool number call after phase) {resolver : Text} {connection : Nat}
    (found : pool.cached resolver = some connection)
    (apart : call.resolver = resolver → call.phase.IsQuiet) :
    after.cached resolver = some connection := by
  rw [Pool.cached_eq_some_iff] at found ⊢
  obtain ⟨pooled, conn, here, stillOpen⟩ := found
  cases advances with
  | @connected target endpoint =>
      refine ⟨pooled, conn, ?_, stillOpen⟩
      rw [Pool.connected, List.getElem?_append_left (List.getElem?_eq_some_iff.mp here).1]
      exact here
  | @store other phase =>
      have differ : resolver ≠ call.resolver := by
        intro same
        have quiet := apart same.symm
        rw [phase] at quiet
        exact quiet
      exact ⟨by rw [Pool.connections_store_of_ne pool differ, pooled], conn, here, stillOpen⟩
  | hit | miss | fail | target | endpoint | build | built | set | panic | full | query =>
      exact ⟨pooled, conn, here, stillOpen⟩

/-- A call that is not about to connect stays so where it finds a connection, and it takes that one. -/
theorem Advances.takes {pool after : Pool Ip} {number : Nat} {call : Call Ip} {phase : Phase Ip}
    (advances : Advances parseIp pool number call after phase) {connection : Nat}
    (found : pool.cached call.resolver = some connection) (quiet : call.phase.IsQuiet) :
    phase.Takes connection := by
  cases advances with
  | hit _ other =>
      cases found.symm.trans other
      exact rfl
  | miss _ none =>
      rw [found] at none
      contradiction
  | fail | query => trivial
  | endpoint here | connected here =>
      rcases here with here | here <;> rw [here] at quiet <;> exact quiet.elim
  | target here | build here | built here | set here | panic here | full here | store here =>
      rw [here] at quiet
      exact quiet.elim

theorem Settled.next {resolver : Text} {connection first : Nat} {state after : State Ip}
    {event : Event Ip} (settled : Settled parseIp resolver connection first state)
    (stays : event ≠ .close connection) (step : DoqPool.next parseIp state event = some after) :
    Settled parseIp resolver connection first after := by
  have sound := settled.sound.next step
  cases event with
  | call other payload =>
      cases step
      have place {number : Nat} {call : Call Ip}
          (found : (state.calls ++ [⟨other, payload, .lookup⟩])[number]? = some call) :
          state.calls[number]? = some call ∨ call.phase = .lookup := by
        rcases Nat.lt_or_ge number state.calls.length with old | new
        · rw [List.getElem?_append_left old] at found
          exact .inl found
        · rw [List.getElem?_append_right new] at found
          rw [List.mem_singleton.mp (List.mem_of_getElem? found)]
          exact .inr rfl
      refine ⟨sound, settled.cached, ?_, ?_, ?_⟩
      · intro call mem own
        rcases List.mem_append.mp mem with old | new
        · exact settled.quiet call old own
        · rw [List.mem_singleton.mp new]
          trivial
      · intro number call late found own
        rcases place found with old | new
        · exact settled.takes number call late old own
        · rw [new]
          trivial
      · intro stream mem late call found own
        -- A stream was opened by a call that was there before.
        obtain ⟨opener, there, _, _⟩ := settled.sound.streams stream mem
        have inside := (List.getElem?_eq_some_iff.mp there).1
        rw [List.getElem?_append_left inside] at found
        exact settled.streams stream mem late call found own
  | go number answer =>
      rw [DoqPool.next] at step
      split at step
      · contradiction
      · rename_i call found
        obtain ⟨⟨pool, phase⟩, stepped, rfl⟩ := Option.map_eq_some_iff.mp step
        have advances := advances_of_advance stepped
        have mem := List.mem_of_getElem? found
        have takes : call.resolver = resolver → phase.Takes connection := by
          rintro rfl
          exact advances.takes settled.cached (settled.quiet call mem rfl)
        have place {other : Nat} {later : Call Ip}
            (there : (state.calls.set number { call with phase })[other]? = some later) :
            (number = other ∧ later = { call with phase }) ∨ state.calls[other]? = some later := by
          by_cases same : number = other
          · subst same
            rw [List.getElem?_set_self (List.getElem?_eq_some_iff.mp found).1] at there
            exact .inl ⟨rfl, (Option.some.inj there).symm⟩
          · rw [List.getElem?_set_ne same] at there
            exact .inr there
        refine ⟨sound, advances.cached settled.cached (settled.quiet call mem), ?_, ?_, ?_⟩
        · exact forall_mem_set settled.quiet fun own => (takes own).isQuiet
        · intro other later late there own
          rcases place there with ⟨_, rfl⟩ | old
          · exact takes own
          · exact settled.takes other later late old own
        · intro stream streamMem late later there own
          rcases advances.streams streamMem with old | ⟨other, here, rfl⟩
          · rcases place there with ⟨same, rfl⟩ | before
            · exact settled.streams stream old late call (same ▸ found) own
            · exact settled.streams stream old late later before own
          · rcases place there with ⟨_, rfl⟩ | before
            · have taken := settled.takes number call late found own
              rw [here] at taken
              exact taken
            · cases found.symm.trans before
              have taken := settled.takes number call late found own
              rw [here] at taken
              exact taken
  | close other =>
      have differ : other ≠ connection := fun same => stays (by rw [same])
      rw [DoqPool.next] at step
      split at step
      · contradiction
      · cases step
        refine ⟨sound, ?_, settled.quiet, settled.takes, settled.streams⟩
        obtain ⟨pooled, conn, here, stillOpen⟩ := Pool.cached_eq_some_iff.mp settled.cached
        exact Pool.cached_eq_some_iff.mpr
          ⟨pooled, conn, by rw [List.getElem?_set_ne differ, here], stillOpen⟩

/-- From any reachable state in which a live connection to a resolver is in the pool and no call is about
to make another one: as long as that connection does not end, it stays in the pool, and every call for
the resolver that comes later sends its query over it and none of them connects. -/
theorem connection_reused (parseIp : Text → Option Ip) (before later : List (Event Ip))
    (state final : State Ip) (resolver : Text) (connection : Nat)
    (ran : run (next parseIp) State.start before = some state)
    (cached : state.pool.cached resolver = some connection)
    (quiet : ∀ call ∈ state.calls, call.resolver = resolver → call.phase.IsQuiet)
    (stays : ∀ event ∈ later, event ≠ .close connection)
    (ranLater : run (next parseIp) state later = some final) :
    final.pool.cached resolver = some connection ∧
    (∀ (number : Nat) (call : Call Ip), state.calls.length ≤ number →
      final.calls[number]? = some call → call.resolver = resolver →
        call.phase.Takes connection) ∧
    ∀ stream ∈ final.pool.streams, state.calls.length ≤ stream.call →
      ∀ call, final.calls[stream.call]? = some call → call.resolver = resolver →
        stream.connection = connection := by
  have sound : state.Sound parseIp :=
    run_invariant sound_start (fun _ _ _ sound step => sound.next step) ran
  have start : Settled parseIp resolver connection state.calls.length state := by
    refine ⟨sound, cached, quiet, ?_, ?_⟩
    · intro number call late found _
      exact absurd (List.getElem?_eq_some_iff.mp found).1 (Nat.not_lt.mpr late)
    · intro stream _ late call found _
      exact absurd (List.getElem?_eq_some_iff.mp found).1 (Nat.not_lt.mpr late)
  have settled : Settled parseIp resolver connection state.calls.length final :=
    run_invariant_along start (fun _ _ _ settled stays step => settled.next stays step)
      (along_of_forall_mem stays state) ranLater
  exact ⟨settled.cached, settled.takes, settled.streams⟩

/-- A third call comes, and the connection that is no longer in the pool ends. -/
def thirdCall : List (Event Nat) :=
  [.call quicA [0, 3], .go 2 .none, .close 0, .go 2 (.stream (.ok []))]

theorem connection_reused_third : ∃ state final,
    run (next noAddress) State.start racingCalls = some state ∧
    run (next noAddress) state thirdCall = some final ∧
    final.pool.cached quicA = some 1 ∧
    (∃ stream ∈ final.pool.streams, stream.call = 2) ∧
    ∀ stream ∈ final.pool.streams, state.calls.length ≤ stream.call →
      ∀ call, final.calls[stream.call]? = some call → call.resolver = quicA →
        stream.connection = 1 := by
  have facts : ((run (next noAddress) State.start racingCalls).map fun state =>
      (state.pool.cached quicA, decide (∀ call ∈ state.calls, call.phase.IsQuiet))) =
        some (some 1, true) := by decide +kernel
  have possible : ((run (next noAddress) State.start (racingCalls ++ thirdCall)).map fun final =>
      decide (∃ stream ∈ final.pool.streams, stream.call = 2)) = some true := by decide +kernel
  obtain ⟨state, ran, found⟩ := Option.map_eq_some_iff.mp facts
  obtain ⟨cached, quiet⟩ := Prod.mk.inj found
  obtain ⟨final, ranAll, third⟩ := Option.map_eq_some_iff.mp possible
  rw [run_append, ran] at ranAll
  have stays : ∀ event ∈ thirdCall, event ≠ .close 1 := by simp [thirdCall]
  obtain ⟨still, _, streams⟩ := connection_reused noAddress racingCalls thirdCall state final quicA 1
    ran cached (fun call mem _ => of_decide_eq_true quiet call mem) stays ranAll
  exact ⟨state, final, ran, ranAll, still, of_decide_eq_true third, streams⟩

end DnsHijacker.DnsRelay.DoqPool
