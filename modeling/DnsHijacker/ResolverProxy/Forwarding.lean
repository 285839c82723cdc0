import DnsHijacker.Library.Run
import DnsHijacker.Library.Slots
import DnsHijacker.ResolverProxy.Fairness
import DnsHijacker.ResolverProxy.Startup

/-!
# Forwarding under load

The tasks of the proxy forward their queries at the same time.  They share the counter of the picker;
everything else belongs to one call: the order of its targets, the socket of the target it tries, and
the last error.  What they send is compared here with the two configurations, that of the proxy and
that of the relay behind a target.
-/

namespace DnsHijacker.ResolverProxy.Forwarding

open DnsHijacker.Rust
open DnsHijacker.Library
open DnsHijacker.Shared
open DnsHijacker.Shared.Obfs
open DnsHijacker.DnsRelay (openDatagram payloadBufSize obfsPayloadBufSize take_obfsPayloadBufSize
  openDatagram_encode)

variable {ObfsKey : Type}

/-! ## Calls -/

/-- Where a call of `forward_query` is. -/
inductive Phase (ObfsKey : Type) where
  | trying (remaining : List (ResolvedTarget ObfsKey)) (lastErr : Error)
  /-- The query was sent, and the reply is awaited. -/
  | waiting (target : ResolvedTarget ObfsKey) (remaining : List (ResolvedTarget ObfsKey))
  | done (result : Except Error Bytes)

/-- A call of `forward_query`.  The tries it has behind it are written down for the statements only. -/
structure Call (ObfsKey : Type) where
  query : Bytes
  tries : List (Try ObfsKey)
  phase : Phase ObfsKey

/-- A datagram that was sent to a target. -/
structure Sent where
  call : Nat
  addr : Text
  datagram : Bytes

structure State (ObfsKey : Type) where
  picker : TargetPicker ObfsKey
  calls : List (Call ObfsKey)
  sent : List Sent

/-- The proxy before its first query. -/
def State.start (picker : TargetPicker ObfsKey) : State ObfsKey where
  picker := picker
  calls := []
  sent := []

/-- What comes from outside for a step of a call. -/
inductive Answer where
  | none
  /-- The socket is bound, connected, and has sent the datagram. -/
  | sent (draw : Draw)
  /-- What has come of a try: a datagram, or no more than an error. -/
  | attempt (attempt : Attempt)

inductive Event where
  /-- A datagram of a client is to be forwarded. -/
  | query (datagram : Bytes)
  | go (call : Nat) (answer : Answer)

variable (cipher : Cipher ObfsKey)

/-- What `send_plain` and `send_obfs` send. -/
def message (target : ResolvedTarget ObfsKey) (query : Bytes) (draw : Draw) : Bytes :=
  match mode : target.mode with
  | .plain => query
  | .udpObfs => encode cipher (target.key.get (target.validated mode)) query draw

/-- The call after a try. -/
def Call.after (call : Call ObfsKey) (attempted : Try ObfsKey)
    (remaining : List (ResolvedTarget ObfsKey)) (outcome : Except Error Bytes) : Call ObfsKey :=
  { call with
    tries := call.tries ++ [attempted]
    phase :=
      match outcome with
      | .ok reply => .done (.ok reply)
      | .error err => .trying remaining err }

/-- A step of a call, and the datagram it sends. -/
def advance (call : Call ObfsKey) : Answer → Option (Call ObfsKey × Option (Text × Bytes))
  | .none =>
      match call.phase with
      | .trying [] lastErr => some ({ call with phase := .done (.error lastErr) }, none)
      | _ => none
  | .sent draw =>
      match call.phase with
      | .trying (target :: remaining) _ =>
          some ({ call with phase := .waiting target remaining },
            some (target.addr, message cipher target call.query draw))
      | _ => none
  | .attempt attempt =>
      match call.phase, attempt with
      -- Nothing could be sent.
      | .trying (target :: remaining) _, .failed err =>
          some (call.after (target, .failed err) remaining (.error err), none)
      | .waiting target remaining, attempt =>
          some (call.after (target, attempt) remaining (sendTo cipher (target, attempt)), none)
      | _, _ => none

/-- One event.  A query comes with the buffer it was received into. -/
def next (state : State ObfsKey) : Event → Option (State ObfsKey)
  | .query datagram =>
      let call : Call ObfsKey := {
        query := datagram.take payloadBufSize
        tries := []
        phase := .trying state.picker.tryOrder.1 .noHealthyResolvers }
      some { state with picker := state.picker.tryOrder.2, calls := state.calls ++ [call] }
  | .go number answer =>
      match state.calls[number]? with
      | none => none
      | some call =>
          (advance cipher call answer).map fun (after, datagram) =>
            { state with
              calls := state.calls.set number after
              sent := state.sent ++
                (datagram.map fun (addr, datagram) => ⟨number, addr, datagram⟩).toList }

/-! ## The relay's keys -/

/-- `ObfsConf`, as far as the keys of the listener go. -/
structure ObfsConf where
  enable : Bool
  keys : List Text

variable (fromBytes : KeyBytes → ObfsKey)

/-- The keys `run_server` of the relay starts its listener with; texts that are no keys are left
out. -/
def startListener (conf : ObfsConf) : Option (List ObfsKey) :=
  if conf.enable then
    let obfsKeys := conf.keys.filterMap (fromBase64 fromBytes)
    if obfsKeys.isEmpty then none else some obfsKeys
  else none

variable {cipher fromBytes}

theorem mem_startListener {conf : ObfsConf} {keys : List ObfsKey} {key : ObfsKey}
    (listens : startListener fromBytes conf = some keys) :
    key ∈ keys ↔ ∃ bytes, generateBase64 bytes ∈ conf.keys ∧ fromBytes bytes = key := by
  simp only [startListener] at listens
  split at listens
  · split at listens
    · contradiction
    · cases listens
      rw [List.mem_filterMap]
      simp only [fromBase64_eq_some_iff]
      constructor
      · rintro ⟨_, mem, bytes, rfl, same⟩
        exact ⟨bytes, mem, same⟩
      · rintro ⟨bytes, mem, same⟩
        exact ⟨_, mem, bytes, rfl, same⟩
  · contradiction

/-- A datagram does not open under keys that reject it. -/
theorem openDatagram_encode_of_rejects {keys : List ObfsKey} {key : ObfsKey}
    (rejects : ∀ other ∈ keys, cipher.Rejects other key) (query : Bytes) (draw : Draw) :
    openDatagram cipher keys (encode cipher key query draw) = none := by
  rw [openDatagram, List.findSome?_eq_none_iff]
  intro other mem
  rw [decode_encode_other (rejects other mem), Option.map_none]

/-! ## One call -/

/-- The call has tried the first of its targets in vain, goes on with the rest, and what it will
return is what `forward_query` returns. -/
def Call.Sound (cipher : Cipher ObfsKey) (order : List (ResolvedTarget ObfsKey))
    (call : Call ObfsKey) : Prop :=
  match call.phase with
  | .trying remaining lastErr =>
      call.tries.map Prod.fst ++ remaining = order ∧
        ∀ rest, forwardFrom cipher .noHealthyResolvers (call.tries ++ rest) =
          forwardFrom cipher lastErr rest
  | .waiting target remaining =>
      call.tries.map Prod.fst ++ target :: remaining = order ∧
        ∃ lastErr, ∀ rest, forwardFrom cipher .noHealthyResolvers (call.tries ++ rest) =
          forwardFrom cipher lastErr rest
  | .done result =>
      forwardFrom cipher .noHealthyResolvers call.tries = result ∧
        call.tries.map Prod.fst <+: order ∧
        ((∃ err, result = .error err) → call.tries.map Prod.fst = order)

theorem Call.Sound.after {call : Call ObfsKey} {order remaining : List (ResolvedTarget ObfsKey)}
    {target : ResolvedTarget ObfsKey} {attempt : Attempt} {lastErr : Error}
    (split : call.tries.map Prod.fst ++ target :: remaining = order)
    (forwards : ∀ rest, forwardFrom cipher .noHealthyResolvers (call.tries ++ rest) =
      forwardFrom cipher lastErr rest) :
    (call.after (target, attempt) remaining (sendTo cipher (target, attempt))).Sound cipher order := by
  cases outcome : sendTo cipher (target, attempt) with
  | error err =>
      dsimp only [Call.Sound, Call.after]
      constructor
      · rw [List.map_append, List.append_assoc]
        exact split
      · intro rest
        rw [List.append_assoc, forwards, List.singleton_append, forwardFrom, outcome]
  | ok reply =>
      dsimp only [Call.Sound, Call.after]
      refine ⟨?_, ?_, ?_⟩
      · rw [forwards, forwardFrom, outcome]
      · rw [List.map_append, ← split]
        exact ⟨remaining, by simp⟩
      · rintro ⟨err, same⟩
        contradiction

theorem sendTo_failed (cipher : Cipher ObfsKey) (target : ResolvedTarget ObfsKey) (err : Error) :
    sendTo cipher (target, .failed err) = .error err := by
  rw [sendTo]
  split <;> rfl

theorem Call.Sound.advance {call after : Call ObfsKey} {order : List (ResolvedTarget ObfsKey)}
    {answer : Answer} {datagram : Option (Text × Bytes)} (sound : call.Sound cipher order)
    (step : advance cipher call answer = some (after, datagram)) : after.Sound cipher order := by
  rw [Call.Sound] at sound
  cases answer with
  | none =>
      simp only [Forwarding.advance] at step
      split at step
      · rename_i lastErr here
        cases step
        rw [here] at sound
        obtain ⟨split, forwards⟩ := sound
        rw [List.append_nil] at split
        have all := forwards []
        rw [List.append_nil] at all
        exact ⟨all, split ▸ List.prefix_rfl, fun _ => split⟩
      · contradiction
  | sent draw =>
      simp only [Forwarding.advance] at step
      split at step
      · rename_i target remaining lastErr here
        cases step
        rw [here] at sound
        exact ⟨sound.1, lastErr, sound.2⟩
      · contradiction
  | attempt attempt =>
      simp only [Forwarding.advance] at step
      split at step
      · rename_i target remaining lastErr err here
        cases step
        rw [here] at sound
        rw [← sendTo_failed cipher target err]
        exact .after sound.1 sound.2
      · rename_i target remaining attempt here
        cases step
        rw [here] at sound
        obtain ⟨split, lastErr, forwards⟩ := sound
        exact .after split forwards
      · contradiction

/-- What a call sends goes to the target that it tries. -/
theorem target_of_advance {call after : Call ObfsKey} {order : List (ResolvedTarget ObfsKey)}
    {answer : Answer} {addr : Text} {datagram : Bytes} (sound : call.Sound cipher order)
    (step : advance cipher call answer = some (after, some (addr, datagram))) :
    ∃ target ∈ order, addr = target.addr ∧
      ∃ draw, datagram = message cipher target call.query draw := by
  rw [Call.Sound] at sound
  cases answer with
  | none =>
      simp only [Forwarding.advance] at step
      split at step <;> cases step
  | sent draw =>
      simp only [Forwarding.advance] at step
      split at step
      · rename_i target remaining lastErr here
        cases step
        rw [here] at sound
        have mem : target ∈ order := sound.1 ▸ List.mem_append_right _ List.mem_cons_self
        exact ⟨target, mem, rfl, draw, rfl⟩
      · contradiction
  | attempt attempt =>
      simp only [Forwarding.advance] at step
      split at step <;> cases step

theorem query_of_advance {call after : Call ObfsKey} {answer : Answer}
    {datagram : Option (Text × Bytes)}
    (step : advance cipher call answer = some (after, datagram)) : after.query = call.query := by
  cases answer <;> simp only [Forwarding.advance] at step <;> split at step <;> cases step <;> rfl

/-! ## All calls -/

/-- The order of the targets for the call with this number. -/
def orderOf (picker : TargetPicker ObfsKey) (number : Nat) : List (ResolvedTarget ObfsKey) :=
  (picker.atTicket (picker.cursor + UInt64.ofNat number)).tryOrder.1

theorem orderOf_perm (picker : TargetPicker ObfsKey) (number : Nat) :
    (orderOf picker number).Perm picker.targets := by
  have listed := (picker.atTicket (picker.cursor + UInt64.ofNat number)).order_perm.map
    picker.targets.get
  rw [orderOf, TargetPicker.tryOrder_eq]
  exact listed.trans (.of_eq (List.map_get_finRange picker.targets))

/-- What is on its way to a target: its address, and the query as the target's mode has it. -/
def IsFor (cipher : Cipher ObfsKey) (target : ResolvedTarget ObfsKey) (query : Bytes)
    (sent : Sent) : Prop :=
  sent.addr = target.addr ∧ ∃ draw, sent.datagram = message cipher target query draw

/-- The state after calls of a picker. -/
structure State.Sound (cipher : Cipher ObfsKey) (picker : TargetPicker ObfsKey)
    (state : State ObfsKey) : Prop where
  same : state.picker = picker.atTicket state.picker.cursor
  turn : picker.strategy = .roundRobin →
    state.picker.cursor = picker.cursor + UInt64.ofNat state.calls.length
  calls : ∀ (number : Nat) (call : Call ObfsKey), state.calls[number]? = some call →
    call.Sound cipher (orderOf picker number) ∧ call.query.length ≤ payloadBufSize
  sent : ∀ sent ∈ state.sent, ∃ call, state.calls[sent.call]? = some call ∧
    ∃ target ∈ picker.targets, IsFor cipher target call.query sent

theorem sound_start (cipher : Cipher ObfsKey) (picker : TargetPicker ObfsKey) :
    (State.start picker).Sound cipher picker where
  same := rfl
  turn _ := (UInt64.add_zero _).symm
  calls _ _ found := by cases found
  sent _ mem := absurd mem List.not_mem_nil

/-- The next call gets its turn. -/
theorem State.Sound.tryOrder {picker : TargetPicker ObfsKey} {state : State ObfsKey}
    (sound : state.Sound cipher picker) :
    state.picker.tryOrder.1 = orderOf picker state.calls.length ∧
      state.picker.tryOrder.2 = picker.atTicket state.picker.tryOrder.2.cursor ∧
      (picker.strategy = .roundRobin → state.picker.tryOrder.2.cursor =
        picker.cursor + UInt64.ofNat (state.calls.length + 1)) := by
  cases strategy : picker.strategy with
  | ordered =>
      have ordered (ticket : UInt64) : (picker.atTicket ticket).tryOrder =
          (picker.targets, picker.atTicket ticket) := by
        simp only [TargetPicker.tryOrder, TargetPicker.atTicket, strategy]
      rw [orderOf, sound.same, ordered, ordered]
      refine ⟨rfl, rfl, fun turns => ?_⟩
      cases turns
  | roundRobin =>
      have turns (ticket : UInt64) := picker.tryOrder_atTicket strategy ticket
      rw [orderOf, sound.same, turns, turns, sound.turn strategy]
      refine ⟨rfl, rfl, fun _ => ?_⟩
      rw [UInt64.ofNat_add, ← UInt64.add_assoc]
      rfl

theorem State.Sound.query {picker : TargetPicker ObfsKey} {state after : State ObfsKey}
    {datagram : Bytes} (sound : state.Sound cipher picker)
    (step : next cipher state (.query datagram) = some after) : after.Sound cipher picker := by
  obtain ⟨order, same, cursor⟩ := sound.tryOrder
  cases step
  refine ⟨same, fun turns => ?_, fun number call found => ?_, fun sent mem => ?_⟩
  · rw [cursor turns, List.length_append, List.length_singleton]
  · rcases Nat.lt_or_ge number state.calls.length with old | new
    · rw [List.getElem?_append_left old] at found
      exact sound.calls number call found
    · rw [List.getElem?_append_right new] at found
      obtain ⟨first, rfl⟩ : number - state.calls.length = 0 ∧ _ = call := by
        simpa [List.getElem?_singleton] using found
      have here : number = state.calls.length := Nat.le_antisymm (Nat.le_of_sub_eq_zero first) new
      rw [here, ← order]
      exact ⟨⟨rfl, fun rest => rfl⟩, List.length_take_le _ _⟩
  · obtain ⟨call, found, here⟩ := sound.sent sent mem
    refine ⟨call, ?_, here⟩
    rw [List.getElem?_append_left (List.getElem?_eq_some_iff.mp found).1, found]

theorem State.Sound.go {picker : TargetPicker ObfsKey} {state after : State ObfsKey}
    {number : Nat} {answer : Answer} (sound : state.Sound cipher picker)
    (step : next cipher state (.go number answer) = some after) : after.Sound cipher picker := by
  rw [next] at step
  split at step
  · contradiction
  · rename_i call found
    obtain ⟨⟨moved, datagram⟩, advanced, rfl⟩ := Option.map_eq_some_iff.mp step
    obtain ⟨callSound, short⟩ := sound.calls number call found
    have inside := (List.getElem?_eq_some_iff.mp found).1
    have query := query_of_advance advanced
    -- A call that was there is there with its query.
    have place {other : Nat} {before : Call ObfsKey} (there : state.calls[other]? = some before) :
        ∃ later, (state.calls.set number moved)[other]? = some later ∧
          later.query = before.query := by
      by_cases same : number = other
      · subst same
        cases found.symm.trans there
        exact ⟨moved, List.getElem?_set_self inside, query⟩
      · exact ⟨before, by rw [List.getElem?_set_ne same, there], rfl⟩
    refine ⟨sound.same, fun turns => ?_, fun other later there => ?_, fun sent mem => ?_⟩
    · rw [List.length_set]
      exact sound.turn turns
    · by_cases same : number = other
      · subst same
        rw [List.getElem?_set_self inside] at there
        cases there
        exact ⟨callSound.advance advanced, query ▸ short⟩
      · rw [List.getElem?_set_ne same] at there
        exact sound.calls other later there
    · rcases List.mem_append.mp mem with old | new
      · obtain ⟨before, there, target, targetMem, isFor⟩ := sound.sent sent old
        obtain ⟨later, here, sameQuery⟩ := place there
        exact ⟨later, here, target, targetMem, sameQuery ▸ isFor⟩
      · rw [Option.mem_toList, Option.map_eq_some_iff] at new
        obtain ⟨⟨addr, content⟩, rfl, rfl⟩ := new
        obtain ⟨target, listed, rfl, draw, rfl⟩ := target_of_advance callSound advanced
        obtain ⟨later, here, sameQuery⟩ := place found
        exact ⟨later, here, target, (orderOf_perm picker number).mem_iff.mp listed, rfl, draw,
          by rw [sameQuery]⟩

theorem State.Sound.next {picker : TargetPicker ObfsKey} {state after : State ObfsKey}
    {event : Event} (sound : state.Sound cipher picker)
    (step : next cipher state event = some after) : after.Sound cipher picker := by
  cases event with
  | query datagram => exact sound.query step
  | go number answer => exact sound.go step

/-! ## Two configurations -/

/-- The cipher tells the key of a target from the other keys of the relay: what is encrypted under the
one decrypts under none of the others. -/
def KeysApart (cipher : Cipher ObfsKey) (fromBytes : KeyBytes → ObfsKey) (conf : ProxyConf)
    (relayConf : ObfsConf) : Prop :=
  ∀ target ∈ conf.targets, ∀ key other, target.sharedKey = some (generateBase64 key) →
    generateBase64 other ∈ relayConf.keys → other ≠ key →
      cipher.Rejects (fromBytes other) (fromBytes key)

/-- What a datagram to a configured target carries.  The listener of a relay opens one for `udp_obfs`
exactly if the text of its key stands among the listener's. -/
def Carries (cipher : Cipher ObfsKey) (fromBytes : KeyBytes → ObfsKey) (relayConf : ObfsConf)
    (target : ProxyTarget) (query datagram : Bytes) : Prop :=
  match target.mode with
  | .plain => datagram = query
  | .udpObfs => ∃ key, target.sharedKey = some (generateBase64 key) ∧
      ∀ keys, startListener fromBytes relayConf = some keys →
        openDatagram cipher keys (datagram.take obfsPayloadBufSize) =
          if generateBase64 key ∈ relayConf.keys then some (fromBytes key, query) else none

theorem carries_message {toSocketAddrs : ToSocketAddrs} {conf : ProxyConf} {relayConf : ObfsConf}
    {target : ProxyTarget} {resolved : ResolvedTarget ObfsKey}
    (configured : Configured fromBytes toSocketAddrs target resolved) (mem : target ∈ conf.targets)
    (apart : KeysApart cipher fromBytes conf relayConf) {query : Bytes}
    (short : query.length ≤ payloadBufSize) (draw : Draw) :
    Carries cipher fromBytes relayConf target query (message cipher resolved query draw) := by
  rw [Carries, message]
  cases mode : target.mode with
  | plain =>
      dsimp only
      split
      · rfl
      · rename_i obfs
        rw [configured.mode, mode] at obfs
        contradiction
  | udpObfs =>
      obtain ⟨key, text, keyed⟩ := configured.keyed mode
      refine ⟨key, text, fun keys listens => ?_⟩
      split
      · rename_i plain
        rw [configured.mode, mode] at plain
        contradiction
      · simp only [keyed, Option.get_some]
        rw [take_obfsPayloadBufSize _ short]
        split
        · rename_i listed
          have known := (mem_startListener listens).mpr ⟨key, listed, rfl⟩
          rw [payloadBufSize] at short
          refine openDatagram_encode known ?_ (by omega) draw
          intro _ otherKnown different
          obtain ⟨other, otherListed, rfl⟩ := (mem_startListener listens).mp otherKnown
          exact apart target mem key other text otherListed fun same => different (same ▸ rfl)
        · rename_i missing
          apply openDatagram_encode_of_rejects
          intro _ known
          obtain ⟨other, listed, rfl⟩ := (mem_startListener listens).mp known
          exact apart target mem key other text listed fun same => missing (same ▸ listed)

/-- The proxy as it starts with its configuration, and any number of queries forwarded at the same
time, whatever comes back.  Every datagram goes to the first address of a configured target and
carries the query of its call, plainly or so that a relay behind it opens it to that query exactly if
its configuration has the text of the target's key.  A call that ends has gone through the targets in
the order of its turn, and returns what `forward_query` returns.  Of the cipher it is assumed that
nothing encrypted under the key of a target decrypts under another key of the relay. -/
theorem configured_hop (cipher : Cipher ObfsKey) (fromBytes : KeyBytes → ObfsKey)
    (toSocketAddrs : ToSocketAddrs) {conf : ProxyConf} {relayConf : ObfsConf}
    {picker : TargetPicker ObfsKey}
    (started : startPicker fromBytes toSocketAddrs conf = .ok picker)
    (apart : KeysApart cipher fromBytes conf relayConf) {trace : List Event} {state : State ObfsKey}
    (ran : run (next cipher) (.start picker) trace = some state) :
    (∀ sent ∈ state.sent, ∃ call target, state.calls[sent.call]? = some call ∧
      target ∈ conf.targets ∧ (∃ others, toSocketAddrs target.address = .ok (sent.addr :: others)) ∧
      Carries cipher fromBytes relayConf target call.query sent.datagram) ∧
    ∀ number call result, state.calls[number]? = some call → call.phase = .done result →
      forwardFrom cipher .noHealthyResolvers call.tries = result ∧
        call.tries.map Prod.fst <+: orderOf picker number ∧
        ((∃ err, result = .error err) → call.tries.map Prod.fst = orderOf picker number) ∧
        (orderOf picker number).Perm picker.targets := by
  have sound : state.Sound cipher picker :=
    run_invariant (sound_start cipher picker) (fun _ _ _ sound step => sound.next step) ran
  constructor
  · intro sent mem
    obtain ⟨call, found, resolved, listed, addr, draw, content⟩ := sound.sent sent mem
    obtain ⟨target, targetMem, configured⟩ :=
      exists_of_mem_outputs (configured_of_startPicker started) listed
    refine ⟨call, target, found, targetMem, ?_, ?_⟩
    · rw [addr]
      exact configured.addr
    · rw [content]
      exact carries_message configured targetMem apart (sound.calls _ call found).2 draw
  · intro number call result found ended
    have callSound := (sound.calls number call found).1
    rw [Call.Sound, ended] at callSound
    obtain ⟨returned, before, all⟩ := callSound
    exact ⟨returned, before, all, orderOf_perm picker number⟩

/-! ## Two calls at the same time -/

def sevens : KeyBytes where
  bytes := List.replicate 32 7
  length_bytes := rfl

def eights : KeyBytes where
  bytes := List.replicate 32 8
  length_bytes := rfl

theorem length_take_tagLen (key : KeyBytes) : (key.bytes.take tagLen).length = tagLen :=
  List.length_take_of_le (by rw [key.length_bytes]; decide)

/-- The tag is the first half of the key. -/
def halfTagged : Cipher KeyBytes :=
  .tagging (fun key => key.bytes.take tagLen) length_take_tagLen

/-- Every address is one of a socket already. -/
def literal : ToSocketAddrs :=
  fun address => .ok [address]

/-- A relay behind the first target, and a resolver as the other one. -/
def relayAndResolver : ProxyConf where
  targets := [
    ⟨"relay".toList, .udpObfs, "192.0.2.1:8853".toList, some (generateBase64 sevens)⟩,
    ⟨"resolver".toList, .plain, "192.0.2.2:53".toList, none⟩]
  strategy := .roundRobin

/-- Another key comes before the target's. -/
def relayWithSevens : ObfsConf where
  enable := true
  keys := ["not a key".toList, generateBase64 eights, generateBase64 sevens]

theorem keysApart_sevens : KeysApart halfTagged id relayAndResolver relayWithSevens := by
  intro target mem key other text listed different
  have keyIs : key = sevens := by
    rcases List.mem_cons.mp mem with rfl | last
    · exact generateBase64_injective (Option.some.inj text).symm
    · rw [List.mem_singleton.mp last] at text
      contradiction
  have otherIs : other = eights := by
    have unread : keyBytes "not a key".toList = none := by decide
    rcases List.mem_cons.mp listed with broken | valid
    · rw [← broken, keyBytes_generateBase64] at unread
      contradiction
    · rcases List.mem_cons.mp valid with first | last
      · exact generateBase64_injective first
      · have same := generateBase64_injective (List.mem_singleton.mp last)
        exact absurd (same.trans keyIs.symm) different
  rw [otherIs, keyIs]
  exact Cipher.rejects_tagging (by decide)

/-- The relay's reply to the first call does not decode, and the other calls the resolver first. -/
def crossing : List Event :=
  [.query [1, 2, 3], .query [4], .go 0 (.sent .zero), .go 1 (.sent .zero),
    .go 0 (.attempt (.arrivals [[0]])), .go 1 (.attempt (.arrivals [[9]])), .go 0 (.sent .zero),
    .go 0 (.attempt (.failed .resolveTimeout)), .go 0 .none]

theorem configured_hop_crossing : ∃ picker state,
    startPicker id literal relayAndResolver = .ok picker ∧
    run (next halfTagged) (.start picker) crossing = some state ∧ state.sent.length = 3 ∧
    (∀ sent ∈ state.sent, ∃ call target, state.calls[sent.call]? = some call ∧
      target ∈ relayAndResolver.targets ∧
      (∃ others, literal target.address = .ok (sent.addr :: others)) ∧
      Carries halfTagged id relayWithSevens target call.query sent.datagram) ∧
    ∀ (number : Nat) (call : Call KeyBytes) result, state.calls[number]? = some call →
      call.phase = .done result → forwardFrom halfTagged .noHealthyResolvers call.tries = result := by
  have possible : (startPicker id literal relayAndResolver).toOption.bind (fun picker =>
      (run (next halfTagged) (.start picker) crossing).map fun state => state.sent.length) =
        some 3 := by decide +kernel
  obtain ⟨picker, found, rest⟩ := Option.bind_eq_some_iff.mp possible
  obtain ⟨state, ran, three⟩ := Option.map_eq_some_iff.mp rest
  have started : startPicker id literal relayAndResolver = .ok picker := by
    cases here : startPicker id literal relayAndResolver with
    | error err =>
        rw [here] at found
        contradiction
    | ok other =>
        rw [here] at found
        exact congrArg Except.ok (Option.some.inj found)
  obtain ⟨carried, returned⟩ :=
    configured_hop halfTagged id literal started keysApart_sevens ran
  exact ⟨picker, state, started, ran, three, carried,
    fun number call result there ended => (returned number call result there ended).1⟩

end DnsHijacker.ResolverProxy.Forwarding
