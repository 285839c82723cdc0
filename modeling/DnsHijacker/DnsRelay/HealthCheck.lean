import DnsHijacker.Library.Run
import DnsHijacker.DnsRelay.Resolver

/-!
# Health checks over one socket

All probes of a health check go out through one unconnected UDP socket and wait
on that same socket.  Its buffer is a queue, and whichever probe is waiting may
take the datagram at its head.  A probe takes any datagram for the answer it
waits for: the source that `recv_from` returns is thrown away.
-/

namespace DnsHijacker.DnsRelay.HealthCheck

open DnsHijacker.Rust
open DnsHijacker.Library

/-- A probe between `send_to` and `recv_from`. -/
structure Probe where
  resolver : Text
  addr : SocketAddr
  sentAt : Nat
  /-- The number of datagrams that had arrived before the probe was sent. -/
  since : Nat
  deriving DecidableEq

/-- A datagram in the buffer of the socket; datagrams are numbered as they
arrive. -/
structure Datagram where
  source : SocketAddr
  number : Nat
  deriving DecidableEq

/-- A round of health checks. -/
structure Round where
  /-- The resolvers whose checks have no permit yet. -/
  queued : List Text
  probes : List Probe
  inbox : List Datagram
  arrived : Nat
  results : List Resolver
  deriving DecidableEq

/-- A round begins with whatever an earlier use left in the buffer. -/
def Round.start (resolvers : List Text) (stale : List Datagram) (arrived : Nat) : Round where
  queued := resolvers
  probes := []
  inbox := stale
  arrived := arrived
  results := []

inductive Event where
  /-- A check gets its permit, but its resolver does not parse or cannot be sent
  to. -/
  | refuse (resolver : Text)
  | send (resolver : Text) (now : Nat)
  | arrive (source : SocketAddr)
  | receive (resolver : Text) (now : Nat)
  /-- The wait of a probe times out or fails. -/
  | giveUp (resolver : Text)
  deriving DecidableEq

/-- One event of the round; `measure_latency` of a plain resolver is `send` and
one of the last two. -/
def step (round : Round) : Event → Option Round
  | .refuse resolver =>
      if resolver ∈ round.queued ∧ round.probes.length < healthCheckConcurrency then
        some { round with queued := round.queued.erase resolver }
      else none
  | .send resolver now =>
      if resolver ∈ round.queued ∧ round.probes.length < healthCheckConcurrency then
        (parseSocketAddr resolver).map fun addr =>
          { round with
            queued := round.queued.erase resolver
            probes := ⟨resolver, addr, now, round.arrived⟩ :: round.probes }
      else none
  | .arrive source =>
      some { round with
        inbox := round.inbox ++ [⟨source, round.arrived⟩]
        arrived := round.arrived + 1 }
  | .receive resolver now =>
      match round.probes.find? (·.resolver = resolver), round.inbox with
      | some probe, _ :: inbox =>
          some { round with
            probes := round.probes.erase probe
            inbox
            results := (resolver, now - probe.sentAt) :: round.results }
      | _, _ => none
  | .giveUp resolver =>
      (round.probes.find? (·.resolver = resolver)).map fun probe =>
        { round with probes := round.probes.erase probe }

/-! ## Order of the events -/

/-- The resolver was probed, and then a datagram came from its address. -/
def Answered (trace : List Event) (resolver : Text) : Prop :=
  ∃ addr now, parseSocketAddr resolver = some addr ∧
    [Event.send resolver now, .arrive addr].Sublist trace

/-- A datagram that is taken comes from the address its probe was sent to, and
came after the probe was sent. -/
def TakesOwn (round : Round) : Event → Prop
  | .receive resolver _ => ∀ probe ∈ round.probes, probe.resolver = resolver →
      ∀ datagram ∈ round.inbox.head?, datagram.source = probe.addr ∧ probe.since ≤ datagram.number
  | _ => True

instance (round : Round) : (event : Event) → Decidable (TakesOwn round event)
  | .receive resolver _ => inferInstanceAs (Decidable (∀ probe ∈ round.probes,
      probe.resolver = resolver → ∀ datagram ∈ round.inbox.head?,
        datagram.source = probe.addr ∧ probe.since ≤ datagram.number))
  | .refuse _ | .send _ _ | .arrive _ | .giveUp _ => isTrue trivial

/-- What the events so far say about the round. -/
structure Ordered (trace : List Event) (round : Round) : Prop where
  sent : ∀ probe ∈ round.probes, parseSocketAddr probe.resolver = some probe.addr ∧
    Event.send probe.resolver probe.sentAt ∈ trace
  numbered : ∀ datagram ∈ round.inbox, datagram.number < round.arrived
  ordered : ∀ probe ∈ round.probes, ∀ datagram ∈ round.inbox, probe.since ≤ datagram.number →
    [Event.send probe.resolver probe.sentAt, .arrive datagram.source].Sublist trace
  answered : ∀ result ∈ round.results, Answered trace result.1

theorem Answered.concat {trace : List Event} {resolver : Text} (answered : Answered trace resolver)
    (event : Event) : Answered (trace ++ [event]) resolver := by
  rcases answered with ⟨addr, now, parsed, ordered⟩
  exact ⟨addr, now, parsed, ordered.trans (List.sublist_append_left trace [event])⟩

/-- A step that sends nothing and receives nothing keeps the order. -/
theorem Ordered.mono {trace : List Event} {round after : Round}
    (inv : Ordered trace round) (event : Event)
    (probes : ∀ probe ∈ after.probes, probe ∈ round.probes)
    (inbox : ∀ datagram ∈ after.inbox, datagram ∈ round.inbox)
    (arrived : after.arrived = round.arrived)
    (results : ∀ result ∈ after.results, result ∈ round.results ∨
      Answered (trace ++ [event]) result.1) :
    Ordered (trace ++ [event]) after where
  sent probe mem := by
    rcases inv.sent probe (probes probe mem) with ⟨parsed, before⟩
    exact ⟨parsed, List.mem_append_left [event] before⟩
  numbered datagram mem := by
    rw [arrived]
    exact inv.numbered datagram (inbox datagram mem)
  ordered probe mem datagram datagramMem later :=
    (inv.ordered probe (probes probe mem) datagram (inbox datagram datagramMem) later).trans
      (List.sublist_append_left trace [event])
  answered result mem := by
    rcases results result mem with old | new
    · exact (inv.answered result old).concat event
    · exact new

/-- Sending: nothing in the buffer is newer than the new probe. -/
theorem Ordered.send {trace : List Event} {round after : Round} {resolver : Text} {now : Nat}
    (inv : Ordered trace round) (stepped : step round (.send resolver now) = some after) :
    Ordered (trace ++ [.send resolver now]) after := by
  rw [step] at stepped
  split at stepped
  · rcases Option.map_eq_some_iff.mp stepped with ⟨addr, parsed, rfl⟩
    constructor
    · intro probe mem
      rcases List.mem_cons.mp mem with rfl | old
      · exact ⟨parsed, List.mem_append_right trace List.mem_cons_self⟩
      · rcases inv.sent probe old with ⟨parsedOld, before⟩
        exact ⟨parsedOld, List.mem_append_left _ before⟩
    · exact inv.numbered
    · intro probe mem datagram datagramMem later
      rcases List.mem_cons.mp mem with rfl | old
      · exact absurd later (Nat.not_le.mpr (inv.numbered datagram datagramMem))
      · exact (inv.ordered probe old datagram datagramMem later).trans
          (List.sublist_append_left trace _)
    · intro result mem
      exact (inv.answered result mem).concat _
  · contradiction

/-- An arrival comes after every probe that is waiting. -/
theorem Ordered.arrive {trace : List Event} {round after : Round} {source : SocketAddr}
    (inv : Ordered trace round) (stepped : step round (.arrive source) = some after) :
    Ordered (trace ++ [.arrive source]) after := by
  cases stepped
  constructor
  · intro probe mem
    rcases inv.sent probe mem with ⟨parsed, before⟩
    exact ⟨parsed, List.mem_append_left _ before⟩
  · intro datagram mem
    rcases List.mem_append.mp mem with old | new
    · exact Nat.lt_succ_of_lt (inv.numbered datagram old)
    · cases List.mem_singleton.mp new
      exact Nat.lt_succ_self _
  · intro probe mem datagram datagramMem later
    rcases List.mem_append.mp datagramMem with old | new
    · exact (inv.ordered probe mem datagram old later).trans (List.sublist_append_left trace _)
    · cases List.mem_singleton.mp new
      exact (List.singleton_sublist.mpr (inv.sent probe mem).2).append (List.Sublist.refl _)
  · intro result mem
    exact (inv.answered result mem).concat _

/-- Receiving one's own datagram. -/
theorem Ordered.receive {trace : List Event} {round after : Round} {resolver : Text} {now : Nat}
    (inv : Ordered trace round) (own : TakesOwn round (.receive resolver now))
    (stepped : step round (.receive resolver now) = some after) :
    Ordered (trace ++ [.receive resolver now]) after := by
  rw [step] at stepped
  split at stepped
  · next probe datagram rest found inbox =>
      cases stepped
      have mem := List.mem_of_find?_eq_some found
      have same : probe.resolver = resolver := by simpa using List.find?_some found
      rcases own probe mem same datagram (by rw [inbox]; rfl) with ⟨source, later⟩
      have here : Answered trace resolver := by
        refine ⟨probe.addr, probe.sentAt, same ▸ (inv.sent probe mem).1, ?_⟩
        have ordered := inv.ordered probe mem datagram
          (by rw [inbox]; exact List.mem_cons_self) later
        rw [source, same] at ordered
        exact ordered
      apply inv.mono
      · intro other otherMem
        exact List.mem_of_mem_erase otherMem
      · intro other otherMem
        rw [inbox]
        exact List.mem_cons_of_mem datagram otherMem
      · rfl
      · intro result resultMem
        rcases List.mem_cons.mp resultMem with rfl | old
        · exact .inr (here.concat _)
        · exact .inl old
  · contradiction

/-- Every step in which a probe takes its own datagram keeps the order. -/
theorem Ordered.step {trace : List Event} {round after : Round} {event : Event}
    (inv : Ordered trace round) (own : TakesOwn round event)
    (stepped : step round event = some after) : Ordered (trace ++ [event]) after := by
  cases event with
  | send resolver now => exact inv.send stepped
  | arrive source => exact inv.arrive stepped
  | receive resolver now => exact inv.receive own stepped
  | refuse resolver =>
      rw [HealthCheck.step] at stepped
      split at stepped
      · cases stepped
        exact inv.mono _ (fun _ mem => mem) (fun _ mem => mem) rfl fun _ mem => .inl mem
      · contradiction
  | giveUp resolver =>
      rw [HealthCheck.step] at stepped
      rcases Option.map_eq_some_iff.mp stepped with ⟨probe, _, rfl⟩
      exact inv.mono _ (fun _ mem => List.mem_of_mem_erase mem) (fun _ mem => mem) rfl
        fun _ mem => .inl mem

/-- In every round in which each probe that receives takes a datagram of its own
resolver that is newer than the probe, a resolver with a result was probed and
answered.  So was every resolver of the pool that `test_resolvers` makes of the
results, and every one that a finder cycle adds to its pool; a resolver from
whose address nothing arrives is in neither. -/
theorem healthy_answered (resolvers : List Text) (stale : List Datagram) (arrived : Nat)
    (earlier : ∀ datagram ∈ stale, datagram.number < arrived) (trace : List Event) (round : Round)
    (own : Along step TakesOwn (Round.start resolvers stale arrived) trace)
    (ran : run step (Round.start resolvers stale arrived) trace = some round) :
    (∀ result ∈ round.results, Answered trace result.1) ∧
    (∀ pool, testResolvers round.results = .ok pool → ∀ result ∈ pool, Answered trace result.1) ∧
    (∀ healthy, ∀ result ∈ mergeDiscoveredIntoHealthy healthy (sortByLatency round.results)
      maxHealthyResolvers, result ∈ healthy ∨ Answered trace result.1) ∧
    ∀ resolver addr, parseSocketAddr resolver = some addr → Event.arrive addr ∉ trace →
      ∀ pool, testResolvers round.results = .ok pool → ∀ result ∈ pool, result.1 ≠ resolver := by
  have start : Ordered [] (Round.start resolvers stale arrived) := by
    constructor
    · intro probe mem
      contradiction
    · exact earlier
    · intro probe mem
      contradiction
    · intro result mem
      contradiction
  have inv : Ordered trace round :=
    run_history_invariant (I := Ordered) start
      (fun _ _ _ _ before guard stepped => before.step guard stepped) own ran
  have pooled : ∀ pool, testResolvers round.results = .ok pool →
      ∀ result ∈ pool, Answered trace result.1 := by
    intro pool tested result mem
    exact inv.answered result ((mem_testResolvers tested).mp mem)
  refine ⟨inv.answered, pooled, ?_, ?_⟩
  · intro healthy result mem
    rcases mem_mergeDiscoveredIntoHealthy mem with old | new
    · exact .inl old
    · exact .inr (inv.answered result (List.mem_mergeSort.mp new))
  · rintro resolver addr parsed silent pool tested result mem rfl
    rcases pooled pool tested result mem with ⟨other, now, parsedOther, ordered⟩
    rw [parsed] at parsedOther
    cases parsedOther
    exact silent (ordered.subset (List.mem_cons_of_mem _ List.mem_cons_self))

def resolverA : Text :=
  "1.1.1.1:53".toList

def resolverB : Text :=
  "8.8.8.8:53".toList

/-- Two probes are sent, and each receives the answer of its own resolver. -/
def bothAnswer : List Event :=
  [.send resolverA 0, .send resolverB 0, .arrive ⟨⟨8, 8, 8, 8⟩, 53⟩, .receive resolverB 4,
    .arrive ⟨⟨1, 1, 1, 1⟩, 53⟩, .receive resolverA 5]

theorem healthy_answered_both : ∃ round,
    run step (Round.start [resolverA, resolverB] [] 0) bothAnswer = some round ∧
      round.results = [(resolverA, 5), (resolverB, 4)] ∧
      ∀ result ∈ round.results, Answered bothAnswer result.1 := by
  have own : Along step TakesOwn (Round.start [resolverA, resolverB] [] 0) bothAnswer := by
    decide +kernel
  exact ⟨_, rfl, rfl, (healthy_answered _ [] 0 (by simp) _ _ own rfl).1⟩

/-- Two resolvers are probed and only the first one answers.  The probe of the
second takes the datagram, and the second is the pool. -/
def crossed : List Event :=
  [.send resolverA 0, .send resolverB 0, .arrive ⟨⟨1, 1, 1, 1⟩, 53⟩, .receive resolverB 5,
    .giveUp resolverA]

theorem silent_resolver_healthy : ∃ round,
    run step (Round.start [resolverA, resolverB] [] 0) crossed = some round ∧
      testResolvers round.results = .ok [(resolverB, 5)] ∧
      parseSocketAddr resolverB = some ⟨⟨8, 8, 8, 8⟩, 53⟩ ∧
      Event.arrive ⟨⟨8, 8, 8, 8⟩, 53⟩ ∉ crossed ∧ ¬ Answered crossed resolverB := by
  have parsed : parseSocketAddr resolverB = some ⟨⟨8, 8, 8, 8⟩, 53⟩ := by decide +kernel
  have silent : Event.arrive ⟨⟨8, 8, 8, 8⟩, 53⟩ ∉ crossed := by decide
  refine ⟨_, rfl, by decide +kernel, parsed, silent, ?_⟩
  rintro ⟨addr, now, parsedAgain, ordered⟩
  rw [parsed] at parsedAgain
  cases parsedAgain
  exact silent (ordered.subset (List.mem_cons_of_mem _ List.mem_cons_self))

end DnsHijacker.DnsRelay.HealthCheck
