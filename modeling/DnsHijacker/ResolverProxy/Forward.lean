import DnsHijacker.ResolverProxy.Hop

/-!
# Forwarding a query

`forward_query` tries the targets of the picker one after the other.  `send_obfs`
takes the first datagram that reaches the socket of its call; one that does not
decode is an error, and the next target is tried.
-/

namespace DnsHijacker.ResolverProxy

open DnsHijacker.Rust
open DnsHijacker.Shared
open DnsHijacker.Shared.Obfs

inductive TransportMode where
  | plain
  | udpObfs
  deriving DecidableEq

inductive ProxyStrategy where
  | ordered
  | roundRobin
  deriving DecidableEq

/-- A target.  The one for `udp_obfs` has a key: `resolve_targets` has seen to it. -/
structure ResolvedTarget (ObfsKey : Type) where
  name : Text
  mode : TransportMode
  addr : Text
  key : Option ObfsKey
  validated : mode = .udpObfs → key.isSome

/-- `TargetPicker`; `new` refuses an empty list. -/
structure TargetPicker (ObfsKey : Type) where
  targets : List (ResolvedTarget ObfsKey)
  strategy : ProxyStrategy
  cursor : UInt64
  nonempty : targets ≠ []

variable {ObfsKey : Type}

/-- `try_order`, and the picker after it. -/
def TargetPicker.tryOrder (picker : TargetPicker ObfsKey) :
    List (ResolvedTarget ObfsKey) × TargetPicker ObfsKey :=
  match picker.strategy with
  | .ordered => (picker.targets, picker)
  | .roundRobin =>
      let start := picker.cursor.toNat % picker.targets.length
      (picker.targets.drop start ++ picker.targets.take start,
        { picker with cursor := picker.cursor + 1 })

/-- What happens on the socket of one call before its timeout. -/
inductive Attempt where
  /-- The socket fails before a datagram arrives. -/
  | failed (error : Error)
  /-- These datagrams arrive. -/
  | arrivals (datagrams : List Bytes)
  deriving DecidableEq

/-- What the buffer of a call holds of a datagram. -/
def received (datagram : Bytes) : Bytes :=
  datagram.take proxyPayloadBufSize

/-- `send_plain` -/
def sendPlain : Attempt → Except Error Bytes
  | .failed error => .error error
  | .arrivals [] => .error .resolveTimeout
  | .arrivals (datagram :: _) => .ok (received datagram)

variable (cipher : Cipher ObfsKey)

/-- `send_obfs` -/
def sendObfs (addr : Text) (key : ObfsKey) : Attempt → Except Error Bytes
  | .failed error => .error error
  | .arrivals [] => .error .resolveTimeout
  | .arrivals (datagram :: _) => acceptObfs cipher addr key datagram

/-- A target and what happens when it is tried. -/
abbrev Try (ObfsKey : Type) := ResolvedTarget ObfsKey × Attempt

/-- One round of the loop of `forward_query`. -/
def sendTo (attempted : Try ObfsKey) : Except Error Bytes :=
  match mode : attempted.1.mode with
  | .plain => sendPlain attempted.2
  | .udpObfs =>
      sendObfs cipher attempted.1.addr (attempted.1.key.get (attempted.1.validated mode))
        attempted.2

/-- The loop of `forward_query`. -/
def forwardFrom (lastErr : Error) : List (Try ObfsKey) → Except Error Bytes
  | [] => .error lastErr
  | attempted :: rest =>
      match sendTo cipher attempted with
      | .ok reply => .ok reply
      | .error err => forwardFrom err rest

/-- The targets in the order they are tried, and what happens at each. -/
def TargetPicker.tries (picker : TargetPicker ObfsKey) (attempts : Nat → Attempt) :
    List (Try ObfsKey) :=
  picker.tryOrder.1.zipIdx.map fun (target, position) => (target, attempts position)

/-- `forward_query` -/
def forwardQuery (picker : TargetPicker ObfsKey) (attempts : Nat → Attempt) :
    Except Error Bytes :=
  forwardFrom cipher .noHealthyResolvers (picker.tries attempts)

/-! ## The genuine reply -/

/-- The message of the first datagram that authenticates under the target's key. -/
def genuine (attempted : Try ObfsKey) : Option Bytes :=
  match attempted.1.mode, attempted.1.key, attempted.2 with
  | .udpObfs, some key, .arrivals datagrams =>
      datagrams.findSome? fun datagram => decode cipher key (received datagram)
  | _, _, _ => none

/-- The tries up to the first that gives a reply. -/
def tried : List (Try ObfsKey) → List (Try ObfsKey)
  | [] => []
  | attempted :: rest =>
      match sendTo cipher attempted with
      | .ok _ => [attempted]
      | .error _ => attempted :: tried rest

/-- A genuine reply that reaches a target that is tried is what `send_obfs` and
`forward_query` return. -/
def GenuineKept (tries : List (Try ObfsKey)) : Prop :=
  ∀ attempted ∈ tried cipher tries, ∀ reply, genuine cipher attempted = some reply →
    sendTo cipher attempted = .ok reply ∧
      forwardFrom cipher .noHealthyResolvers tries = .ok reply

/-- If a datagram that reaches the target is genuine, then the first one is. -/
def GenuineFirst (attempted : Try ObfsKey) : Prop :=
  (genuine cipher attempted).isSome →
    ∃ key first rest, attempted.1.key = some key ∧ attempted.2 = .arrivals (first :: rest) ∧
      (decode cipher key (received first)).isSome

variable {cipher}

/-- Only a target for `udp_obfs` gets genuine replies. -/
theorem genuine_eq_some {attempted : Try ObfsKey} {reply : Bytes}
    (found : genuine cipher attempted = some reply) :
    ∃ key datagrams, attempted.1.mode = .udpObfs ∧ attempted.1.key = some key ∧
      attempted.2 = .arrivals datagrams ∧
      datagrams.findSome? (fun datagram => decode cipher key (received datagram)) = some reply := by
  rw [genuine] at found
  split at found
  · rename_i key datagrams mode keyed arrived
    exact ⟨key, datagrams, mode, keyed, arrived, found⟩
  · contradiction

theorem sendTo_of_udpObfs {attempted : Try ObfsKey} {key : ObfsKey}
    (mode : attempted.1.mode = .udpObfs) (keyed : attempted.1.key = some key) :
    sendTo cipher attempted = sendObfs cipher attempted.1.addr key attempted.2 := by
  rw [sendTo]
  split
  · rename_i plain
    rw [mode] at plain
    contradiction
  · simp only [keyed, Option.get_some]

/-- A try with a genuine reply returns it exactly if the first datagram is genuine. -/
theorem sendTo_eq_genuine_iff {attempted : Try ObfsKey} {reply : Bytes}
    (found : genuine cipher attempted = some reply) :
    sendTo cipher attempted = .ok reply ↔ GenuineFirst cipher attempted := by
  obtain ⟨key, datagrams, mode, keyed, arrived, first⟩ := genuine_eq_some found
  rw [sendTo_of_udpObfs mode keyed, GenuineFirst, found, arrived]
  simp only [keyed, Option.some.injEq, Option.isSome_some, forall_const, Attempt.arrivals.injEq]
  cases datagrams with
  | nil => contradiction
  | cons datagram rest =>
      rw [sendObfs, acceptObfs_eq_ok_iff]
      rw [List.findSome?_cons] at first
      change decode cipher key (received datagram) = some reply ↔ _
      cases opened : decode cipher key (received datagram) with
      | none =>
          apply iff_of_false (fun same => nomatch same)
          rintro ⟨_, _, _, rfl, same, some⟩
          cases same
          rw [opened] at some
          contradiction
      | some payload =>
          rw [opened] at first
          apply iff_of_true first
          exact ⟨key, datagram, rest, rfl, rfl, by rw [opened]; rfl⟩

/-- The first target is always tried. -/
theorem mem_tried_cons (attempted : Try ObfsKey) (rest : List (Try ObfsKey)) :
    attempted ∈ tried cipher (attempted :: rest) := by
  rw [tried]
  split
  · exact List.mem_singleton_self attempted
  · exact List.mem_cons_self

/-- A try that gives a reply is the last, and its reply is the result. -/
theorem forwardFrom_of_mem_tried {lastErr : Error} {tries : List (Try ObfsKey)}
    {attempted : Try ObfsKey} {reply : Bytes} (mem : attempted ∈ tried cipher tries)
    (sent : sendTo cipher attempted = .ok reply) :
    forwardFrom cipher lastErr tries = .ok reply := by
  induction tries generalizing lastErr with
  | nil => contradiction
  | cons first rest ih =>
      rw [tried] at mem
      rw [forwardFrom]
      cases outcome : sendTo cipher first with
      | ok other =>
          rw [outcome] at mem
          cases List.mem_singleton.mp mem
          rw [sent] at outcome
          cases outcome
          rfl
      | error err =>
          rw [outcome] at mem
          rcases List.mem_cons.mp mem with rfl | later
          · rw [sent] at outcome
            contradiction
          · exact ih later

/-- For every picker and whatever reaches the sockets of its targets, genuine replies are
kept exactly if no target that is tried gets other datagrams before its genuine one. -/
theorem genuine_kept_iff (cipher : Cipher ObfsKey) (picker : TargetPicker ObfsKey)
    (attempts : Nat → Attempt) :
    GenuineKept cipher (picker.tries attempts) ↔
      ∀ attempted ∈ tried cipher (picker.tries attempts), GenuineFirst cipher attempted := by
  constructor
  · intro kept attempted mem some
    obtain ⟨reply, found⟩ := Option.isSome_iff_exists.mp some
    exact (sendTo_eq_genuine_iff found).mp (kept attempted mem reply found).1 some
  · intro first attempted mem reply found
    have sent := (sendTo_eq_genuine_iff found).mpr (first attempted mem)
    exact ⟨sent, forwardFrom_of_mem_tried mem sent⟩

/-! ## An injected datagram -/

/-- A target with a key. -/
def primary : ResolvedTarget UInt8 where
  name := "primary".toList
  mode := .udpObfs
  addr := "192.0.2.1:8853".toList
  key := some 7
  validated _ := rfl

/-- A target without one. -/
def fallback : ResolvedTarget UInt8 where
  name := "fallback".toList
  mode := .plain
  addr := "192.0.2.2:53".toList
  key := none
  validated := nofun

def obfsThenPlain : TargetPicker UInt8 where
  targets := [primary, fallback]
  strategy := .ordered
  cursor := 0
  nonempty := nofun

/-- Garbage comes before the genuine reply, and the other target gets a forged one. -/
def injected : Nat → Attempt
  | 0 => .arrivals [[0], encode Cipher.tagged 7 [1, 2, 3] Draw.zero]
  | _ => .arrivals [[9, 9, 9]]

/-- The first target fails with its genuine reply on the way, and the forged reply of the
second is returned. -/
theorem genuine_displaced :
    genuine Cipher.tagged (primary, injected 0) = some [1, 2, 3] ∧
      sendTo Cipher.tagged (primary, injected 0) =
        .error (.invalidResolver "undecodable obfs reply from 192.0.2.1:8853".toList) ∧
      forwardQuery Cipher.tagged obfsThenPlain injected = .ok [9, 9, 9] ∧
      ¬ GenuineKept Cipher.tagged (obfsThenPlain.tries injected) := by
  have found : genuine Cipher.tagged (primary, injected 0) = some [1, 2, 3] := by decide +kernel
  have sent : forwardQuery Cipher.tagged obfsThenPlain injected = .ok [9, 9, 9] := by
    decide +kernel
  refine ⟨found, by decide +kernel, sent, ?_⟩
  intro kept
  have returned := (kept _ (mem_tried_cons (primary, injected 0) _) _ found).2
  change forwardQuery Cipher.tagged obfsThenPlain injected = _ at returned
  rw [sent] at returned
  contradiction

end DnsHijacker.ResolverProxy
