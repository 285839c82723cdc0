import DnsHijacker.Shared.Netguard

/-!
# What the network guard acts on

The guard sets DNS on no interface but the VPN's own and the one that has the default route, as the
call of `tick` that is underway has seen them, and it reverts none that was not one of these when it
was remembered.  A call of `tick` comes to its end after a few commands, whatever they print.
-/

namespace DnsHijacker.Shared

open DnsHijacker.Rust
open DnsHijacker.Library

/-! ## What is left of a call -/

namespace GuardPhase

/-- The interfaces that the call underway has yet to see to. -/
def pending : GuardPhase → List Text
  | idle => []
  | routing vpnIface => [vpnIface]
  | asking targets => targets
  | checking targets => targets
  | setting iface targets => iface :: targets
  | routingOnly iface targets => iface :: targets
  | reverting => []

/-- How often the call underway may still set the DNS of an interface. -/
def setsLeft : GuardPhase → Nat
  | idle => 0
  | routing _ => 2
  | asking targets => targets.length
  | checking targets => targets.length
  | setting _ targets => targets.length + 1
  | routingOnly _ targets => targets.length
  | reverting => 0

/-- How many commands the call underway may still run; each of the remembered interfaces is reverted
with one. -/
def commandsLeft (touched : List Text) : GuardPhase → Nat
  | idle => 0
  | routing _ => 8
  | asking targets => 3 * targets.length + 1
  | checking targets => 3 * targets.length
  | setting _ targets => 3 * targets.length + 2
  | routingOnly _ targets => 3 * targets.length + 1
  | reverting => touched.length

/-- There is something left to do in each loop that is entered. -/
def Ready (touched : List Text) : GuardPhase → Prop
  | asking targets => targets ≠ []
  | checking targets => targets ≠ []
  | reverting => touched ≠ []
  | _ => True

@[simp]
theorem pending_next (targets : List Text) : (next targets).pending = targets := by
  rw [next]
  split
  · rename_i empty
    exact empty.symm
  · rfl

@[simp]
theorem setsLeft_next (targets : List Text) : (next targets).setsLeft = targets.length := by
  rw [next]
  split
  · rename_i empty
    rw [empty]
    rfl
  · rfl

@[simp]
theorem commandsLeft_next (touched targets : List Text) :
    (next targets).commandsLeft touched = 3 * targets.length := by
  rw [next]
  split
  · rename_i empty
    rw [empty]
    rfl
  · rfl

@[simp]
theorem pending_drain (touched : List Text) : (drain touched).pending = [] := by
  rw [drain]
  split <;> rfl

@[simp]
theorem setsLeft_drain (touched : List Text) : (drain touched).setsLeft = 0 := by
  rw [drain]
  split <;> rfl

@[simp]
theorem commandsLeft_drain (touched : List Text) :
    (drain touched).commandsLeft touched = touched.length := by
  rw [drain]
  split
  · rename_i empty
    rw [empty]
    rfl
  · rfl

theorem ready_next (touched targets : List Text) : (next targets).Ready touched := by
  rw [next]
  split
  · trivial
  · rename_i some
    exact some

theorem ready_drain (touched : List Text) : (drain touched).Ready touched := by
  rw [drain]
  split
  · trivial
  · rename_i some
    exact some

end GuardPhase

namespace GuardEvent

/-- The event is a command of a call that is underway, with what it prints. -/
def Prints (printed : Option Output) : GuardEvent → Prop
  | route output => output = printed
  | status output => output = printed
  | showDns _ output => output = printed
  | setDns output => output = printed
  | setDomain output => output = printed
  | revertLink _ output => output = printed
  | tick _ => False
  | revert => False

/-- The event is a command of a call that is underway. -/
def IsCommand (event : GuardEvent) : Prop :=
  ∃ printed, event.Prints printed

/-- The event sets the DNS of an interface, or tries to. -/
def isSet : GuardEvent → Bool
  | setDns _ => true
  | _ => false

/-- The event finds that the interface has the default route. -/
def Routes (event : GuardEvent) (iface : Text) : Prop :=
  ∃ output, event = route output ∧ getDefaultRouteIface output = some iface

end GuardEvent

/-- What a command of a call does: it sees to no interface that is not pending or found to have the
default route, remembers none that was not pending, and brings the call nearer to its end. -/
structure Proceeds (guard : Netguard) (event : GuardEvent) (after : Netguard) : Prop where
  pending : ∀ iface ∈ after.phase.pending, iface ∈ guard.phase.pending ∨ event.Routes iface
  touched : ∀ iface ∈ after.touched, iface ∈ guard.touched ∨ iface ∈ guard.phase.pending
  sets : after.phase.setsLeft + (if event.isSet then 1 else 0) ≤ guard.phase.setsLeft
  commands : after.phase.commandsLeft after.touched < guard.phase.commandsLeft guard.touched
  ready : guard.phase.Ready guard.touched → after.phase.Ready after.touched

variable {dnsTarget : Text}

theorem length_filter_ne_lt {iface : Text} {targets : List Text} (mem : iface ∈ targets) :
    (targets.filter (· ≠ iface)).length < targets.length :=
  List.length_filter_lt_length_iff_exists.mpr ⟨iface, mem, by simp⟩

theorem mem_of_mem_filter_ne {iface other : Text} {targets : List Text}
    (mem : other ∈ targets.filter (· ≠ iface)) : other ∈ targets :=
  (List.mem_filter.mp mem).1

/-- The interfaces a call acts on. -/
theorem mem_targets {vpnIface iface : Text} {found : Option Text}
    (mem : iface ∈ found.toList.foldr List.insert [vpnIface]) : iface = vpnIface ∨ found = some iface := by
  cases found with
  | none => exact .inl (List.mem_singleton.mp mem)
  | some device =>
      rcases List.mem_insert_iff.mp mem with rfl | old
      · exact .inr rfl
      · exact .inl (List.mem_singleton.mp old)

theorem mem_targets_self (vpnIface : Text) (found : Option Text) :
    vpnIface ∈ found.toList.foldr List.insert [vpnIface] := by
  cases found with
  | none => exact List.mem_singleton_self _
  | some device => exact List.mem_insert_of_mem (List.mem_singleton_self _)

theorem length_targets_le (vpnIface : Text) (found : Option Text) :
    (found.toList.foldr List.insert [vpnIface]).length ≤ 2 := by
  cases found with
  | none => exact Nat.le_succ 1
  | some device =>
      show (List.insert device [vpnIface]).length ≤ 2
      rw [List.insert]
      split
      · exact Nat.le_succ 1
      · exact Nat.le_refl 2

theorem proceeds_route {guard : Netguard} {vpnIface : Text} (output : Option Output)
    (routing : guard.phase = .routing vpnIface) :
    Proceeds guard (.route output)
      { guard with
        phase := .asking ((getDefaultRouteIface output).toList.foldr List.insert [vpnIface]) } := by
  have short := length_targets_le vpnIface (getDefaultRouteIface output)
  constructor
  · intro iface mem
    rw [routing]
    rcases mem_targets mem with rfl | found
    · exact .inl (List.mem_singleton_self _)
    · exact .inr ⟨output, rfl, found⟩
  · exact fun iface mem => .inl mem
  · rw [routing]
    exact short
  · rw [routing]
    show 3 * _ + 1 < 8
    omega
  · intro _ none
    have mem := mem_targets_self vpnIface (getDefaultRouteIface output)
    rw [none] at mem
    exact List.not_mem_nil mem

theorem proceeds_status {guard : Netguard} {targets : List Text} (output : Option Output)
    (asking : guard.phase = .asking targets) :
    Proceeds guard (.status output)
      { guard with phase := if output.any (·.success) then .checking targets else .idle } := by
  constructor
  · intro iface mem
    rw [asking]
    left
    dsimp only at mem
    split at mem
    · exact mem
    · contradiction
  · exact fun iface mem => .inl mem
  · rw [asking]
    dsimp only
    split
    · exact Nat.le_refl _
    · exact Nat.zero_le _
  · rw [asking]
    dsimp only
    split
    · exact Nat.lt_succ_self _
    · exact Nat.succ_pos _
  · rw [asking]
    intro ready
    dsimp only
    split
    · exact ready
    · trivial

/-- The DNS of the interface is right as it is. -/
theorem proceeds_skip {guard : Netguard} {iface : Text} {targets : List Text} (output : Option Output)
    (checking : guard.phase = .checking targets) (mem : iface ∈ targets) :
    Proceeds guard (.showDns iface output)
      { guard with
        touched := guard.touched.insert iface
        phase := .next (targets.filter (· ≠ iface)) } := by
  have fewer := length_filter_ne_lt mem
  constructor
  · intro other otherMem
    rw [checking]
    rw [GuardPhase.pending_next] at otherMem
    exact .inl (mem_of_mem_filter_ne otherMem)
  · intro other otherMem
    rw [checking]
    rcases List.mem_insert_iff.mp otherMem with rfl | old
    · exact .inr mem
    · exact .inl old
  · rw [checking, GuardPhase.setsLeft_next]
    exact fewer.le
  · rw [checking, GuardPhase.commandsLeft_next]
    exact Nat.mul_lt_mul_of_pos_left fewer (Nat.succ_pos 2)
  · exact fun _ => GuardPhase.ready_next _ _

theorem proceeds_differs {guard : Netguard} {iface : Text} {targets : List Text}
    (output : Option Output) (checking : guard.phase = .checking targets) (mem : iface ∈ targets) :
    Proceeds guard (.showDns iface output)
      { guard with phase := .setting iface (targets.filter (· ≠ iface)) } := by
  have fewer := length_filter_ne_lt mem
  constructor
  · intro other otherMem
    rw [checking]
    rcases List.mem_cons.mp otherMem with rfl | rest
    · exact .inl mem
    · exact .inl (mem_of_mem_filter_ne rest)
  · exact fun other otherMem => .inl otherMem
  · rw [checking]
    exact fewer
  · rw [checking]
    dsimp only [GuardPhase.commandsLeft]
    omega
  · exact fun _ => trivial

/-- `resolvectl dns` cannot be run. -/
theorem proceeds_noSet {guard : Netguard} {iface : Text} {targets : List Text}
    (setting : guard.phase = .setting iface targets) :
    Proceeds guard (.setDns none) { guard with phase := .idle } := by
  constructor
  · exact fun other mem => absurd mem List.not_mem_nil
  · exact fun other mem => .inl mem
  · rw [setting]
    exact Nat.succ_le_succ (Nat.zero_le _)
  · rw [setting]
    exact Nat.succ_pos _
  · exact fun _ => trivial

theorem proceeds_set {guard : Netguard} {iface : Text} {targets : List Text} (output : Output)
    (setting : guard.phase = .setting iface targets) :
    Proceeds guard (.setDns (some output))
      { guard with
        touched := guard.touched.insert iface
        phase := .routingOnly iface targets
        overridden := guard.overridden.insert iface } := by
  constructor
  · intro other mem
    rw [setting]
    exact .inl mem
  · intro other mem
    rw [setting]
    rcases List.mem_insert_iff.mp mem with rfl | old
    · exact .inr List.mem_cons_self
    · exact .inl old
  · rw [setting]
    exact Nat.le_refl _
  · rw [setting]
    exact Nat.lt_succ_self _
  · exact fun _ => trivial

theorem proceeds_setFails {guard : Netguard} {iface : Text} {targets : List Text} (output : Output)
    (setting : guard.phase = .setting iface targets) :
    Proceeds guard (.setDns (some output)) { guard with phase := .next targets } := by
  constructor
  · intro other mem
    rw [setting]
    rw [GuardPhase.pending_next] at mem
    exact .inl (List.mem_cons_of_mem _ mem)
  · exact fun other mem => .inl mem
  · rw [setting, GuardPhase.setsLeft_next]
    exact Nat.le_refl _
  · rw [setting, GuardPhase.commandsLeft_next]
    exact Nat.lt_add_of_pos_right (Nat.succ_pos 1)
  · exact fun _ => GuardPhase.ready_next _ _

theorem proceeds_setDomain {guard : Netguard} {iface : Text} {targets : List Text}
    (output : Option Output) (routingOnly : guard.phase = .routingOnly iface targets) :
    Proceeds guard (.setDomain output) { guard with phase := .next targets } := by
  constructor
  · intro other mem
    rw [routingOnly]
    rw [GuardPhase.pending_next] at mem
    exact .inl (List.mem_cons_of_mem _ mem)
  · exact fun other mem => .inl mem
  · rw [routingOnly, GuardPhase.setsLeft_next]
    exact Nat.le_refl _
  · rw [routingOnly, GuardPhase.commandsLeft_next]
    exact Nat.lt_succ_self _
  · exact fun _ => GuardPhase.ready_next _ _

/-- An interface that is reverted is forgotten, also when the command fails. -/
theorem proceeds_revertLink {guard : Netguard} {iface : Text} (output : Option Output)
    (overridden : List Text) (reverting : guard.phase = .reverting) (mem : iface ∈ guard.touched) :
    Proceeds guard (.revertLink iface output)
      { guard with
        touched := guard.touched.filter (· ≠ iface)
        phase := .drain (guard.touched.filter (· ≠ iface))
        overridden } := by
  constructor
  · intro other otherMem
    rw [GuardPhase.pending_drain] at otherMem
    contradiction
  · exact fun other otherMem => .inl (mem_of_mem_filter_ne otherMem)
  · rw [reverting, GuardPhase.setsLeft_drain]
    exact Nat.le_refl _
  · rw [reverting, GuardPhase.commandsLeft_drain]
    exact length_filter_ne_lt mem
  · exact fun _ => GuardPhase.ready_drain _

theorem proceeds_of_step {guard after : Netguard} {event : GuardEvent} (command : event.IsCommand)
    (stepped : guardStep dnsTarget guard event = some after) : Proceeds guard event after := by
  cases event with
  | tick output =>
      obtain ⟨printed, impossible⟩ := command
      exact impossible.elim
  | revert =>
      obtain ⟨printed, impossible⟩ := command
      exact impossible.elim
  | route output =>
      rw [guardStep] at stepped
      split at stepped
      · rename_i vpnIface routing
        cases stepped
        exact proceeds_route output routing
      · contradiction
  | status output =>
      rw [guardStep] at stepped
      split at stepped
      · rename_i targets asking
        cases stepped
        exact proceeds_status output asking
      · contradiction
  | showDns iface output =>
      rw [guardStep] at stepped
      split at stepped
      · rename_i targets checking
        split at stepped
        · rename_i mem
          dsimp only at stepped
          split at stepped
          · cases stepped
            exact proceeds_skip output checking mem
          · cases stepped
            exact proceeds_differs output checking mem
        · contradiction
      · contradiction
  | setDns output =>
      rw [guardStep] at stepped
      split at stepped
      · rename_i iface targets setting
        cases output with
        | none =>
            cases stepped
            exact proceeds_noSet setting
        | some output =>
            dsimp only at stepped
            split at stepped
            · cases stepped
              exact proceeds_set output setting
            · cases stepped
              exact proceeds_setFails output setting
      · contradiction
  | setDomain output =>
      rw [guardStep] at stepped
      split at stepped
      · rename_i iface targets routingOnly
        cases stepped
        exact proceeds_setDomain output routingOnly
      · contradiction
  | revertLink iface output =>
      rw [guardStep] at stepped
      split at stepped
      · rename_i reverting
        split at stepped
        · rename_i mem
          cases stepped
          exact proceeds_revertLink output _ reverting mem
        · contradiction
      · contradiction

/-! ## What the guard has in view -/

/-- The last call of `tick` has seen a VPN with this interface, and has run these commands since. -/
structure SinceTick (trace : List GuardEvent) (vpnIface : Text) (commands : List GuardEvent) : Prop where
  last : ∃ before link, trace = before ++ .tick link :: commands ∧
    detectVpnInterface link = some (some vpnIface)
  all : ∀ command ∈ commands, command.IsCommand

theorem SinceTick.concat {trace commands : List GuardEvent} {vpnIface : Text}
    (since : SinceTick trace vpnIface commands) {event : GuardEvent} (command : event.IsCommand) :
    SinceTick (trace ++ [event]) vpnIface (commands ++ [event]) := by
  obtain ⟨⟨before, link, rfl, seen⟩, all⟩ := since
  refine ⟨⟨before, link, List.append_assoc _ _ _, seen⟩, fun other mem => ?_⟩
  rcases List.mem_append.mp mem with old | new
  · exact all other old
  · cases List.mem_singleton.mp new
    exact command

/-- The interface is that of the VPN which the last call of `tick` has seen, or this call has found it
to have the default route. -/
def InView (trace : List GuardEvent) (iface : Text) : Prop :=
  ∃ vpnIface commands, SinceTick trace vpnIface commands ∧
    (iface = vpnIface ∨ ∃ event ∈ commands, event.Routes iface)

theorem InView.concat {trace : List GuardEvent} {iface : Text} (inView : InView trace iface)
    {event : GuardEvent} (command : event.IsCommand) : InView (trace ++ [event]) iface := by
  obtain ⟨vpnIface, commands, since, here⟩ := inView
  refine ⟨vpnIface, commands ++ [event], since.concat command, here.imp_right ?_⟩
  rintro ⟨other, mem, routes⟩
  exact ⟨other, List.mem_append_left _ mem, routes⟩

/-- The default route comes into view. -/
theorem InView.routes {trace : List GuardEvent} {other iface : Text} (inView : InView trace other)
    {event : GuardEvent} (command : event.IsCommand) (routes : event.Routes iface) :
    InView (trace ++ [event]) iface := by
  obtain ⟨vpnIface, commands, since, _⟩ := inView
  exact ⟨vpnIface, commands ++ [event], since.concat command,
    .inr ⟨event, List.mem_append_right _ List.mem_cons_self, routes⟩⟩

/-- An interface of a VPN. -/
def IsVpnName (iface : Text) : Prop :=
  ∃ lead ∈ vpnIfacePrefixes, lead <+: iface

theorem isVpnName_of_detect {output : Option Output} {vpnIface : Text}
    (seen : detectVpnInterface output = some (some vpnIface)) : IsVpnName vpnIface := by
  obtain ⟨printed, rfl, found⟩ := Option.bind_eq_some_iff.mp seen
  split at found
  · obtain ⟨line, _, here⟩ := List.exists_of_findSome?_eq_some (Option.some.inj found)
    obtain ⟨rest, _, named⟩ := Option.bind_eq_some_iff.mp here
    dsimp only at named
    split at named
    · rename_i both
      cases named
      rw [Bool.and_eq_true, List.any_eq_true] at both
      obtain ⟨⟨lead, mem, isLead⟩, _⟩ := both
      exact ⟨lead, mem, List.isPrefixOf_iff_prefix.mp isLead⟩
    · contradiction
  · contradiction

variable {isVpnActive : Bool}

/-- After these events the guard remembers the interface. -/
def Remembers (dnsTarget : Text) (isVpnActive : Bool) (trace : List GuardEvent) (iface : Text) : Prop :=
  ∃ guard, run (guardStep dnsTarget) (Netguard.start isVpnActive) trace = some guard ∧
    iface ∈ guard.touched

/-- The interface was in view when the guard came to remember it, and is remembered since then. -/
def RememberedInView (dnsTarget : Text) (isVpnActive : Bool) (trace : List GuardEvent)
    (iface : Text) : Prop :=
  ∃ before event rest, trace = before ++ event :: rest ∧ InView before iface ∧
    ¬ Remembers dnsTarget isVpnActive before iface ∧
    ∀ later, later <+: rest → Remembers dnsTarget isVpnActive (before ++ event :: later) iface

/-- What a run leads to: what is pending is in view, and what is remembered was in view when it was
remembered. -/
structure Confined (dnsTarget : Text) (isVpnActive : Bool) (trace : List GuardEvent)
    (guard : Netguard) : Prop where
  ran : run (guardStep dnsTarget) (Netguard.start isVpnActive) trace = some guard
  pending : ∀ iface ∈ guard.phase.pending, InView trace iface
  touched : ∀ iface ∈ guard.touched, RememberedInView dnsTarget isVpnActive trace iface
  ready : guard.phase.Ready guard.touched

theorem confined_start : Confined dnsTarget isVpnActive [] (Netguard.start isVpnActive) where
  ran := rfl
  pending _ mem := absurd mem List.not_mem_nil
  touched _ mem := absurd mem List.not_mem_nil
  ready := trivial

/-- The default route is asked for only with the VPN's interface pending. -/
theorem exists_pending_of_routes {guard after : Netguard} {event : GuardEvent} {iface : Text}
    (routes : event.Routes iface) (stepped : guardStep dnsTarget guard event = some after) :
    ∃ other, other ∈ guard.phase.pending := by
  obtain ⟨output, rfl, _⟩ := routes
  rw [guardStep] at stepped
  split at stepped
  · rename_i vpnIface routing
    exact ⟨vpnIface, routing ▸ List.mem_singleton_self _⟩
  · contradiction

/-- An interface that stays remembered. -/
theorem RememberedInView.concat {trace : List GuardEvent} {iface : Text} {event : GuardEvent}
    (known : RememberedInView dnsTarget isVpnActive trace iface)
    (still : Remembers dnsTarget isVpnActive (trace ++ [event]) iface) :
    RememberedInView dnsTarget isVpnActive (trace ++ [event]) iface := by
  obtain ⟨before, first, rest, rfl, inView, unknown, since⟩ := known
  refine ⟨before, first, rest ++ [event], List.append_assoc _ _ _, inView, unknown, ?_⟩
  intro later isPrefix
  rcases List.prefix_concat_iff.mp isPrefix with rfl | earlier
  · rw [List.append_assoc] at still
    exact still
  · exact since later earlier

/-- A step that remembers nothing but what is in view. -/
theorem Confined.remembered {trace : List GuardEvent} {guard after : Netguard} {event : GuardEvent}
    (confined : Confined dnsTarget isVpnActive trace guard)
    (stepped : guardStep dnsTarget guard event = some after)
    (each : ∀ iface ∈ after.touched, iface ∈ guard.touched ∨ InView trace iface) :
    ∀ iface ∈ after.touched, RememberedInView dnsTarget isVpnActive (trace ++ [event]) iface := by
  intro iface mem
  have now : Remembers dnsTarget isVpnActive (trace ++ [event]) iface :=
    ⟨after, run_concat_eq_some_iff.mpr ⟨guard, confined.ran, stepped⟩, mem⟩
  by_cases old : iface ∈ guard.touched
  · exact (confined.touched iface old).concat now
  · have inView := (each iface mem).resolve_left old
    refine ⟨trace, event, [], rfl, inView, ?_, fun later isPrefix => ?_⟩
    · rintro ⟨other, ran, known⟩
      rw [confined.ran] at ran
      cases ran
      exact old known
    · cases List.prefix_nil.mp isPrefix
      exact now

theorem Confined.command {trace : List GuardEvent} {guard after : Netguard} {event : GuardEvent}
    (confined : Confined dnsTarget isVpnActive trace guard) (command : event.IsCommand)
    (stepped : guardStep dnsTarget guard event = some after) :
    Confined dnsTarget isVpnActive (trace ++ [event]) after := by
  have proceeds := proceeds_of_step command stepped
  refine ⟨run_concat_eq_some_iff.mpr ⟨guard, confined.ran, stepped⟩, fun iface mem => ?_,
    confined.remembered stepped fun iface mem => ?_, proceeds.ready confined.ready⟩
  · rcases proceeds.pending iface mem with old | routes
    · exact (confined.pending iface old).concat command
    · obtain ⟨other, pending⟩ := exists_pending_of_routes routes stepped
      exact (confined.pending other pending).routes command routes
  · exact (proceeds.touched iface mem).imp_right (confined.pending iface)

theorem Confined.tick {trace : List GuardEvent} {guard after : Netguard} {link : Option Output}
    (confined : Confined dnsTarget isVpnActive trace guard)
    (stepped : guardStep dnsTarget guard (.tick link) = some after) :
    Confined dnsTarget isVpnActive (trace ++ [.tick link]) after := by
  have ran := run_concat_eq_some_iff.mpr ⟨guard, confined.ran, stepped⟩
  have remembered := confined.remembered stepped
  rw [guardStep] at stepped
  split at stepped
  · rename_i idle
    split at stepped
    · cases stepped
      refine ⟨ran, fun iface mem => ?_, remembered fun _ => .inl, confined.ready⟩
      rw [idle] at mem
      contradiction
    · rename_i vpnIface seen
      cases stepped
      refine ⟨ran, fun iface mem => ?_, remembered fun _ => .inl, trivial⟩
      cases List.mem_singleton.mp mem
      exact ⟨vpnIface, [], ⟨⟨trace, link, rfl, seen⟩, fun _ none => absurd none List.not_mem_nil⟩,
        .inl rfl⟩
    · cases stepped
      refine ⟨ran, fun iface mem => ?_, remembered fun _ => .inl, ?_⟩
      · dsimp only at mem
        split at mem
        · rw [GuardPhase.pending_drain] at mem
          contradiction
        · contradiction
      · dsimp only
        split
        · exact GuardPhase.ready_drain _
        · trivial
  · contradiction

theorem Confined.revert {trace : List GuardEvent} {guard after : Netguard}
    (confined : Confined dnsTarget isVpnActive trace guard)
    (stepped : guardStep dnsTarget guard .revert = some after) :
    Confined dnsTarget isVpnActive (trace ++ [.revert]) after := by
  have ran := run_concat_eq_some_iff.mpr ⟨guard, confined.ran, stepped⟩
  have remembered := confined.remembered stepped
  rw [guardStep] at stepped
  split at stepped
  · cases stepped
    refine ⟨ran, fun iface mem => ?_, remembered fun _ => .inl, GuardPhase.ready_drain _⟩
    rw [GuardPhase.pending_drain] at mem
    contradiction
  · contradiction

theorem isCommand_or_call (event : GuardEvent) :
    event.IsCommand ∨ (∃ link, event = .tick link) ∨ event = .revert := by
  cases event with
  | tick link => exact .inr (.inl ⟨link, rfl⟩)
  | revert => exact .inr (.inr rfl)
  | route output => exact .inl ⟨output, rfl⟩
  | status output => exact .inl ⟨output, rfl⟩
  | showDns iface output => exact .inl ⟨output, rfl⟩
  | setDns output => exact .inl ⟨output, rfl⟩
  | setDomain output => exact .inl ⟨output, rfl⟩
  | revertLink iface output => exact .inl ⟨output, rfl⟩

theorem confined_of_run {trace : List GuardEvent} {guard : Netguard}
    (ran : run (guardStep dnsTarget) (Netguard.start isVpnActive) trace = some guard) :
    Confined dnsTarget isVpnActive trace guard := by
  apply run_history_invariant confined_start _ (along_true _ _ trace) ran
  intro trace state event after confined _ stepped
  rcases isCommand_or_call event with command | ⟨link, rfl⟩ | rfl
  · exact confined.command command stepped
  · exact confined.tick stepped
  · exact confined.revert stepped

/-! ## Commands of a call -/

/-- The commands of a call use up what was left of it. -/
theorem left_of_run {guard after : Netguard} {commands : List GuardEvent}
    (all : ∀ command ∈ commands, command.IsCommand)
    (ran : run (guardStep dnsTarget) guard commands = some after) :
    commands.length + after.phase.commandsLeft after.touched ≤
        guard.phase.commandsLeft guard.touched ∧
      commands.countP GuardEvent.isSet + after.phase.setsLeft ≤ guard.phase.setsLeft := by
  induction commands generalizing guard with
  | nil =>
      cases ran
      exact ⟨(Nat.zero_add _).le, (Nat.zero_add _).le⟩
  | cons command commands ih =>
      obtain ⟨middle, stepped, rest⟩ := run_cons_eq_some_iff.mp ran
      have proceeds := proceeds_of_step (all command List.mem_cons_self) stepped
      have later := ih (fun other mem => all other (List.mem_cons_of_mem _ mem)) rest
      have fewer := proceeds.commands
      have sets := proceeds.sets
      rw [List.length_cons, List.countP_cons]
      omega

/-- A call of `tick` that sees a VPN begins with its interface. -/
theorem routing_of_tick {guard after : Netguard} {link : Option Output} {vpnIface : Text}
    (seen : detectVpnInterface link = some (some vpnIface))
    (stepped : guardStep dnsTarget guard (.tick link) = some after) :
    after.phase = .routing vpnIface := by
  rw [guardStep, seen] at stepped
  split at stepped
  · cases stepped
    rfl
  · contradiction

theorem commands_bounded {start guard : Netguard} {trace commands : List GuardEvent}
    {vpnIface : Text} (since : SinceTick trace vpnIface commands)
    (ran : run (guardStep dnsTarget) start trace = some guard) :
    commands.length ≤ 8 ∧ commands.countP GuardEvent.isSet ≤ 2 := by
  obtain ⟨⟨before, link, rfl, seen⟩, all⟩ := since
  rw [run_append] at ran
  obtain ⟨middle, _, rest⟩ := Option.bind_eq_some_iff.mp ran
  obtain ⟨begun, ticked, rest⟩ := run_cons_eq_some_iff.mp rest
  have left := left_of_run all rest
  rw [routing_of_tick seen ticked] at left
  exact ⟨(Nat.le_add_right _ _).trans left.1, (Nat.le_add_right _ _).trans left.2⟩

/-- Whatever the next command prints, the call goes on. -/
theorem exists_command {guard : Netguard} (ready : guard.phase.Ready guard.touched)
    (busy : guard.phase ≠ .idle) (printed : Option Output) :
    ∃ event, event.Prints printed ∧ ∃ after, guardStep dnsTarget guard event = some after := by
  cases phase : guard.phase with
  | idle => exact absurd phase busy
  | routing vpnIface =>
      refine ⟨.route printed, rfl, ?_⟩
      simp only [guardStep, phase]
      exact ⟨_, rfl⟩
  | asking targets =>
      refine ⟨.status printed, rfl, ?_⟩
      simp only [guardStep, phase]
      exact ⟨_, rfl⟩
  | checking targets =>
      rw [phase] at ready
      obtain ⟨iface, mem⟩ := List.exists_mem_of_ne_nil targets ready
      refine ⟨.showDns iface printed, rfl, ?_⟩
      simp only [guardStep, phase, if_pos mem]
      split <;> exact ⟨_, rfl⟩
  | setting iface targets =>
      refine ⟨.setDns printed, rfl, ?_⟩
      simp only [guardStep, phase]
      cases printed with
      | none => exact ⟨_, rfl⟩
      | some output =>
          dsimp only
          split <;> exact ⟨_, rfl⟩
  | routingOnly iface targets =>
      refine ⟨.setDomain printed, rfl, ?_⟩
      simp only [guardStep, phase]
      exact ⟨_, rfl⟩
  | reverting =>
      rw [phase] at ready
      obtain ⟨iface, mem⟩ := List.exists_mem_of_ne_nil guard.touched ready
      refine ⟨.revertLink iface printed, rfl, ?_⟩
      simp only [guardStep, phase, if_pos mem]
      exact ⟨_, rfl⟩

/-! ## What the guard acts on -/

/-- The interface that the event is about is in view, or was when it was remembered. -/
def Within (dnsTarget : Text) (isVpnActive : Bool) (trace : List GuardEvent) (guard : Netguard) :
    GuardEvent → Prop
  | .showDns iface _ => InView trace iface
  | .setDns _ => ∃ iface targets, guard.phase = .setting iface targets ∧ InView trace iface
  | .setDomain _ => ∃ iface targets, guard.phase = .routingOnly iface targets ∧ InView trace iface
  | .revertLink iface _ => RememberedInView dnsTarget isVpnActive trace iface
  | _ => True

theorem Confined.within {trace : List GuardEvent} {guard after : Netguard} {event : GuardEvent}
    (confined : Confined dnsTarget isVpnActive trace guard)
    (stepped : guardStep dnsTarget guard event = some after) :
    Within dnsTarget isVpnActive trace guard event := by
  cases event with
  | showDns iface output =>
      rw [guardStep] at stepped
      split at stepped
      · rename_i targets checking
        split at stepped
        · rename_i mem
          exact confined.pending iface (checking ▸ mem)
        · contradiction
      · contradiction
  | setDns output =>
      rw [guardStep] at stepped
      split at stepped
      · rename_i iface targets setting
        exact ⟨iface, targets, setting, confined.pending iface (setting ▸ List.mem_cons_self)⟩
      · contradiction
  | revertLink iface output =>
      rw [guardStep] at stepped
      split at stepped
      · split at stepped
        · rename_i mem
          exact confined.touched iface mem
        · contradiction
      · contradiction
  | tick link => trivial
  | route output => trivial
  | status output => trivial
  | setDomain output =>
      rw [guardStep] at stepped
      split at stepped
      · rename_i iface targets routingOnly
        exact ⟨iface, targets, routingOnly, confined.pending iface (routingOnly ▸ List.mem_cons_self)⟩
      · contradiction
  | revert => trivial

theorem InView.named {trace : List GuardEvent} {iface : Text} (inView : InView trace iface) :
    IsVpnName iface ∨ ∃ event ∈ trace, event.Routes iface := by
  obtain ⟨vpnIface, commands, since, here⟩ := inView
  obtain ⟨before, link, rfl, seen⟩ := since.last
  rcases here with rfl | ⟨event, mem, routes⟩
  · exact .inl (isVpnName_of_detect seen)
  · exact .inr ⟨event, List.mem_append_right _ (List.mem_cons_of_mem _ mem), routes⟩

/-- In every run, whatever the commands print or if they fail: the guard looks at and sets the DNS and
the routing domain of no interface but that of the VPN which the call of `tick` underway has seen and
the one which it has found to have the default route, and reverts no interface that was not one of
these at the event that made it be remembered.
A call that sees a VPN runs at most eight more commands, and sets the DNS of at most two interfaces; as
long as it is not done, it goes on with whatever its next command prints. -/
theorem guard_confined {trace : List GuardEvent} {guard : Netguard}
    (ran : run (guardStep dnsTarget) (Netguard.start isVpnActive) trace = some guard) :
    (∀ event after, guardStep dnsTarget guard event = some after →
      Within dnsTarget isVpnActive trace guard event) ∧
    (∀ iface, InView trace iface → IsVpnName iface ∨ ∃ event ∈ trace, event.Routes iface) ∧
    (∀ vpnIface commands, SinceTick trace vpnIface commands →
      commands.length ≤ 8 ∧ commands.countP GuardEvent.isSet ≤ 2) ∧
    (guard.phase ≠ .idle → ∀ printed, ∃ event, event.Prints printed ∧
      ∃ after, guardStep dnsTarget guard event = some after) := by
  have confined := confined_of_run ran
  refine ⟨fun event after stepped => confined.within stepped, fun iface inView => inView.named,
    fun vpnIface commands since => commands_bounded since ran, fun busy printed => ?_⟩
  exact exists_command confined.ready busy printed

theorem guard_confined_vpn_comes :
    ∃ guard, run (guardStep localTarget) (Netguard.start false) (vpnComes "192.0.2.53".toList) =
        some guard ∧
      (∀ event after, guardStep localTarget guard event = some after →
        Within localTarget false (vpnComes "192.0.2.53".toList) guard event) ∧
      ∀ printed, ∃ event, event.Prints printed ∧
        ∃ after, guardStep localTarget guard event = some after := by
  have ran : run (guardStep localTarget) (Netguard.start false) (vpnComes "192.0.2.53".toList) =
      some ⟨true, ["tun0".toList], .setting "eth0".toList [], ["tun0".toList]⟩ := by decide +kernel
  obtain ⟨within, _, _, goesOn⟩ := guard_confined ran
  refine ⟨_, ran, within, goesOn ?_⟩
  intro idle
  cases idle

end DnsHijacker.Shared
