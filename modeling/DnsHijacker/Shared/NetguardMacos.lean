import DnsHijacker.Shared.Netguard

/-!
# The network guard on macOS

While a VPN interface is up, `tick` writes a `State:` entry with our DNS for the
primary network service, sets the DNS of all services, and remembers both in
`TOUCHED`; when the VPN has gone away it calls `revert`.

The calls of `tick` and `revert` follow one another.  What the external commands
print is an argument of the call; a command that could not be run prints nothing.
-/

namespace DnsHijacker.Shared.Macos

open DnsHijacker.Rust
open DnsHijacker.Library

/-! ## What the commands print -/

/-- The loop of `detect_vpn_interface`, with what is known of the interface the line
belongs to. -/
def anyVpnUp : List Text → Bool → Bool → Bool
  | [], _, _ => false
  | line :: rest, currentIfaceIsVpn, currentIfaceUp =>
      if !(line.head?.any isWhitespace) && !line.isEmpty then
        let name := (line.splitOn ':').head?.getD []
        anyVpnUp rest (vpnIfacePrefixes.any (·.isPrefixOf name))
          (decide ("<UP,".toList <:+: line) || decide (",UP,".toList <:+: line) ||
            decide (",UP>".toList <:+: line))
      else if currentIfaceIsVpn && currentIfaceUp &&
          "inet ".toList.isPrefixOf (line.dropWhile isWhitespace) then
        true
      else anyVpnUp rest currentIfaceIsVpn currentIfaceUp

/-- `detect_vpn_interface`; `none` is an error. -/
def detectVpnInterface (output : Option Output) : Option Bool :=
  output.bind fun output =>
    if output.success then some (anyVpnUp (lines output.stdout) false false) else none

/-- `get_primary_service_id`.  The status of `scutil` is not looked at. -/
def getPrimaryServiceId (output : Option Output) : Option Text :=
  (output.bind fun output =>
    (lines output.stdout).findSome? fun line =>
      stripPrefix "PrimaryService : ".toList (trim line)).map trim

/-- `already_correct` -/
def alreadyCorrect (dnsTarget : Text) : Option Output → Bool
  | none => false
  | some output =>
      output.success && decide (((lines output.stdout).head?.map trim) = some dnsTarget)

/-- The services in the output of `networksetup -listallnetworkservices`. -/
def serviceNames (stdout : Text) : List Text :=
  (((lines stdout).drop 1).map trim).filter fun service =>
    !(service.isEmpty || service.head? == some '*')

/-- What the commands of one call print. -/
structure Commands where
  ifconfig : Option Output
  /-- `show State:/Network/Global/IPv4` -/
  showGlobal : Option Output
  /-- `set State:/Network/Service/…/DNS` -/
  setState : Option Output
  /-- `remove State:/Network/Service/…/DNS` -/
  removeState : Option Output
  listServices : Option Output
  /-- `-getdnsservers` for a service. -/
  getDns : Text → Option Output
  /-- `-setdnsservers` for a service, with our DNS or with `Empty`. -/
  setDns : Text → Option Output

/-- The command has run without an error. -/
abbrev Ran (output : Option Output) : Prop :=
  output.any (·.success) = true

structure Commands.Succeed (commands : Commands) : Prop where
  ifconfig : Ran commands.ifconfig
  showGlobal : Ran commands.showGlobal
  setState : Ran commands.setState
  removeState : Ran commands.removeState
  listServices : Ran commands.listServices
  getDns : ∀ service, Ran (commands.getDns service)
  setDns : ∀ service, Ran (commands.setDns service)

/-! ## The guard -/

structure Netguard where
  isVpnActive : Bool
  /-- `TOUCHED.services` -/
  services : List Text
  /-- `TOUCHED.scutil_service_id` -/
  scutilServiceId : Option Text
  /-- The services whose `State:` entry the guard has set and has not removed. -/
  stateOverrides : List Text
  deriving DecidableEq

/-- The guard as it is spawned; the relay starts with `false`, the proxy with
`true`. -/
def Netguard.start (isVpnActive : Bool) : Netguard where
  isVpnActive := isVpnActive
  services := []
  scutilServiceId := none
  stateOverrides := []

namespace Netguard

/-- `revert`.  A command that fails is logged and nothing else. -/
def revert (commands : Commands) (guard : Netguard) : Netguard where
  isVpnActive := guard.isVpnActive
  services := []
  scutilServiceId := none
  stateOverrides :=
    match guard.scutilServiceId with
    | some serviceId =>
        if commands.removeState.any (·.success) then guard.stateOverrides.filter (· ≠ serviceId)
        else guard.stateOverrides
    | none => guard.stateOverrides

/-- `force_primary_dns_state`, and what `tick` remembers of it.  An error is one in
running `scutil`. -/
def forcePrimaryDnsState (primaryId : Text) (commands : Commands) (guard : Netguard) : Netguard :=
  { guard with
    scutilServiceId :=
      if commands.setState.isSome then some primaryId else guard.scutilServiceId
    stateOverrides :=
      if commands.setState.any (·.success) then guard.stateOverrides.insert primaryId
      else guard.stateOverrides }

/-- `reassert_dns_on_service` -/
def reassertDnsOnService (dnsTarget : Text) (commands : Commands) (guard : Netguard)
    (service : Text) : Netguard :=
  if alreadyCorrect dnsTarget (commands.getDns service) ||
      (commands.setDns service).any (·.success) then
    { guard with services := guard.services.insert service }
  else guard

/-- `reassert_dns_on_all_services` -/
def reassertDnsOnAllServices (dnsTarget : Text) (commands : Commands) (guard : Netguard) :
    Netguard :=
  match commands.listServices with
  | none => guard
  | some output =>
      if output.success then
        (serviceNames output.stdout).foldl (reassertDnsOnService dnsTarget commands) guard
      else guard

/-- `tick` -/
def tick (dnsTarget : Text) (commands : Commands) (guard : Netguard) : Netguard :=
  match detectVpnInterface commands.ifconfig with
  | none => guard
  | some false =>
      if guard.isVpnActive then ({ guard with isVpnActive := false }).revert commands else guard
  | some true =>
      let guard := { guard with isVpnActive := true }
      reassertDnsOnAllServices dnsTarget commands
        (match getPrimaryServiceId commands.showGlobal with
          | some primaryId => guard.forcePrimaryDnsState primaryId commands
          | none => guard)

end Netguard

inductive GuardEvent where
  | tick (commands : Commands)
  | revert (commands : Commands)

/-- The external commands of the call all succeed. -/
def GuardEvent.Succeeds : GuardEvent → Prop
  | .tick commands => commands.Succeed
  | .revert commands => commands.Succeed

/-- One call. -/
def guardStep (dnsTarget : Text) (guard : Netguard) : GuardEvent → Option Netguard
  | .tick commands => some (guard.tick dnsTarget commands)
  | .revert commands => some (guard.revert commands)

variable {dnsTarget : Text}

/-! ## What is remembered -/

/-- Setting the DNS of the services concerns the services alone. -/
theorem exists_reassertDnsOnAllServices (dnsTarget : Text) (commands : Commands) (guard : Netguard) :
    ∃ services, guard.reassertDnsOnAllServices dnsTarget commands = { guard with services } := by
  rw [Netguard.reassertDnsOnAllServices]
  cases commands.listServices with
  | none => exact ⟨guard.services, rfl⟩
  | some output =>
      dsimp only
      split
      · generalize serviceNames output.stdout = names
        induction names generalizing guard with
        | nil => exact ⟨guard.services, rfl⟩
        | cons name names ih =>
            rw [List.foldl_cons, Netguard.reassertDnsOnService]
            split
            · exact ih { guard with services := guard.services.insert name }
            · exact ih guard
      · exact ⟨guard.services, rfl⟩

/-- What a call does whose commands all succeed. -/
inductive GuardMoves (guard : Netguard) : GuardEvent → Netguard → Prop
  | tickUp {commands : Commands} {services : List Text} (primaryId : Text)
      (up : detectVpnInterface commands.ifconfig = some true)
      (primary : getPrimaryServiceId commands.showGlobal = some primaryId) :
      GuardMoves guard (.tick commands)
        { isVpnActive := true
          services
          scutilServiceId := some primaryId
          stateOverrides := guard.stateOverrides.insert primaryId }
  | tickNoPrimary {commands : Commands} {services : List Text}
      (up : detectVpnInterface commands.ifconfig = some true)
      (noPrimary : getPrimaryServiceId commands.showGlobal = none) :
      GuardMoves guard (.tick commands) { guard with isVpnActive := true, services }
  | tickGone {commands : Commands} (gone : detectVpnInterface commands.ifconfig = some false)
      (active : guard.isVpnActive = true) :
      GuardMoves guard (.tick commands)
        { isVpnActive := false
          services := []
          scutilServiceId := none
          stateOverrides := guard.stateOverrides.filter (guard.scutilServiceId ≠ some ·) }
  | tickIdle {commands : Commands} (gone : detectVpnInterface commands.ifconfig = some false)
      (inactive : guard.isVpnActive = false) : GuardMoves guard (.tick commands) guard
  | revert {commands : Commands} :
      GuardMoves guard (.revert commands)
        { isVpnActive := guard.isVpnActive
          services := []
          scutilServiceId := none
          stateOverrides := guard.stateOverrides.filter (guard.scutilServiceId ≠ some ·) }

theorem revert_of_succeed {commands : Commands} (succeed : commands.Succeed) (guard : Netguard) :
    guard.revert commands =
      { isVpnActive := guard.isVpnActive
        services := []
        scutilServiceId := none
        stateOverrides := guard.stateOverrides.filter (guard.scutilServiceId ≠ some ·) } := by
  rw [Netguard.revert]
  cases guard.scutilServiceId with
  | none => simp
  | some serviceId =>
      dsimp only
      rw [if_pos succeed.removeState]
      simp only [ne_eq, Option.some.injEq, eq_comm]

theorem forcePrimaryDnsState_of_succeed {commands : Commands} (succeed : commands.Succeed)
    (primaryId : Text) (guard : Netguard) :
    guard.forcePrimaryDnsState primaryId commands =
      { guard with
        scutilServiceId := some primaryId
        stateOverrides := guard.stateOverrides.insert primaryId } := by
  have ran : commands.setState.isSome := by
    have done := succeed.setState
    rw [Ran] at done
    cases here : commands.setState with
    | none =>
        rw [here] at done
        contradiction
    | some output => rfl
  rw [Netguard.forcePrimaryDnsState, if_pos ran, if_pos succeed.setState]

/-- `ifconfig` that has run tells whether a VPN is up. -/
theorem exists_detectVpnInterface {output : Option Output} (ran : Ran output) :
    ∃ up, detectVpnInterface output = some up := by
  cases output with
  | none => contradiction
  | some output =>
      have success : output.success = true := ran
      exact ⟨_, if_pos success⟩

theorem guardMoves_of_step {guard after : Netguard} {event : GuardEvent}
    (succeeds : event.Succeeds) (stepped : guardStep dnsTarget guard event = some after) :
    GuardMoves guard event after := by
  cases event with
  | tick commands =>
      cases stepped
      obtain ⟨up, detected⟩ := exists_detectVpnInterface succeeds.ifconfig
      rw [Netguard.tick, detected]
      cases up with
      | true =>
          dsimp only
          cases primary : getPrimaryServiceId commands.showGlobal with
          | none =>
              obtain ⟨services, same⟩ := exists_reassertDnsOnAllServices dnsTarget
                commands { guard with isVpnActive := true }
              rw [same]
              exact .tickNoPrimary detected primary
          | some primaryId =>
              obtain ⟨services, same⟩ := exists_reassertDnsOnAllServices dnsTarget
                commands (({ guard with isVpnActive := true }).forcePrimaryDnsState primaryId commands)
              dsimp only
              rw [same, forcePrimaryDnsState_of_succeed succeeds]
              exact .tickUp primaryId detected primary
      | false =>
          dsimp only
          split
          · rename_i active
            rw [revert_of_succeed succeeds]
            exact .tickGone detected active
          · rename_i inactive
            exact .tickIdle detected (eq_false_of_ne_true inactive)
  | revert commands =>
      cases stepped
      rw [revert_of_succeed succeeds]
      exact .revert

/-- If the next tick finds that the VPN has gone away, no `State:` entry of the guard
stays behind. -/
def LeavesNothing (dnsTarget : Text) (guard : Netguard) : Prop :=
  ∀ commands : Commands, commands.Succeed → detectVpnInterface commands.ifconfig = some false →
    (guard.tick dnsTarget commands).stateOverrides = []

/-- The primary service is the one whose entry is remembered, if one is. -/
def SamePrimary (guard : Netguard) : GuardEvent → Prop
  | .tick commands =>
      detectVpnInterface commands.ifconfig = some true →
        (getPrimaryServiceId commands.showGlobal).all fun primaryId =>
          guard.scutilServiceId.all (· = primaryId)
  | .revert _ => True

instance (guard : Netguard) (event : GuardEvent) : Decidable (SamePrimary guard event) :=
  match event with
  | .tick _ => inferInstanceAs (Decidable (_ → _))
  | .revert _ => .isTrue trivial

/-- Every entry that was set is that of the remembered service. -/
def Covered (guard : Netguard) : Prop :=
  ∀ serviceId ∈ guard.stateOverrides,
    guard.isVpnActive = true ∧ guard.scutilServiceId = some serviceId

/-- Commands that print nothing and find no VPN. -/
def quiet : Commands where
  ifconfig := some ⟨true, []⟩
  showGlobal := some ⟨true, []⟩
  setState := some ⟨true, []⟩
  removeState := some ⟨true, []⟩
  listServices := some ⟨true, []⟩
  getDns _ := some ⟨true, []⟩
  setDns _ := some ⟨true, []⟩

theorem quiet_succeed : quiet.Succeed where
  ifconfig := rfl
  showGlobal := rfl
  setState := rfl
  removeState := rfl
  listServices := rfl
  getDns _ := rfl
  setDns _ := rfl

theorem stateOverrides_tick_of_gone {commands : Commands} (succeed : commands.Succeed)
    (gone : detectVpnInterface commands.ifconfig = some false) (guard : Netguard) :
    (guard.tick dnsTarget commands).stateOverrides =
      if guard.isVpnActive then guard.stateOverrides.filter (guard.scutilServiceId ≠ some ·)
      else guard.stateOverrides := by
  rw [Netguard.tick, gone]
  dsimp only
  split
  · rw [revert_of_succeed succeed]
  · rfl

theorem leavesNothing_iff {guard : Netguard} : LeavesNothing dnsTarget guard ↔ Covered guard := by
  have covered : (if guard.isVpnActive then
      guard.stateOverrides.filter (guard.scutilServiceId ≠ some ·) else guard.stateOverrides) = [] ↔
        Covered guard := by
    rw [Covered]
    cases guard.isVpnActive with
    | true => simp
    | false => simp [List.eq_nil_iff_forall_not_mem]
  constructor
  · intro leaves
    have left := leaves quiet quiet_succeed (by decide +kernel)
    rw [stateOverrides_tick_of_gone quiet_succeed (by decide +kernel)] at left
    exact covered.mp left
  · intro all commands succeed gone
    rw [stateOverrides_tick_of_gone succeed gone]
    exact covered.mpr all

/-- What is remembered has been set. -/
def Held (guard : Netguard) : Prop :=
  ∀ serviceId, guard.scutilServiceId = some serviceId → serviceId ∈ guard.stateOverrides

theorem Held.move {guard after : Netguard} {event : GuardEvent} (held : Held guard)
    (moves : GuardMoves guard event after) : Held after := by
  cases moves with
  | tickUp primaryId up primary =>
      intro serviceId same
      cases same
      exact List.mem_insert_self
  | tickNoPrimary up noPrimary => exact held
  | tickGone gone active => exact nofun
  | tickIdle gone inactive => exact held
  | revert => exact nofun

theorem Covered.filter_eq_nil {guard : Netguard} (covered : Covered guard) :
    guard.stateOverrides.filter (guard.scutilServiceId ≠ some ·) = [] := by
  rw [List.filter_eq_nil_iff]
  intro serviceId mem
  simp [(covered serviceId mem).2]

theorem covered_of_eq_nil {guard : Netguard} (left : guard.stateOverrides = []) :
    Covered guard := by
  intro serviceId mem
  rw [left] at mem
  contradiction

theorem covered_iff_of_moves {guard after : Netguard} {event : GuardEvent} (held : Held guard)
    (covered : Covered guard) (moves : GuardMoves guard event after) :
    Covered after ↔ SamePrimary guard event := by
  cases moves with
  | tickUp primaryId up primary =>
      simp only [SamePrimary, up, primary, forall_const, Option.all_some]
      constructor
      · intro after
        cases known : guard.scutilServiceId with
        | none => rfl
        | some serviceId =>
            have still := (after serviceId (List.mem_insert_of_mem (held serviceId known))).2
            cases still
            simp
      · intro same serviceId mem
        refine ⟨rfl, ?_⟩
        rcases List.mem_insert_iff.mp mem with rfl | before
        · rfl
        · rw [(covered serviceId before).2] at same
          simpa using Eq.symm (of_decide_eq_true same)
  | tickNoPrimary up noPrimary =>
      apply iff_of_true
      · exact fun serviceId mem => ⟨rfl, (covered serviceId mem).2⟩
      · intro _
        rw [noPrimary]
        rfl
  | tickGone gone active =>
      apply iff_of_true (covered_of_eq_nil covered.filter_eq_nil)
      intro up
      rw [gone] at up
      contradiction
  | tickIdle gone inactive =>
      apply iff_of_true covered
      intro up
      rw [gone] at up
      contradiction
  | revert => exact iff_of_true (covered_of_eq_nil covered.filter_eq_nil) trivial

/-- In all states of a run whose commands succeed the guard would leave no `State:` entry
behind, exactly if no tick finds another primary service than the one whose entry is
remembered. -/
theorem state_reverted_iff {isVpnActive : Bool} {trace : List GuardEvent} {guard : Netguard}
    (succeed : ∀ event ∈ trace, event.Succeeds)
    (ran : run (guardStep dnsTarget) (Netguard.start isVpnActive) trace = some guard) :
    Throughout (guardStep dnsTarget) (LeavesNothing dnsTarget) (Netguard.start isVpnActive) trace ↔
      Along (guardStep dnsTarget) SamePrimary (Netguard.start isVpnActive) trace := by
  have initially : Held (Netguard.start isVpnActive) := nofun
  apply throughout_iff initially _ _ _ (along_of_forall_mem succeed _) ran
  · exact leavesNothing_iff.mpr (covered_of_eq_nil rfl)
  · intro state event after held succeeds stepped
    exact held.move (guardMoves_of_step succeeds stepped)
  · intro state event after held leaves succeeds stepped
    rw [leavesNothing_iff] at leaves ⊢
    exact covered_iff_of_moves held leaves (guardMoves_of_step succeeds stepped)

/-! ## A network switch -/

/-- A tick with a VPN up and this primary service. -/
def vpnUp (primaryId : Text) : Commands :=
  { quiet with
    ifconfig := some ⟨true, "utun0: flags=8051<UP,POINTOPOINT> mtu 1380\n\tinet 10.8.0.2".toList⟩
    showGlobal := some ⟨true, "  PrimaryService : ".toList ++ primaryId⟩ }

theorem vpnUp_succeed (primaryId : Text) : (vpnUp primaryId).Succeed :=
  { quiet_succeed with
    ifconfig := rfl
    showGlobal := rfl }

/-- The VPN is up over the first service and then over the second. -/
def ticksOver (first second : Text) : List GuardEvent :=
  [.tick (vpnUp first), .tick (vpnUp second)]

theorem ticksOver_succeed (first second : Text) :
    ∀ event ∈ ticksOver first second, event.Succeeds := by
  rw [ticksOver, List.forall_mem_cons, List.forall_mem_singleton]
  exact ⟨vpnUp_succeed first, vpnUp_succeed second⟩

theorem state_reverted_iff_same :
    Throughout (guardStep localTarget) (LeavesNothing localTarget) (Netguard.start false)
      (ticksOver ['A'] ['A']) := by
  have ran : run (guardStep localTarget) (Netguard.start false) (ticksOver ['A'] ['A']) =
      some ⟨true, [], some ['A'], [['A']]⟩ := by decide +kernel
  exact (state_reverted_iff (ticksOver_succeed ['A'] ['A']) ran).mpr (by decide +kernel)

/-- The entry of the first service stays behind when the VPN has gone away. -/
theorem other_primary_entry_left :
    (∀ event ∈ ticksOver ['A'] ['B'], event.Succeeds) ∧
      ¬ Throughout (guardStep localTarget) (LeavesNothing localTarget) (Netguard.start false)
        (ticksOver ['A'] ['B']) ∧
      run (guardStep localTarget) (Netguard.start false) (ticksOver ['A'] ['B'] ++ [.tick quiet]) =
        some ⟨false, [], none, [['A']]⟩ := by
  have ran : run (guardStep localTarget) (Netguard.start false) (ticksOver ['A'] ['B']) =
      some ⟨true, [], some ['B'], [['B'], ['A']]⟩ := by decide +kernel
  refine ⟨ticksOver_succeed ['A'] ['B'], ?_, by decide +kernel⟩
  intro throughout
  have left := throughout.final ran quiet quiet_succeed (by decide +kernel)
  rw [stateOverrides_tick_of_gone quiet_succeed (by decide +kernel)] at left
  contradiction

end DnsHijacker.Shared.Macos
