import DnsHijacker.Library.Run
import DnsHijacker.Rust.Text

/-!
# The network guard on Linux

While a VPN interface is up, `tick` sets the DNS of that interface and of the one
with the default route, and remembers them in `TOUCHED_LINKS`; when the VPN has gone
away it calls `revert` for all that it remembers.

Each external command is one event, with what it printed or none if it could not be
run.  The calls of `tick` and `revert` follow one another.
-/

namespace DnsHijacker.Shared

open DnsHijacker.Rust
open DnsHijacker.Library

/-! ## What the commands print -/

/-- The status of a command and its standard output. -/
structure Output where
  success : Bool
  stdout : Text
  deriving DecidableEq

/-- `VPN_IFACE_PREFIXES` -/
def vpnIfacePrefixes : List Text :=
  ["utun".toList, "ipsec".toList, "ppp".toList, "tun".toList, "tap".toList]

/-- `text.split_once(sep)` for a text `sep` that is not empty. -/
def splitOnceAt (sep : Text) : Text → Option (Text × Text)
  | [] => none
  | c :: rest =>
      if sep <+: c :: rest then some ([], (c :: rest).drop sep.length)
      else (splitOnceAt sep rest).map fun (before, after) => (c :: before, after)

/-- `line.split(": ").nth(1)` -/
def secondField (line : Text) : Option Text :=
  (splitOnceAt ": ".toList line).map fun (_, rest) =>
    ((splitOnceAt ": ".toList rest).map Prod.fst).getD rest

/-- The interface of the line, if it is a VPN's and is up. -/
def vpnInterfaceOf (line : Text) : Option Text :=
  (secondField line).bind fun rest =>
    let name := trim ((rest.splitOn ':').head?.getD [])
    let isVpn := vpnIfacePrefixes.any (·.isPrefixOf name)
    let isUp := decide ("UP,".toList <:+: line) || decide (",UP".toList <:+: line) ||
      decide ("<UP>".toList <:+: line)
    if isVpn && isUp then some name else none

/-- `detect_vpn_interface`; the outer `none` is an error. -/
def detectVpnInterface (output : Option Output) : Option (Option Text) :=
  output.bind fun output =>
    if output.success then some ((lines output.stdout).findSome? vpnInterfaceOf) else none

/-- The word after the first `dev`. -/
def deviceOf : List Text → Option Text
  | [] => none
  | tok :: parts => if tok = "dev".toList then parts.head? else deviceOf parts

/-- `get_default_route_iface` -/
def getDefaultRouteIface (output : Option Output) : Option Text :=
  output.bind fun output =>
    if output.success then deviceOf (splitWhitespace output.stdout) else none

/-- `is_already_correct` -/
def isAlreadyCorrect (dnsTarget : Text) : Option Output → Bool
  | none => false
  | some output => output.success && decide (dnsTarget <:+: output.stdout)

/-! ## The guard -/

/-- The command the guard runs next. -/
inductive GuardPhase where
  | idle
  /-- `ip route show default` -/
  | routing (vpnIface : Text)
  /-- `resolvectl status` -/
  | asking (targets : List Text)
  /-- `resolvectl dns` to see the DNS of one of the targets. -/
  | checking (targets : List Text)
  /-- `resolvectl dns` to set it. -/
  | setting (iface : Text) (targets : List Text)
  /-- `resolvectl domain` -/
  | routingOnly (iface : Text) (targets : List Text)
  /-- `resolvectl revert` for one that is remembered. -/
  | reverting
  deriving DecidableEq

structure Netguard where
  isVpnActive : Bool
  /-- `TOUCHED_LINKS` -/
  touched : List Text
  phase : GuardPhase
  /-- The interfaces whose DNS the guard has set and has not reverted. -/
  overridden : List Text
  deriving DecidableEq

/-- The guard as it is spawned; the relay starts with `false`, the proxy with
`true`. -/
def Netguard.start (isVpnActive : Bool) : Netguard where
  isVpnActive := isVpnActive
  touched := []
  phase := .idle
  overridden := []

inductive GuardEvent where
  /-- A call of `tick` runs `ip link show`. -/
  | tick (output : Option Output)
  | route (output : Option Output)
  | status (output : Option Output)
  | showDns (iface : Text) (output : Option Output)
  | setDns (output : Option Output)
  | setDomain (output : Option Output)
  /-- `revert` is called. -/
  | revert
  | revertLink (iface : Text) (output : Option Output)

namespace GuardPhase

/-- The loop of `reassert_via_resolvectl` goes on. -/
def next (targets : List Text) : GuardPhase :=
  if targets = [] then .idle else .checking targets

/-- The loop of `revert` goes on. -/
def drain (touched : List Text) : GuardPhase :=
  if touched = [] then .idle else .reverting

end GuardPhase

/-- One event. -/
def guardStep (dnsTarget : Text) (guard : Netguard) : GuardEvent → Option Netguard
  | .tick output =>
      match guard.phase with
      | .idle =>
          match detectVpnInterface output with
          | none => some guard
          | some (some vpnIface) =>
              some { guard with isVpnActive := true, phase := .routing vpnIface }
          | some none =>
              some { guard with
                isVpnActive := false
                phase := if guard.isVpnActive then .drain guard.touched else .idle }
      | _ => none
  | .route output =>
      match guard.phase with
      | .routing vpnIface =>
          -- The targets are never empty.
          let targets := (getDefaultRouteIface output).toList.foldr List.insert [vpnIface]
          some { guard with phase := .asking targets }
      | _ => none
  | .status output =>
      match guard.phase with
      | .asking targets =>
          some { guard with
            phase := if output.any (·.success) then .checking targets else .idle }
      | _ => none
  | .showDns iface output =>
      match guard.phase with
      | .checking targets =>
          if iface ∈ targets then
            let targets := targets.filter (· ≠ iface)
            if isAlreadyCorrect dnsTarget output then
              some { guard with
                touched := guard.touched.insert iface
                phase := .next targets }
            else some { guard with phase := .setting iface targets }
          else none
      | _ => none
  | .setDns output =>
      match guard.phase with
      | .setting iface targets =>
          match output with
          | none => some { guard with phase := .idle }
          | some output =>
              if output.success then
                some { guard with
                  touched := guard.touched.insert iface
                  phase := .routingOnly iface targets
                  overridden := guard.overridden.insert iface }
              else some { guard with phase := .next targets }
      | _ => none
  | .setDomain _ =>
      match guard.phase with
      | .routingOnly _ targets => some { guard with phase := .next targets }
      | _ => none
  | .revert =>
      match guard.phase with
      | .idle => some { guard with phase := .drain guard.touched }
      | _ => none
  | .revertLink iface output =>
      match guard.phase with
      | .reverting =>
          if iface ∈ guard.touched then
            let touched := guard.touched.filter (· ≠ iface)
            some { guard with
              touched
              phase := .drain touched
              overridden :=
                if output.any (·.success) then guard.overridden.filter (· ≠ iface)
                else guard.overridden }
          else none
      | _ => none

/-- What the events do. -/
inductive GuardMoves (dnsTarget : Text) (guard : Netguard) : GuardEvent → Netguard → Prop
  | noTick {output : Option Output} : GuardMoves dnsTarget guard (.tick output) guard
  | vpnUp {output : Option Output} {vpnIface : Text} :
      GuardMoves dnsTarget guard (.tick output)
        { guard with isVpnActive := true, phase := .routing vpnIface }
  | vpnGone {output : Option Output} (idle : guard.phase = .idle) :
      GuardMoves dnsTarget guard (.tick output)
        { guard with
          isVpnActive := false
          phase := if guard.isVpnActive then .drain guard.touched else .idle }
  | route {output : Option Output} {vpnIface : Text} {targets : List Text}
      (routing : guard.phase = .routing vpnIface) :
      GuardMoves dnsTarget guard (.route output) { guard with phase := .asking targets }
  | status {output : Option Output} {targets : List Text} (asking : guard.phase = .asking targets) :
      GuardMoves dnsTarget guard (.status output)
        { guard with phase := if output.any (·.success) then .checking targets else .idle }
  | skip {iface : Text} {output : Option Output} {targets rest : List Text}
      (checking : guard.phase = .checking targets)
      (correct : isAlreadyCorrect dnsTarget output = true) :
      GuardMoves dnsTarget guard (.showDns iface output)
        { guard with touched := guard.touched.insert iface, phase := .next rest }
  | differs {iface : Text} {output : Option Output} {targets rest : List Text}
      (checking : guard.phase = .checking targets)
      (incorrect : isAlreadyCorrect dnsTarget output = false) :
      GuardMoves dnsTarget guard (.showDns iface output) { guard with phase := .setting iface rest }
  | noSet {iface : Text} {targets : List Text} (setting : guard.phase = .setting iface targets) :
      GuardMoves dnsTarget guard (.setDns none) { guard with phase := .idle }
  | set {output : Output} {iface : Text} {targets : List Text}
      (setting : guard.phase = .setting iface targets) :
      GuardMoves dnsTarget guard (.setDns (some output))
        { guard with
          touched := guard.touched.insert iface
          phase := .routingOnly iface targets
          overridden := guard.overridden.insert iface }
  | setFails {output : Output} {iface : Text} {targets : List Text}
      (setting : guard.phase = .setting iface targets) :
      GuardMoves dnsTarget guard (.setDns (some output)) { guard with phase := .next targets }
  | setDomain {output : Option Output} {iface : Text} {targets : List Text}
      (routingOnly : guard.phase = .routingOnly iface targets) :
      GuardMoves dnsTarget guard (.setDomain output) { guard with phase := .next targets }
  | revert (idle : guard.phase = .idle) :
      GuardMoves dnsTarget guard .revert { guard with phase := .drain guard.touched }
  | revertLink {iface : Text} {output : Option Output} (reverting : guard.phase = .reverting)
      (mem : iface ∈ guard.touched) (success : output.any (·.success) = true) :
      GuardMoves dnsTarget guard (.revertLink iface output)
        { guard with
          touched := guard.touched.filter (· ≠ iface)
          phase := .drain (guard.touched.filter (· ≠ iface))
          overridden := guard.overridden.filter (· ≠ iface) }
  | revertFails {iface : Text} {output : Option Output} (reverting : guard.phase = .reverting)
      (mem : iface ∈ guard.touched) (failure : output.any (·.success) = false) :
      GuardMoves dnsTarget guard (.revertLink iface output)
        { guard with
          touched := guard.touched.filter (· ≠ iface)
          phase := .drain (guard.touched.filter (· ≠ iface)) }

variable {dnsTarget : Text}

theorem guardMoves_of_step {guard after : Netguard} {event : GuardEvent}
    (stepped : guardStep dnsTarget guard event = some after) :
    GuardMoves dnsTarget guard event after := by
  cases event with
  | tick output =>
      rw [guardStep] at stepped
      split at stepped
      · rename_i idle
        split at stepped
        · cases stepped
          exact .noTick
        · cases stepped
          exact .vpnUp
        · cases stepped
          exact .vpnGone idle
      · contradiction
  | route output =>
      rw [guardStep] at stepped
      split at stepped
      · rename_i vpnIface routing
        cases stepped
        exact .route routing
      · contradiction
  | status output =>
      rw [guardStep] at stepped
      split at stepped
      · rename_i targets asking
        cases stepped
        exact .status asking
      · contradiction
  | showDns iface output =>
      rw [guardStep] at stepped
      split at stepped
      · rename_i targets checking
        split at stepped
        · dsimp only at stepped
          cases correct : isAlreadyCorrect dnsTarget output with
          | true =>
              rw [correct] at stepped
              cases stepped
              exact .skip checking correct
          | false =>
              rw [correct] at stepped
              cases stepped
              exact .differs checking correct
        · contradiction
      · contradiction
  | setDns output =>
      rw [guardStep] at stepped
      split at stepped
      · rename_i iface targets setting
        cases output with
        | none =>
            cases stepped
            exact .noSet setting
        | some output =>
            dsimp only at stepped
            split at stepped
            · cases stepped
              exact .set setting
            · cases stepped
              exact .setFails setting
      · contradiction
  | setDomain output =>
      rw [guardStep] at stepped
      split at stepped
      · rename_i iface targets routingOnly
        cases stepped
        exact .setDomain routingOnly
      · contradiction
  | revert =>
      rw [guardStep] at stepped
      split at stepped
      · rename_i idle
        cases stepped
        exact .revert idle
      · contradiction
  | revertLink iface output =>
      rw [guardStep] at stepped
      split at stepped
      · rename_i reverting
        split at stepped
        · rename_i mem
          dsimp only at stepped
          cases success : output.any (·.success) with
          | true =>
              rw [success] at stepped
              cases stepped
              exact .revertLink reverting mem success
          | false =>
              rw [success] at stepped
              cases stepped
              exact .revertFails reverting mem success
        · contradiction
      · contradiction

/-! ## What is remembered -/

theorem GuardPhase.drain_eq_idle_iff {touched : List Text} :
    GuardPhase.drain touched = .idle ↔ touched = [] := by
  rw [GuardPhase.drain]
  split
  · rename_i empty
    exact iff_of_true rfl empty
  · rename_i some
    exact iff_of_false (fun idle => nomatch idle) some

/-- The guard sets DNS only while the VPN is up, and remembers nothing when it is idle
without one. -/
structure Restored (guard : Netguard) : Prop where
  active : guard.phase ≠ .idle → guard.phase ≠ .reverting → guard.isVpnActive = true
  idle : guard.phase = .idle → guard.isVpnActive = false → guard.touched = []

/-- A guard with the VPN up is as it should be. -/
theorem restored_of_active {guard : Netguard} (active : guard.isVpnActive = true) :
    Restored guard where
  active _ _ := active
  idle _ inactive := by
    rw [active] at inactive
    contradiction

/-- So is one that has just begun or gone on to revert. -/
theorem restored_of_drain {guard : Netguard} (phase : guard.phase = .drain guard.touched) :
    Restored guard where
  active notIdle notReverting := by
    rw [phase, GuardPhase.drain] at notIdle notReverting
    split at notIdle
    · contradiction
    · rename_i some
      rw [if_neg some] at notReverting
      contradiction
  idle isIdle _ := by
    rw [phase] at isIdle
    exact GuardPhase.drain_eq_idle_iff.mp isIdle

theorem Restored.of_phase {guard : Netguard} (restored : Restored guard) {phase : GuardPhase}
    (here : guard.phase = phase) (notIdle : phase ≠ .idle) (notReverting : phase ≠ .reverting) :
    guard.isVpnActive = true := by
  apply restored.active
  · rw [here]
    exact notIdle
  · rw [here]
    exact notReverting

theorem Restored.move {guard after : Netguard} {event : GuardEvent} (restored : Restored guard)
    (moves : GuardMoves dnsTarget guard event after) : Restored after := by
  cases moves with
  | noTick => exact restored
  | vpnUp => exact restored_of_active rfl
  | vpnGone idle =>
      cases active : guard.isVpnActive with
      | true => exact restored_of_drain rfl
      | false => exact ⟨fun notIdle => absurd rfl notIdle, fun _ _ => restored.idle idle active⟩
  | route routing =>
      exact restored_of_active (restored.of_phase routing nofun nofun)
  | status asking =>
      exact restored_of_active (restored.of_phase asking nofun nofun)
  | skip checking correct =>
      exact restored_of_active (restored.of_phase checking nofun nofun)
  | differs checking incorrect =>
      exact restored_of_active (restored.of_phase checking nofun nofun)
  | noSet setting =>
      exact restored_of_active (restored.of_phase setting nofun nofun)
  | set setting =>
      exact restored_of_active (restored.of_phase setting nofun nofun)
  | setFails setting =>
      exact restored_of_active (restored.of_phase setting nofun nofun)
  | setDomain routingOnly =>
      exact restored_of_active (restored.of_phase routingOnly nofun nofun)
  | revert idle => exact restored_of_drain rfl
  | revertLink reverting mem success => exact restored_of_drain rfl
  | revertFails reverting mem failure => exact restored_of_drain rfl

/-- The guard remembers exactly the interfaces it has set and not reverted, and there is
none when it is idle without a VPN. -/
structure RevertsExactly (guard : Netguard) : Prop where
  touched : ∀ iface, iface ∈ guard.touched ↔ iface ∈ guard.overridden
  undone : guard.phase = .idle → guard.isVpnActive = false → guard.overridden = []

/-- Only what the guard has set is reverted. -/
def RevertsOwn (guard : Netguard) : GuardEvent → Prop
  | .revertLink iface _ => iface ∈ guard.overridden
  | _ => True

/-- An interface that has the guard's DNS already has it from the guard, and no
`resolvectl revert` fails. -/
def OnlyOwn (dnsTarget : Text) (guard : Netguard) : GuardEvent → Prop
  | .showDns iface output =>
      isAlreadyCorrect dnsTarget output = true → iface ∈ guard.overridden
  | .revertLink _ output => output.any (·.success) = true
  | _ => True

instance (dnsTarget : Text) (guard : Netguard) (event : GuardEvent) :
    Decidable (OnlyOwn dnsTarget guard event) :=
  match event with
  | .showDns iface output =>
      inferInstanceAs (Decidable (isAlreadyCorrect dnsTarget output = true → iface ∈ guard.overridden))
  | .revertLink _ output => inferInstanceAs (Decidable (output.any (·.success) = true))
  | .tick _ => .isTrue trivial
  | .route _ => .isTrue trivial
  | .status _ => .isTrue trivial
  | .setDns _ => .isTrue trivial
  | .setDomain _ => .isTrue trivial
  | .revert => .isTrue trivial

theorem revertsExactly_iff {guard : Netguard} (restored : Restored guard) :
    RevertsExactly guard ↔ ∀ iface, iface ∈ guard.touched ↔ iface ∈ guard.overridden := by
  constructor
  · exact RevertsExactly.touched
  · intro touched
    refine ⟨touched, fun idle inactive => ?_⟩
    rw [List.eq_nil_iff_forall_not_mem]
    intro iface
    rw [← touched, restored.idle idle inactive]
    exact List.not_mem_nil

theorem touched_iff_of_moves {guard after : Netguard} {event : GuardEvent}
    (before : ∀ iface, iface ∈ guard.touched ↔ iface ∈ guard.overridden)
    (moves : GuardMoves dnsTarget guard event after) :
    (∀ iface, iface ∈ after.touched ↔ iface ∈ after.overridden) ↔
      OnlyOwn dnsTarget guard event := by
  cases moves with
  | noTick => exact iff_of_true before trivial
  | vpnUp => exact iff_of_true before trivial
  | vpnGone idle => exact iff_of_true before trivial
  | route routing => exact iff_of_true before trivial
  | status asking => exact iff_of_true before trivial
  | @skip iface output _ _ checking correct =>
      simp only [OnlyOwn, List.mem_insert_iff, before]
      constructor
      · exact fun same _ => (same iface).mp (.inl rfl)
      · rintro own other
        constructor
        · rintro (rfl | mem)
          · exact own correct
          · exact mem
        · exact .inr
  | differs checking incorrect =>
      apply iff_of_true before
      intro correct
      rw [incorrect] at correct
      contradiction
  | noSet setting => exact iff_of_true before trivial
  | set setting =>
      apply iff_of_true _ trivial
      intro iface
      simp only [List.mem_insert_iff, before]
  | setFails setting => exact iff_of_true before trivial
  | setDomain routingOnly => exact iff_of_true before trivial
  | revert idle => exact iff_of_true before trivial
  | revertLink reverting mem success =>
      apply iff_of_true _ success
      intro iface
      simp only [List.mem_filter, before]
  | @revertFails iface output reverting mem failure =>
      apply iff_of_false
      · intro same
        have gone := (same iface).mpr ((before iface).mp mem)
        simp at gone
      · rw [OnlyOwn, failure]
        exact Bool.false_ne_true

theorem restored_start (isVpnActive : Bool) : Restored (Netguard.start isVpnActive) where
  active notIdle := absurd rfl notIdle
  idle _ _ := rfl

/-- In all states of a run the guard remembers exactly what it has set and not reverted,
and it reverts nothing else, exactly if no interface has the guard's DNS from elsewhere
and no `resolvectl revert` fails. -/
theorem reverts_exactly_iff {isVpnActive : Bool} {trace : List GuardEvent} {guard : Netguard}
    (ran : run (guardStep dnsTarget) (Netguard.start isVpnActive) trace = some guard) :
    Throughout (guardStep dnsTarget) RevertsExactly (Netguard.start isVpnActive) trace ∧
        Along (guardStep dnsTarget) RevertsOwn (Netguard.start isVpnActive) trace ↔
      Along (guardStep dnsTarget) (OnlyOwn dnsTarget) (Netguard.start isVpnActive) trace := by
  have same : Throughout (guardStep dnsTarget) RevertsExactly (Netguard.start isVpnActive) trace ↔
      Along (guardStep dnsTarget) (OnlyOwn dnsTarget) (Netguard.start isVpnActive) trace := by
    apply throughout_iff (restored_start isVpnActive) _ _ _ (along_true _ _ trace) ran
    · exact (revertsExactly_iff (restored_start isVpnActive)).mpr fun _ => Iff.rfl
    · intro state event after restored _ stepped
      exact restored.move (guardMoves_of_step stepped)
    · intro state event after restored exactly _ stepped
      have moves := guardMoves_of_step stepped
      rw [revertsExactly_iff (restored.move moves)]
      exact touched_iff_of_moves exactly.touched moves
  rw [← same]
  apply and_iff_left_of_imp
  intro throughout
  apply throughout.along _ ran
  intro state event after exactly stepped
  cases guardMoves_of_step stepped with
  | revertLink reverting mem success => exact (exactly.touched _).mp mem
  | revertFails reverting mem failure => exact (exactly.touched _).mp mem
  | noTick => trivial
  | vpnUp => trivial
  | vpnGone idle => trivial
  | route routing => trivial
  | status asking => trivial
  | skip checking correct => trivial
  | differs checking incorrect => trivial
  | noSet setting => trivial
  | set setting => trivial
  | setFails setting => trivial
  | setDomain routingOnly => trivial
  | revert idle => trivial

/-! ## A VPN that comes and goes -/

/-- `127.0.0.1` -/
def localTarget : Text :=
  "127.0.0.1".toList

/-- `ip link show` with a VPN. -/
def vpnUpOutput : Option Output :=
  some ⟨true, "3: tun0: <POINTOPOINT,UP,LOWER_UP> mtu 1500".toList⟩

/-- `ip link show` without one. -/
def vpnDownOutput : Option Output :=
  some ⟨true, "2: eth0: <BROADCAST,UP,LOWER_UP> mtu 1500".toList⟩

def routeOutput : Option Output :=
  some ⟨true, "default via 192.0.2.1 dev eth0 proto dhcp".toList⟩

/-- The DNS of `eth0`. -/
def dnsOutput (server : Text) : Option Output :=
  some ⟨true, "Link 2 (eth0): ".toList ++ server⟩

def done : Option Output :=
  some ⟨true, []⟩

def failed : Option Output :=
  some ⟨false, []⟩

/-- The VPN comes up, and the guard sets the DNS of its interface; that of `eth0` is
`server`. -/
def vpnComes (server : Text) : List GuardEvent :=
  [.tick vpnUpOutput, .route routeOutput, .status done, .showDns "tun0".toList failed,
    .setDns done, .setDomain done, .showDns "eth0".toList (dnsOutput server)]

/-- The guard sets the DNS of `eth0` as well, the VPN goes away, and `eth0` is reverted
with this result, `tun0` without an error. -/
def vpnGoes (result : Option Output) : List GuardEvent :=
  vpnComes "192.0.2.53".toList ++ [.setDns done, .setDomain done, .tick vpnDownOutput,
    .revertLink "eth0".toList result, .revertLink "tun0".toList done]

theorem reverts_exactly_done :
    Throughout (guardStep localTarget) RevertsExactly (Netguard.start false) (vpnGoes done) ∧
      Along (guardStep localTarget) RevertsOwn (Netguard.start false) (vpnGoes done) := by
  have ran : run (guardStep localTarget) (Netguard.start false) (vpnGoes done) =
      some ⟨false, [], .idle, []⟩ := by decide +kernel
  exact (reverts_exactly_iff ran).mpr (by decide +kernel)

/-- The user's own DNS of `eth0` is the guard's: `eth0` is about to be reverted though the
guard has not set it.  And a revert that fails is forgotten. -/
theorem user_link_reverted_override_lost :
    (∃ guard after,
      run (guardStep localTarget) (Netguard.start false)
        (vpnComes localTarget ++ [.tick vpnDownOutput]) = some guard ∧
      guardStep localTarget guard (.revertLink "eth0".toList done) = some after ∧
      ¬ RevertsExactly guard ∧ ¬ RevertsOwn guard (.revertLink "eth0".toList done)) ∧
    ∃ guard, run (guardStep localTarget) (Netguard.start false) (vpnGoes failed) = some guard ∧
      guard.isVpnActive = false ∧ guard.phase = .idle ∧ guard.touched = [] ∧
      "eth0".toList ∈ guard.overridden := by
  have comes : run (guardStep localTarget) (Netguard.start false)
      (vpnComes localTarget ++ [.tick vpnDownOutput]) =
        some ⟨false, ["eth0".toList, "tun0".toList], .reverting, ["tun0".toList]⟩ := by
    decide +kernel
  have goes : run (guardStep localTarget) (Netguard.start false) (vpnGoes failed) =
      some ⟨false, [], .idle, ["eth0".toList]⟩ := by decide +kernel
  have notOwn : "eth0".toList ∉ ["tun0".toList] := by decide
  constructor
  · refine ⟨_, _, comes, rfl, ?_, notOwn⟩
    exact fun exactly => notOwn ((exactly.touched "eth0".toList).mp List.mem_cons_self)
  · exact ⟨_, goes, rfl, rfl, rfl, List.mem_cons_self⟩

end DnsHijacker.Shared
