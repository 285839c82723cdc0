import DnsHijacker.Library.Collect
import DnsHijacker.Shared.ObfsKey
import DnsHijacker.ResolverProxy.Forward

/-!
# Starting the proxy

Before the proxy listens it resolves the address of every configured target and reads its key, and it
does not start if one of them has a defect.  The picker has all targets in their configured order.
-/

namespace DnsHijacker.ResolverProxy

open DnsHijacker.Rust
open DnsHijacker.Library
open DnsHijacker.Shared
open DnsHijacker.Shared.Obfs

/-- `ProxyTarget` -/
structure ProxyTarget where
  name : Text
  mode : TransportMode
  address : Text
  sharedKey : Option Text
  deriving DecidableEq

/-- `ProxyConf`, as far as the picker is made of it. -/
structure ProxyConf where
  targets : List ProxyTarget
  strategy : ProxyStrategy

/-- What `to_socket_addrs` of the system comes to for an address: the socket addresses, or the message
of an error. -/
abbrev ToSocketAddrs := Text → Except Text (List Text)

variable {ObfsKey : Type} (fromBytes : KeyBytes → ObfsKey) (toSocketAddrs : ToSocketAddrs)

/-! ## The source functions -/

def badAddress (address err : Text) : Error :=
  .config ("bad target address ".toList ++ address ++ ": ".toList ++ err)

def notResolved (address : Text) : Error :=
  .config ("could not resolve ".toList ++ address)

def needsSharedKey (name : Text) : Error :=
  .config ("target ".toList ++ name ++ " needs shared_key for udp_obfs".toList)

def invalidSharedKey (name : Text) : Error :=
  .config ("invalid shared_key for target ".toList ++ name)

def noTargets : Error :=
  .config "no proxy targets configured".toList

/-- The closure of `resolve_targets`. -/
def resolveTarget (target : ProxyTarget) : Except Error (ResolvedTarget ObfsKey) :=
  match toSocketAddrs target.address with
  | .error err => .error (badAddress target.address err)
  | .ok [] => .error (notResolved target.address)
  | .ok (addr :: _) =>
      match target.mode with
      | .plain => .ok { name := target.name, mode := .plain, addr, key := none, validated := nofun }
      | .udpObfs =>
          match target.sharedKey with
          | none => .error (needsSharedKey target.name)
          | some text =>
              match fromBase64 fromBytes text with
              | none => .error (invalidSharedKey target.name)
              | some key =>
                  .ok { name := target.name, mode := .udpObfs, addr, key := some key
                        validated := fun _ => rfl }

/-- `resolve_targets` -/
def resolveTargets (conf : ProxyConf) : Except Error (List (ResolvedTarget ObfsKey)) :=
  conf.targets.mapM (resolveTarget fromBytes toSocketAddrs)

/-- `TargetPicker::new` -/
def TargetPicker.new (targets : List (ResolvedTarget ObfsKey)) (strategy : ProxyStrategy) :
    Except Error (TargetPicker ObfsKey) :=
  if empty : targets = [] then .error noTargets
  else .ok { targets, strategy, cursor := 0, nonempty := empty }

/-- How `run_server` makes the picker. -/
def startPicker (conf : ProxyConf) : Except Error (TargetPicker ObfsKey) := do
  TargetPicker.new (← resolveTargets fromBytes toSocketAddrs conf) conf.strategy

/-! ## Usable targets -/

/-- The target resolves, and if it is one for `udp_obfs`, its key is one that could have been
generated. -/
structure Usable (target : ProxyTarget) : Prop where
  resolves : ∃ addr others, toSocketAddrs target.address = .ok (addr :: others)
  keyed : target.mode = .udpObfs → ∃ key, target.sharedKey = some (generateBase64 key)

/-- How a target of the picker comes from a configured one. -/
structure Configured (target : ProxyTarget) (resolved : ResolvedTarget ObfsKey) : Prop where
  name : resolved.name = target.name
  mode : resolved.mode = target.mode
  addr : ∃ others, toSocketAddrs target.address = .ok (resolved.addr :: others)
  plain : target.mode = .plain → resolved.key = none
  keyed : target.mode = .udpObfs → ∃ key, target.sharedKey = some (generateBase64 key) ∧
    resolved.key = some (fromBytes key)

variable {fromBytes toSocketAddrs}

theorem Configured.usable {target : ProxyTarget} {resolved : ResolvedTarget ObfsKey}
    (configured : Configured fromBytes toSocketAddrs target resolved) :
    Usable toSocketAddrs target where
  resolves := ⟨resolved.addr, configured.addr⟩
  keyed mode := by
    obtain ⟨key, text, _⟩ := configured.keyed mode
    exact ⟨key, text⟩

theorem configured_of_resolveTarget {target : ProxyTarget} {resolved : ResolvedTarget ObfsKey}
    (returned : resolveTarget fromBytes toSocketAddrs target = .ok resolved) :
    Configured fromBytes toSocketAddrs target resolved := by
  rw [resolveTarget] at returned
  split at returned
  · contradiction
  · contradiction
  · rename_i addr others found
    split at returned
    · rename_i plain
      cases returned
      exact ⟨rfl, plain.symm, ⟨others, found⟩, fun _ => rfl, fun obfs => by
        rw [plain] at obfs
        contradiction⟩
    · rename_i obfs
      split at returned
      · contradiction
      · rename_i text shared
        split at returned
        · contradiction
        · rename_i key read
          cases returned
          obtain ⟨bytes, rfl, rfl⟩ := fromBase64_eq_some_iff.mp read
          exact ⟨rfl, obfs.symm, ⟨others, found⟩, fun plain => (by
            rw [obfs] at plain
            contradiction), fun _ => ⟨bytes, shared, rfl⟩⟩

theorem resolveTarget_of_usable {target : ProxyTarget} (usable : Usable toSocketAddrs target) :
    ∃ resolved, resolveTarget fromBytes toSocketAddrs target = .ok resolved := by
  obtain ⟨addr, others, found⟩ := usable.resolves
  simp only [resolveTarget, found]
  cases mode : target.mode with
  | plain => exact ⟨_, rfl⟩
  | udpObfs =>
      obtain ⟨key, text⟩ := usable.keyed mode
      simp only [text, fromBase64_generateBase64]
      exact ⟨_, rfl⟩

/-- A target is accepted exactly if it is usable. -/
theorem resolveTarget_isOk_iff {target : ProxyTarget} :
    (∃ resolved, resolveTarget fromBytes toSocketAddrs target = .ok resolved) ↔
      Usable toSocketAddrs target :=
  ⟨fun ⟨_, returned⟩ => (configured_of_resolveTarget returned).usable, resolveTarget_of_usable⟩

/-- What is wrong with a target that is not usable; its address is looked at first. -/
inductive Defect (toSocketAddrs : ToSocketAddrs) (target : ProxyTarget) : Error → Prop where
  | badAddress {err : Text} (failed : toSocketAddrs target.address = .error err) :
      Defect toSocketAddrs target (badAddress target.address err)
  | notResolved (none : toSocketAddrs target.address = .ok []) :
      Defect toSocketAddrs target (notResolved target.address)
  | needsSharedKey {addr : Text} {others : List Text}
      (found : toSocketAddrs target.address = .ok (addr :: others)) (mode : target.mode = .udpObfs)
      (missing : target.sharedKey = none) :
      Defect toSocketAddrs target (needsSharedKey target.name)
  | invalidSharedKey {addr text : Text} {others : List Text}
      (found : toSocketAddrs target.address = .ok (addr :: others)) (mode : target.mode = .udpObfs)
      (shared : target.sharedKey = some text) (invalid : ∀ key, text ≠ generateBase64 key) :
      Defect toSocketAddrs target (invalidSharedKey target.name)

theorem defect_of_resolveTarget {target : ProxyTarget} {err : Error}
    (failed : resolveTarget fromBytes toSocketAddrs target = .error err) :
    Defect toSocketAddrs target err := by
  rw [resolveTarget] at failed
  split at failed
  · rename_i err found
    cases failed
    exact .badAddress found
  · rename_i found
    cases failed
    exact .notResolved found
  · rename_i addr others found
    split at failed
    · contradiction
    · rename_i mode
      split at failed
      · rename_i missing
        cases failed
        exact .needsSharedKey found mode missing
      · rename_i text shared
        split at failed
        · rename_i unread
          cases failed
          refine .invalidSharedKey found mode shared fun key same => ?_
          rw [same, fromBase64_generateBase64] at unread
          contradiction
        · contradiction

/-- A usable target has no defect. -/
theorem Defect.not_usable {target : ProxyTarget} {err : Error}
    (defect : Defect toSocketAddrs target err) : ¬ Usable toSocketAddrs target := by
  intro usable
  obtain ⟨addr, others, found⟩ := usable.resolves
  cases defect with
  | badAddress failed => cases found.symm.trans failed
  | notResolved none => cases found.symm.trans none
  | needsSharedKey _ mode missing =>
      obtain ⟨key, text⟩ := usable.keyed mode
      cases missing.symm.trans text
  | invalidSharedKey _ mode shared invalid =>
      obtain ⟨key, text⟩ := usable.keyed mode
      cases shared.symm.trans text
      exact invalid key rfl

/-! ## Whole configurations -/

theorem startPicker_eq_ok_iff {conf : ProxyConf} {picker : TargetPicker ObfsKey} :
    startPicker fromBytes toSocketAddrs conf = .ok picker ↔
      resolveTargets fromBytes toSocketAddrs conf = .ok picker.targets ∧
        picker.strategy = conf.strategy ∧ picker.cursor = 0 := by
  rw [startPicker]
  cases resolveTargets fromBytes toSocketAddrs conf with
  | error err => simp [bind, Except.bind]
  | ok targets =>
      simp only [bind, Except.bind, TargetPicker.new, Except.ok.injEq]
      constructor
      · intro returned
        split at returned
        · contradiction
        · cases returned
          exact ⟨rfl, rfl, rfl⟩
      · rcases picker with ⟨listed, strategy, cursor, nonempty⟩
        rintro ⟨rfl, rfl, rfl⟩
        exact dif_neg nonempty

theorem startPicker_eq_error {conf : ProxyConf} {err : Error}
    (failed : startPicker fromBytes toSocketAddrs conf = .error err) :
    resolveTargets fromBytes toSocketAddrs conf = .error err ∨
      resolveTargets fromBytes toSocketAddrs conf = .ok [] ∧ err = noTargets := by
  rw [startPicker] at failed
  cases resolved : resolveTargets fromBytes toSocketAddrs conf with
  | error other =>
      rw [resolved] at failed
      cases failed
      exact .inl rfl
  | ok targets =>
      rw [resolved] at failed
      simp only [bind, Except.bind, TargetPicker.new] at failed
      split at failed
      · rename_i empty
        cases failed
        exact .inr ⟨by rw [empty], rfl⟩
      · contradiction

/-- The picker has the configured targets, in their order. -/
theorem configured_of_startPicker {conf : ProxyConf} {picker : TargetPicker ObfsKey}
    (started : startPicker fromBytes toSocketAddrs conf = .ok picker) :
    List.Forall₂ (Configured fromBytes toSocketAddrs) conf.targets picker.targets :=
  (mapM_eq_ok_iff.mp (startPicker_eq_ok_iff.mp started).1).imp fun _ _ returned =>
    configured_of_resolveTarget returned

theorem resolveTargets_of_usable (fromBytes : KeyBytes → ObfsKey) {conf : ProxyConf}
    (usable : ∀ target ∈ conf.targets, Usable toSocketAddrs target) :
    ∃ targets, resolveTargets fromBytes toSocketAddrs conf = .ok targets := by
  cases resolved : resolveTargets fromBytes toSocketAddrs conf with
  | ok targets => exact ⟨targets, rfl⟩
  | error err =>
      obtain ⟨before, target, after, split, _, failed⟩ := mapM_eq_error_iff.mp resolved
      have mem : target ∈ conf.targets := split ▸ List.mem_append_right before List.mem_cons_self
      exact absurd (usable target mem) (defect_of_resolveTarget failed).not_usable

/-- The proxy starts exactly if there are targets and all of them are usable.  The picker then has
them in their configured order, each under the first address it resolved to and with the key of its
text, and begins with the first.  Otherwise the error is that there are none, or the defect of the
first target that is not usable. -/
theorem startup (fromBytes : KeyBytes → ObfsKey) (toSocketAddrs : ToSocketAddrs) (conf : ProxyConf) :
    ((∃ picker, startPicker fromBytes toSocketAddrs conf = .ok picker) ↔
      conf.targets ≠ [] ∧ ∀ target ∈ conf.targets, Usable toSocketAddrs target) ∧
    (∀ picker, startPicker fromBytes toSocketAddrs conf = .ok picker →
      List.Forall₂ (Configured fromBytes toSocketAddrs) conf.targets picker.targets ∧
        picker.strategy = conf.strategy ∧ picker.cursor = 0) ∧
    ∀ err, startPicker fromBytes toSocketAddrs conf = .error err →
      (conf.targets = [] ∧ err = noTargets) ∨
        ∃ before target after, conf.targets = before ++ target :: after ∧
          (∀ other ∈ before, Usable toSocketAddrs other) ∧ Defect toSocketAddrs target err := by
  refine ⟨⟨?_, ?_⟩, fun picker started => ?_, fun err failed => ?_⟩
  · rintro ⟨picker, started⟩
    have configured := configured_of_startPicker started
    constructor
    · intro none
      rw [none, List.forall₂_nil_left_iff] at configured
      exact picker.nonempty configured
    · intro target mem
      obtain ⟨resolved, _, same⟩ := exists_of_mem_items configured mem
      exact same.usable
  · rintro ⟨some, usable⟩
    obtain ⟨targets, resolved⟩ := resolveTargets_of_usable fromBytes usable
    have nonempty : targets ≠ [] := by
      rintro rfl
      exact some (List.forall₂_nil_right_iff.mp (mapM_eq_ok_iff.mp resolved))
    exact ⟨⟨targets, conf.strategy, 0, nonempty⟩,
      startPicker_eq_ok_iff.mpr ⟨resolved, rfl, rfl⟩⟩
  · obtain ⟨_, strategy, cursor⟩ := startPicker_eq_ok_iff.mp started
    exact ⟨configured_of_startPicker started, strategy, cursor⟩
  · rcases startPicker_eq_error failed with unresolved | ⟨none, rfl⟩
    · obtain ⟨before, target, after, split, accepted, failed⟩ := mapM_eq_error_iff.mp unresolved
      exact .inr ⟨before, target, after, split,
        fun other mem => resolveTarget_isOk_iff.mp (accepted other mem),
        defect_of_resolveTarget failed⟩
    · exact .inl ⟨List.forall₂_nil_right_iff.mp (mapM_eq_ok_iff.mp none), rfl⟩

end DnsHijacker.ResolverProxy
