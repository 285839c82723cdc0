import DnsHijacker.ResolverProxy.Forward

/-!
# Failover

The loop of `forward_query` with the targets it contacts.  Targets are known by their numbers, as
two of them may be configured alike.
-/

namespace DnsHijacker.ResolverProxy

open DnsHijacker.Rust
open DnsHijacker.Shared
open DnsHijacker.Shared.Obfs

variable {ObfsKey : Type}

/-! ## The order -/

/-- The numbers of the targets in the order of `try_order`. -/
def TargetPicker.order (picker : TargetPicker ObfsKey) : List (Fin picker.targets.length) :=
  let numbers := List.finRange picker.targets.length
  match picker.strategy with
  | .ordered => numbers
  | .roundRobin =>
      let start := picker.cursor.toNat % picker.targets.length
      numbers.drop start ++ numbers.take start

theorem TargetPicker.tryOrder_eq (picker : TargetPicker ObfsKey) :
    picker.tryOrder.1 = picker.order.map picker.targets.get := by
  rw [TargetPicker.tryOrder, TargetPicker.order]
  cases picker.strategy with
  | ordered => exact (List.map_get_finRange picker.targets).symm
  | roundRobin =>
      simp only [List.map_append, List.map_drop, List.map_take, List.map_get_finRange]

/-- Every target is listed, and none twice. -/
theorem TargetPicker.order_perm (picker : TargetPicker ObfsKey) :
    picker.order.Perm (List.finRange picker.targets.length) := by
  rw [TargetPicker.order]
  cases picker.strategy with
  | ordered => exact .refl _
  | roundRobin =>
      dsimp only
      exact List.perm_append_comm.trans (by rw [List.take_append_drop])

theorem TargetPicker.order_nodup (picker : TargetPicker ObfsKey) : picker.order.Nodup :=
  picker.order_perm.nodup_iff.mpr (List.nodup_finRange _)

theorem TargetPicker.mem_order (picker : TargetPicker ObfsKey)
    (target : Fin picker.targets.length) : target ∈ picker.order :=
  picker.order_perm.mem_iff.mpr (List.mem_finRange target)

/-! ## The loop -/

section

variable {Target : Type} (outcome : Target → Except Error Bytes)

/-- The loop of `forward_query` over the outcomes of the targets: its result, and the targets it
contacts. -/
def forwardLoop (lastErr : Error) : List Target → Except Error Bytes × List Target
  | [] => (.error lastErr, [])
  | target :: rest =>
      match outcome target with
      | .ok reply => (.ok reply, [target])
      | .error err =>
          let later := forwardLoop err rest
          (later.1, target :: later.2)

variable {outcome}

theorem forwardLoop_contacts_isPrefix (lastErr : Error) (order : List Target) :
    (forwardLoop outcome lastErr order).2 <+: order := by
  induction order generalizing lastErr with
  | nil => exact List.nil_prefix
  | cons target rest ih =>
      rw [forwardLoop]
      cases outcome target with
      | ok reply => exact ⟨rest, rfl⟩
      | error err => exact (List.prefix_cons_inj target).mpr (ih err)

/-- Behind targets that fail, the loop goes on with the rest. -/
theorem forwardLoop_append {before : List Target}
    (failed : ∀ target ∈ before, ∃ err, outcome target = .error err) (lastErr : Error) :
    ∃ err, ∀ rest, forwardLoop outcome lastErr (before ++ rest) =
      ((forwardLoop outcome err rest).1, before ++ (forwardLoop outcome err rest).2) := by
  induction before generalizing lastErr with
  | nil => exact ⟨lastErr, fun rest => rfl⟩
  | cons target before ih =>
      rw [List.forall_mem_cons] at failed
      obtain ⟨err, here⟩ := failed.1
      obtain ⟨last, later⟩ := ih failed.2 err
      refine ⟨last, fun rest => ?_⟩
      rw [List.cons_append, forwardLoop, here]
      dsimp only
      rw [later]
      rfl

/-- Either some target is the first to succeed, or all fail. -/
theorem firstSuccess_or_failed (order : List Target) :
    (∃ before target after reply, order = before ++ target :: after ∧
      (∀ other ∈ before, ∃ err, outcome other = .error err) ∧ outcome target = .ok reply) ∨
    ∀ target ∈ order, ∃ err, outcome target = .error err := by
  induction order with
  | nil => exact .inr fun target mem => absurd mem List.not_mem_nil
  | cons target rest ih =>
      cases here : outcome target with
      | ok reply =>
          exact .inl ⟨[], target, rest, reply, rfl,
            fun other mem => absurd mem List.not_mem_nil, here⟩
      | error err =>
          rcases ih with ⟨before, first, after, reply, split, failed, success⟩ | failed
          · refine .inl ⟨target :: before, first, after, reply, by rw [split]; rfl, ?_, success⟩
            exact List.forall_mem_cons.mpr ⟨⟨err, here⟩, failed⟩
          · exact .inr (List.forall_mem_cons.mpr ⟨⟨err, here⟩, failed⟩)

/-- The reply of the first target that succeeds is returned, and no later one is contacted. -/
theorem forwardLoop_of_firstSuccess {before after : List Target} {target : Target} {reply : Bytes}
    (failed : ∀ other ∈ before, ∃ err, outcome other = .error err)
    (success : outcome target = .ok reply) (lastErr : Error) :
    forwardLoop outcome lastErr (before ++ target :: after) = (.ok reply, before ++ [target]) := by
  obtain ⟨err, split⟩ := forwardLoop_append failed lastErr
  rw [split, forwardLoop, success]

/-- If all fail, all are contacted. -/
theorem forwardLoop_of_failed {order : List Target}
    (failed : ∀ target ∈ order, ∃ err, outcome target = .error err) (lastErr : Error) :
    ∃ err, forwardLoop outcome lastErr order = (.error err, order) := by
  obtain ⟨err, split⟩ := forwardLoop_append failed lastErr
  refine ⟨err, ?_⟩
  have whole := split []
  rw [List.append_nil] at whole
  rw [whole, forwardLoop, List.append_nil]

end

/-! ## The loop over sockets -/

/-- `forward_query` is the loop over the outcomes of its tries. -/
theorem forwardFrom_eq (cipher : Cipher ObfsKey) (lastErr : Error) (tries : List (Try ObfsKey)) :
    forwardLoop (sendTo cipher) lastErr tries =
      (forwardFrom cipher lastErr tries, tried cipher tries) := by
  induction tries generalizing lastErr with
  | nil => rfl
  | cons attempted rest ih =>
      rw [forwardLoop, forwardFrom, tried]
      cases sendTo cipher attempted with
      | ok reply => rfl
      | error err =>
          dsimp only
          rw [ih]

theorem forwardLoop_map {Target Other : Type} {outcome : Other → Except Error Bytes}
    (f : Target → Other) (lastErr : Error) (order : List Target) :
    forwardLoop outcome lastErr (order.map f) =
      ((forwardLoop (outcome ∘ f) lastErr order).1,
        (forwardLoop (outcome ∘ f) lastErr order).2.map f) := by
  induction order generalizing lastErr with
  | nil => rfl
  | cons target rest ih =>
      rw [List.map_cons, forwardLoop, forwardLoop, Function.comp_apply]
      cases outcome (f target) with
      | ok reply => rfl
      | error err =>
          dsimp only
          rw [ih]
          rfl

/-- What happens at the target with this number. -/
def TargetPicker.attempt (picker : TargetPicker ObfsKey)
    (attempts : Fin picker.targets.length → Attempt) (target : Fin picker.targets.length) :
    Try ObfsKey :=
  (picker.targets.get target, attempts target)

/-- The same by the place of the target in the order. -/
def TargetPicker.byPosition (picker : TargetPicker ObfsKey)
    (attempts : Fin picker.targets.length → Attempt) (position : Nat) : Attempt :=
  match picker.order[position]? with
  | some target => attempts target
  | none => .arrivals []

theorem TargetPicker.tries_byPosition (picker : TargetPicker ObfsKey)
    (attempts : Fin picker.targets.length → Attempt) :
    picker.tries (picker.byPosition attempts) = picker.order.map (picker.attempt attempts) := by
  rw [TargetPicker.tries, picker.tryOrder_eq]
  apply List.ext_getElem?
  intro position
  simp only [List.getElem?_map, List.getElem?_zipIdx]
  cases here : picker.order[position]? with
  | none => rfl
  | some target => simp [TargetPicker.attempt, TargetPicker.byPosition, here]

/-- A query goes to the targets in their order, each at most once, until one succeeds: its reply is
the result, and the result is an error exactly if every target failed. -/
theorem forwardQuery_failover (picker : TargetPicker ObfsKey)
    (outcome : Fin picker.targets.length → Except Error Bytes) :
    let order := picker.order
    let looped := forwardLoop outcome .noHealthyResolvers order
    picker.tryOrder.1 = order.map picker.targets.get ∧
      order.Perm (List.finRange picker.targets.length) ∧
      looped.2 <+: order ∧ looped.2.Nodup ∧
      (∀ before target after reply, order = before ++ target :: after →
        (∀ other ∈ before, ∃ err, outcome other = .error err) → outcome target = .ok reply →
          looped = (.ok reply, before ++ [target])) ∧
      ((∃ err, looped.1 = .error err) ↔ ∀ target, ∃ err, outcome target = .error err) ∧
      ((∃ err, looped.1 = .error err) → looped.2 = order) ∧
      ∀ (cipher : Cipher ObfsKey) attempts,
        (∀ target, outcome target = sendTo cipher (picker.attempt attempts target)) →
          forwardQuery cipher picker (picker.byPosition attempts) = looped.1 ∧
            tried cipher (picker.tries (picker.byPosition attempts)) =
              looped.2.map (picker.attempt attempts) := by
  dsimp only
  have contacted : (forwardLoop outcome .noHealthyResolvers picker.order).2 <+: picker.order :=
    forwardLoop_contacts_isPrefix .noHealthyResolvers picker.order
  have failed_of_error : (∃ err, (forwardLoop outcome .noHealthyResolvers picker.order).1 =
      .error err) → ∀ target ∈ picker.order, ∃ err, outcome target = .error err := by
    rintro ⟨err, result⟩
    rcases firstSuccess_or_failed picker.order with
      ⟨before, first, after, reply, split, failed, success⟩ | failed
    · rw [split, forwardLoop_of_firstSuccess failed success] at result
      cases result
    · exact failed
  refine ⟨picker.tryOrder_eq, picker.order_perm, contacted,
    contacted.sublist.nodup picker.order_nodup, ?_, ⟨?_, ?_⟩, ?_, ?_⟩
  · intro before target after reply split failed success
    rw [split, forwardLoop_of_firstSuccess failed success]
  · intro result target
    exact failed_of_error result target (picker.mem_order target)
  · intro failed
    have all : ∀ target ∈ picker.order, ∃ err, outcome target = .error err :=
      fun target _ => failed target
    obtain ⟨err, whole⟩ := forwardLoop_of_failed all .noHealthyResolvers
    rw [whole]
    exact ⟨err, rfl⟩
  · intro result
    obtain ⟨err, whole⟩ := forwardLoop_of_failed (failed_of_error result) .noHealthyResolvers
    rw [whole]
  · intro cipher attempts sent
    have looped := forwardFrom_eq cipher .noHealthyResolvers
      (picker.tries (picker.byPosition attempts))
    have outcomes : sendTo cipher ∘ picker.attempt attempts = outcome :=
      funext fun target => (sent target).symm
    rw [picker.tries_byPosition, forwardLoop_map, outcomes] at looped
    rw [forwardQuery, picker.tries_byPosition]
    exact ⟨(congrArg Prod.fst looped).symm, (congrArg Prod.snd looped).symm⟩

end DnsHijacker.ResolverProxy
