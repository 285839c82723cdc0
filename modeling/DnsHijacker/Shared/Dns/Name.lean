import DnsHijacker.Library.Walk
import DnsHijacker.Rust.Unicode

/-!
# Reading domain names

`parseDomain` and `skipName` are the two readers of encoded names.  The first
follows compression pointers by calling itself, and nothing in the program
bounds that recursion, so it is defined with a budget of steps: running out of
budget is `Fault.divergence`.  One step reads one length byte.

`nameToken` says what stands at an offset.  The reader is then described by its
token, and where it goes next is the partial step function `continuesAt`, whose
walks decide termination.
-/

namespace DnsHijacker.Shared.Dns

open DnsHijacker.Rust
open DnsHijacker.Library

variable (ucd : UnicodeData)

/-! ## The source functions -/

/-- The label loop of `parse_domain` at `offset` with the text read so far, in at
most `fuel` steps. -/
def parseDomainFrom (payload : Bytes) : Nat → Nat → Text → Exec (Option (Text × Nat))
  | 0, _, _ => .error .divergence
  | fuel + 1, offset, domain =>
      if offset ≥ payload.length then return none
      else do
        let len := (← index payload offset).toNat
        if len &&& 0xC0 = 0xC0 then
          if offset + 1 ≥ payload.length then return none
          let pointerOffset := ((len &&& 0x3F) <<< 8) ||| (← index payload (offset + 1)).toNat
          -- An unreadable target adds nothing to the domain and is no error.
          match ← parseDomainFrom payload fuel pointerOffset [] with
          | some (subDomain, _) => return some (domain ++ subDomain, offset + 2)
          | none => return some (domain, offset + 2)
        else if len = 0 then return some (domain, offset + 1)
        else if offset + 1 + len > payload.length then return none
        else
          let dotted := if domain.isEmpty then domain else domain ++ ['.']
          match fromUtf8 (← slice payload (offset + 1) (offset + 1 + len)) with
          | none => return none
          | some label =>
              parseDomainFrom payload fuel (offset + 1 + len) (dotted ++ ucd.toLowercase label)

/-- `parse_domain`.  At most `payload.length` offsets hold a length byte, so a
reader that needs more steps than that goes on for ever
(`parseDomain_returns_iff`). -/
def parseDomain (payload : Bytes) (offset : Nat) : Exec (Option (Text × Nat)) :=
  parseDomainFrom ucd payload (payload.length + 1) offset []

/-- `skip_name`: the offset just past a name. -/
def skipName (buf : Bytes) (pos : Nat) : Option Nat :=
  if inside : pos ≥ buf.length then none
  else
    let len := buf[pos].toNat
    if len = 0 then some (pos + 1)
    else if len &&& 0xC0 = 0xC0 then some (pos + 2)
    else skipName buf (pos + (1 + len))
termination_by buf.length - pos

/-! ## Tokens -/

/-- What a length byte introduces. -/
inductive NameToken where
  /-- The buffer ends too early, or a label is not UTF-8. -/
  | malformed
  | root
  | pointer (target : Nat)
  | label (text : Text) (next : Nat)
  deriving DecidableEq, Repr

/-- The token at an offset. -/
def nameToken (payload : Bytes) (offset : Nat) : NameToken :=
  match payload[offset]? with
  | none => .malformed
  | some byte =>
      if byte.toNat &&& 0xC0 = 0xC0 then
        match payload[offset + 1]? with
        | none => .malformed
        | some low => .pointer (((byte.toNat &&& 0x3F) <<< 8) ||| low.toNat)
      else if byte.toNat = 0 then .root
      else if offset + 1 + byte.toNat > payload.length then .malformed
      else
        match fromUtf8 ((payload.take (offset + 1 + byte.toNat)).drop (offset + 1)) with
        | none => .malformed
        | some text => .label text (offset + 1 + byte.toNat)

/-- The text with one more label: a dot stands before every label but the
first. -/
def joinLabel (domain label : Text) : Text :=
  (if domain.isEmpty then domain else domain ++ ['.']) ++ ucd.toLowercase label

/-- The result of a pointer: the text behind it, if there is one, and the
offset after the pointer itself. -/
def joinTarget (domain : Text) (offset : Nat) (target : Option (Text × Nat)) : Text × Nat :=
  match target with
  | some (subDomain, _) => (domain ++ subDomain, offset + 2)
  | none => (domain, offset + 2)

variable {ucd}

/-- One step of the reader, by the token it stands at. -/
theorem parseDomainFrom_succ (payload : Bytes) (fuel offset : Nat) (domain : Text) :
    parseDomainFrom ucd payload (fuel + 1) offset domain =
      match nameToken payload offset with
      | .malformed => .ok none
      | .root => .ok (some (domain, offset + 1))
      | .pointer target =>
          (parseDomainFrom ucd payload fuel target []).map (some <| joinTarget domain offset ·)
      | .label text next => parseDomainFrom ucd payload fuel next (joinLabel ucd domain text) := by
  rw [parseDomainFrom, nameToken]
  by_cases outside : offset ≥ payload.length
  · rw [if_pos outside, List.getElem?_eq_none outside]
    rfl
  have found : payload[offset]? = some payload[offset] :=
    List.getElem?_eq_getElem (Nat.lt_of_not_le outside)
  rw [if_neg outside, index_eq_ok found, found]
  simp only [bind, Except.bind, pure, Except.pure]
  by_cases isPointer : payload[offset].toNat &&& 0xC0 = 0xC0
  · rw [if_pos isPointer, if_pos isPointer]
    by_cases cut : offset + 1 ≥ payload.length
    · rw [if_pos cut, List.getElem?_eq_none cut]
    · have low : payload[offset + 1]? = some payload[offset + 1] :=
        List.getElem?_eq_getElem (Nat.lt_of_not_le cut)
      rw [if_neg cut, index_eq_ok low, low]
      dsimp only
      cases parseDomainFrom ucd payload fuel _ [] with
      | error fault => rfl
      | ok target =>
          cases target <;> rfl
  · rw [if_neg isPointer, if_neg isPointer]
    by_cases isRoot : payload[offset].toNat = 0
    · rw [if_pos isRoot, if_pos isRoot]
    · rw [if_neg isRoot, if_neg isRoot]
      by_cases long : offset + 1 + payload[offset].toNat > payload.length
      · rw [if_pos long, if_pos long]
      · rw [if_neg long, if_neg long, slice_eq_ok (Nat.le_add_right _ _) (Nat.le_of_not_lt long)]
        dsimp only
        cases fromUtf8 ((payload.take (offset + 1 + payload[offset].toNat)).drop (offset + 1))
          with
        | none => rfl
        | some text => rfl

/-! ## Termination -/

/-- The offset of the next length byte the reader looks at. -/
def continuesAt (payload : Bytes) (offset : Nat) : Option Nat :=
  match nameToken payload offset with
  | .malformed => none
  | .root => none
  | .pointer target => some target
  | .label _ next => some next

/-- A compression pointer stands at the offset. -/
def IsPointer (payload : Bytes) (offset : Nat) : Prop :=
  ∃ target, nameToken payload offset = .pointer target

/-- The reader started at `offset` comes to a pointer from which it comes back
to that same pointer. -/
def PointerLoop (payload : Bytes) (offset : Nat) : Prop :=
  ∃ pointer, IsPointer payload pointer ∧
    StateTransition.Reaches (continuesAt payload) offset pointer ∧
    StateTransition.Reaches₁ (continuesAt payload) pointer pointer

theorem nameToken_of_outside {payload : Bytes} {offset : Nat} (outside : payload.length ≤ offset) :
    nameToken payload offset = .malformed := by
  rw [nameToken, List.getElem?_eq_none outside]

theorem mem_range_of_continuesAt (payload : Bytes) (offset : Nat)
    (continues : continuesAt payload offset ≠ none) : offset ∈ Finset.range payload.length := by
  by_contra outside
  rw [Finset.mem_range, Nat.not_lt] at outside
  rw [continuesAt, nameToken_of_outside outside] at continues
  contradiction

/-- A label is followed by a later offset. -/
theorem lt_of_nameToken_label {payload : Bytes} {offset : Nat} {text : Text} {next : Nat}
    (token : nameToken payload offset = .label text next) : offset < next := by
  rw [nameToken] at token
  split at token
  · contradiction
  split at token
  · split at token <;> contradiction
  split at token
  · contradiction
  split at token
  · contradiction
  split at token
  · contradiction
  cases token
  omega

/-- The reader comes back only by way of a pointer. -/
theorem pointer_of_reaches₁ {payload : Bytes} {source target : Nat}
    (reaches : StateTransition.Reaches₁ (continuesAt payload) source target) :
    source < target ∨ ∃ pointer, IsPointer payload pointer ∧
      StateTransition.Reaches (continuesAt payload) source pointer ∧
      StateTransition.Reaches₁ (continuesAt payload) pointer target := by
  have step : ∀ {offset next : Nat}, next ∈ continuesAt payload offset →
      offset < next ∨ IsPointer payload offset := by
    intro offset next mem
    cases token : nameToken payload offset with
    | malformed => simp [continuesAt, token] at mem
    | root => simp [continuesAt, token] at mem
    | pointer target => exact .inr ⟨target, token⟩
    | label text after =>
        have here : after = next := by simpa [continuesAt, token] using mem
        exact .inl (here ▸ lt_of_nameToken_label token)
  induction reaches using Relation.TransGen.head_induction_on with
  | single last =>
      rcases step last with later | isPointer
      · exact .inl later
      · exact .inr ⟨_, isPointer, .refl, .single last⟩
  | head first rest ih =>
      rcases step first with later | isPointer
      · rcases ih with rising | ⟨pointer, isPointer, before, after⟩
        · exact .inl (Nat.lt_trans later rising)
        · exact .inr ⟨pointer, isPointer, .head first before, after⟩
      · exact .inr ⟨_, isPointer, .refl, .head first rest⟩

theorem pointerLoop_iff_meetsCycle {payload : Bytes} {offset : Nat} :
    PointerLoop payload offset ↔ Walk.MeetsCycle (continuesAt payload) offset := by
  constructor
  · rintro ⟨pointer, _, reaches, back⟩
    exact ⟨pointer, reaches, back⟩
  · rintro ⟨position, reaches, back⟩
    rcases pointer_of_reaches₁ back with rising | ⟨pointer, isPointer, before, after⟩
    · exact absurd rising (Nat.lt_irrefl position)
    · exact ⟨pointer, isPointer, reaches.trans before, after.trans_left before⟩

/-- Within its budget the reader returns exactly when the walk ends. -/
theorem parseDomainFrom_returns_iff {payload : Bytes} {fuel offset : Nat} {domain : Text} :
    Returns (parseDomainFrom ucd payload fuel offset domain) ↔
      Walk.advance (continuesAt payload) fuel offset = none := by
  induction fuel generalizing offset domain with
  | zero => simp [parseDomainFrom]
  | succ fuel ih =>
      rw [parseDomainFrom_succ, Walk.advance_succ, continuesAt]
      cases nameToken payload offset with
      | malformed => simp
      | root => simp
      | label text next => exact ih
      | pointer target => exact returns_map.trans ih

/-- `parse_domain` returns unless its pointers loop. -/
theorem parseDomain_returns_iff (ucd : UnicodeData) {payload : Bytes} {offset : Nat} :
    Returns (parseDomain ucd payload offset) ↔ ¬ PointerLoop payload offset := by
  have budget := Walk.ends_iff_advance_card (mem_range_of_continuesAt payload) offset
  rw [Finset.card_range] at budget
  rw [parseDomain, parseDomainFrom_returns_iff, ← budget, pointerLoop_iff_meetsCycle]
  exact Walk.ends_iff_not_meetsCycle (mem_range_of_continuesAt payload) offset

/-- A larger budget does not change the result. -/
theorem parseDomainFrom_mono {payload : Bytes} {fuel offset : Nat} {domain : Text}
    {result : Option (Text × Nat)}
    (returned : parseDomainFrom ucd payload fuel offset domain = .ok result) (extra : Nat) :
    parseDomainFrom ucd payload (fuel + extra) offset domain = .ok result := by
  induction fuel generalizing offset domain result with
  | zero => contradiction
  | succ fuel ih =>
      rw [Nat.add_right_comm, parseDomainFrom_succ]
      rw [parseDomainFrom_succ] at returned
      cases token : nameToken payload offset with
      | malformed => simpa [token] using returned
      | root => simpa [token] using returned
      | label text next =>
          simp only [token] at returned ⊢
          exact ih returned
      | pointer target =>
          simp only [token] at returned ⊢
          cases inner : parseDomainFrom ucd payload fuel target [] with
          | error fault => simp [inner, Except.map] at returned
          | ok value => rw [ih inner, ← returned, inner]

/-- Any budget that yields a result yields the result of `parse_domain`. -/
theorem parseDomain_eq_of_fuel {payload : Bytes} {fuel offset : Nat}
    {result : Option (Text × Nat)}
    (returned : parseDomainFrom ucd payload fuel offset [] = .ok result) :
    parseDomain ucd payload offset = .ok result := by
  have ended : Walk.advance (continuesAt payload) fuel offset = none :=
    parseDomainFrom_returns_iff.mp ⟨result, returned⟩
  have acyclic : ¬ PointerLoop payload offset := by
    rw [pointerLoop_iff_meetsCycle]
    exact fun meets => meets.not_ends ⟨fuel, ended⟩
  obtain ⟨value, parsed⟩ := (parseDomain_returns_iff ucd).mpr acyclic
  have larger := parseDomainFrom_mono parsed fuel
  rw [Nat.add_comm, parseDomainFrom_mono returned (payload.length + 1)] at larger
  rw [parsed, ← larger]

end DnsHijacker.Shared.Dns
