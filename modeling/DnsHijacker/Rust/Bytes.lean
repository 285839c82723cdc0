import Mathlib.Data.List.Infix

/-!
# Byte slices and calls that may not return

`Exec` is the result of a call: a value, an unbounded recursion, or a panic of
the indexing and slicing operators.  Byte slices are lists, `usize` offsets are
naturals; every offset the program computes stays within a few hundred bytes of
a slice length, so it never wraps.

`Occurs` says which bytes stand at an offset.  It is the only way the proofs
look into a buffer.
-/

namespace DnsHijacker.Rust

/-- Why a call does not return a value. -/
inductive Fault where
  /-- Recursion without end; the process dies when its stack is full. -/
  | divergence
  /-- An index or a slice range outside the buffer. -/
  | panic
  deriving DecidableEq, Repr

/-- The result of running a function. -/
abbrev Exec := Except Fault

/-- The call comes back with a value. -/
def Returns {α : Type} (result : Exec α) : Prop :=
  ∃ value, result = .ok value

@[simp]
theorem returns_ok {α : Type} (value : α) : Returns (.ok value : Exec α) :=
  ⟨value, rfl⟩

@[simp]
theorem not_returns_error {α : Type} (fault : Fault) : ¬ Returns (.error fault : Exec α) := by
  rintro ⟨value, eq⟩
  contradiction

theorem bind_eq_ok {ε α β : Type} {result : Except ε α} {rest : α → Except ε β} {final : β} :
    (result >>= rest) = .ok final ↔ ∃ value, result = .ok value ∧ rest value = .ok final := by
  cases result with
  | error fault => simp [bind, Except.bind]
  | ok value => simp [bind, Except.bind]

theorem returns_bind {α β : Type} {result : Exec α} {rest : α → Exec β} :
    Returns (result >>= rest) ↔ ∃ value, result = .ok value ∧ Returns (rest value) := by
  cases result with
  | error fault => simp [bind, Except.bind]
  | ok value => simp [bind, Except.bind]

@[simp]
theorem returns_map {α β : Type} {result : Exec α} {f : α → β} :
    Returns (result.map f) ↔ Returns result := by
  cases result with
  | error fault => simp [Except.map]
  | ok value => simp [Except.map]

abbrev Bytes := List UInt8

/-! ## Bytes at an offset -/

/-- The bytes stand in the buffer from an offset on. -/
def Occurs (buf : Bytes) (offset : Nat) (bytes : Bytes) : Prop :=
  bytes <+: buf.drop offset

instance (buf : Bytes) (offset : Nat) (bytes : Bytes) : Decidable (Occurs buf offset bytes) :=
  inferInstanceAs (Decidable (bytes <+: buf.drop offset))

@[simp]
theorem occurs_nil (buf : Bytes) (offset : Nat) : Occurs buf offset [] :=
  List.nil_prefix

theorem occurs_cons {buf : Bytes} {offset : Nat} {byte : UInt8} {bytes : Bytes} :
    Occurs buf offset (byte :: bytes) ↔
      buf[offset]? = some byte ∧ Occurs buf (offset + 1) bytes := by
  simp only [Occurs]
  rcases Nat.lt_or_ge offset buf.length with inside | outside
  · rw [List.drop_eq_getElem_cons inside, List.cons_prefix_cons,
      List.getElem?_eq_getElem inside, Option.some.injEq, eq_comm]
  · rw [List.drop_eq_nil_of_le outside, List.getElem?_eq_none outside]
    simp

theorem occurs_append {buf : Bytes} {offset : Nat} {first second : Bytes} :
    Occurs buf offset (first ++ second) ↔
      Occurs buf offset first ∧ Occurs buf (offset + first.length) second := by
  induction first generalizing offset with
  | nil => simp
  | cons byte first ih =>
      rw [List.cons_append, occurs_cons, occurs_cons, ih, and_assoc, List.length_cons,
        Nat.add_assoc, Nat.add_comm 1]

theorem occurs_self (buf : Bytes) : Occurs buf 0 buf :=
  List.prefix_rfl

theorem Occurs.add_length_le {buf : Bytes} {offset : Nat} {bytes : Bytes}
    (occurs : Occurs buf offset bytes) (nonempty : bytes ≠ []) :
    offset + bytes.length ≤ buf.length := by
  have fits := List.IsPrefix.length_le occurs
  have positive := List.length_pos_of_ne_nil nonempty
  rw [List.length_drop] at fits
  omega

/-! ## Indexing and slicing -/

/-- `buf[offset]` -/
def index (buf : Bytes) (offset : Nat) : Exec UInt8 :=
  match buf[offset]? with
  | some byte => .ok byte
  | none => .error .panic

/-- `buf[start..stop]` -/
def slice (buf : Bytes) (start stop : Nat) : Exec Bytes :=
  if start ≤ stop ∧ stop ≤ buf.length then .ok ((buf.take stop).drop start)
  else .error .panic

theorem index_eq_ok_iff {buf : Bytes} {offset : Nat} {byte : UInt8} :
    index buf offset = .ok byte ↔ buf[offset]? = some byte := by
  rw [index]
  cases buf[offset]? <;> simp

theorem index_eq_ok {buf : Bytes} {offset : Nat} {byte : UInt8}
    (found : buf[offset]? = some byte) : index buf offset = .ok byte :=
  index_eq_ok_iff.mpr found

theorem index_of_lt {buf : Bytes} {offset : Nat} (inside : offset < buf.length) :
    index buf offset = .ok buf[offset] :=
  index_eq_ok (List.getElem?_eq_getElem inside)

theorem slice_eq_ok {buf : Bytes} {start stop : Nat} (ordered : start ≤ stop)
    (inside : stop ≤ buf.length) : slice buf start stop = .ok ((buf.take stop).drop start) := by
  simp [slice, ordered, inside]

/-- The bytes standing at an offset are what the slice over them yields. -/
theorem Occurs.take_drop {buf : Bytes} {offset : Nat} {bytes : Bytes}
    (occurs : Occurs buf offset bytes) :
    (buf.take (offset + bytes.length)).drop offset = bytes := by
  rw [List.drop_take, Nat.add_sub_cancel_left]
  exact (List.prefix_iff_eq_take.mp occurs).symm

theorem Occurs.slice_eq {buf : Bytes} {offset : Nat} {bytes : Bytes}
    (occurs : Occurs buf offset bytes) (inside : offset + bytes.length ≤ buf.length) :
    slice buf offset (offset + bytes.length) = .ok bytes := by
  rw [slice_eq_ok (Nat.le_add_right _ _) inside, occurs.take_drop]

/-! ## Big-endian integers -/

/-- `u16::from_be_bytes` -/
def u16FromBeBytes (high low : UInt8) : UInt16 :=
  UInt16.ofNat (high.toNat * 256 + low.toNat)

/-- `u16::to_be_bytes` -/
def u16ToBeBytes (value : UInt16) : Bytes :=
  [UInt8.ofNat (value.toNat / 256), UInt8.ofNat (value.toNat % 256)]

/-- `u32::from_be_bytes` -/
def u32FromBeBytes (b0 b1 b2 b3 : UInt8) : UInt32 :=
  UInt32.ofNat (((b0.toNat * 256 + b1.toNat) * 256 + b2.toNat) * 256 + b3.toNat)

/-- `u32::to_be_bytes` -/
def u32ToBeBytes (value : UInt32) : Bytes :=
  [UInt8.ofNat (value.toNat / 16777216), UInt8.ofNat (value.toNat / 65536 % 256),
    UInt8.ofNat (value.toNat / 256 % 256), UInt8.ofNat (value.toNat % 256)]

@[simp]
theorem u16FromBeBytes_toNat (high low : UInt8) :
    (u16FromBeBytes high low).toNat = high.toNat * 256 + low.toNat := by
  have highBound := high.toNat_lt
  have lowBound := low.toNat_lt
  rw [u16FromBeBytes, UInt16.toNat_ofNat']
  omega

@[simp]
theorem length_u16ToBeBytes (value : UInt16) : (u16ToBeBytes value).length = 2 :=
  rfl

@[simp]
theorem length_u32ToBeBytes (value : UInt32) : (u32ToBeBytes value).length = 4 :=
  rfl

@[simp]
theorem u16FromBeBytes_toBeBytes (value : UInt16) :
    u16FromBeBytes (UInt8.ofNat (value.toNat / 256)) (UInt8.ofNat (value.toNat % 256)) =
      value := by
  have bound := value.toNat_lt
  apply UInt16.toNat_inj.mp
  rw [u16FromBeBytes_toNat, UInt8.toNat_ofNat', UInt8.toNat_ofNat']
  omega

theorem u16ToBeBytes_fromBeBytes (high low : UInt8) :
    u16ToBeBytes (u16FromBeBytes high low) = [high, low] := by
  have highBound := high.toNat_lt
  have lowBound := low.toNat_lt
  rw [u16ToBeBytes, u16FromBeBytes_toNat]
  have quotient : (high.toNat * 256 + low.toNat) / 256 = high.toNat := by omega
  have remainder : (high.toNat * 256 + low.toNat) % 256 = low.toNat := by omega
  rw [quotient, remainder, UInt8.ofNat_toNat, UInt8.ofNat_toNat]

theorem u16ToBeBytes_injective : Function.Injective u16ToBeBytes := by
  intro first second eq
  rcases List.cons.inj eq with ⟨high, tail⟩
  rcases List.cons.inj tail with ⟨low, _⟩
  rw [← u16FromBeBytes_toBeBytes first, high, low, u16FromBeBytes_toBeBytes]

theorem u32ToBeBytes_injective : Function.Injective u32ToBeBytes := by
  intro first second eq
  simp only [u32ToBeBytes, List.cons.injEq, and_true] at eq
  rcases eq with ⟨b0, b1, b2, b3⟩
  have firstBound := first.toNat_lt
  have secondBound := second.toNat_lt
  have e0 := congrArg UInt8.toNat b0
  have e1 := congrArg UInt8.toNat b1
  have e2 := congrArg UInt8.toNat b2
  have e3 := congrArg UInt8.toNat b3
  simp only [UInt8.toNat_ofNat'] at e0 e1 e2 e3
  apply UInt32.toNat_inj.mp
  omega

/-! The two bytes of a word by shift and mask. -/

theorem toUInt8_shiftRight (value : UInt16) :
    (value >>> 8).toUInt8 = UInt8.ofNat (value.toNat / 256) := by
  have bound := value.toNat_lt
  apply UInt8.toNat_inj.mp
  simp [Nat.shiftRight_eq_div_pow]

theorem toUInt8_and (value : UInt16) :
    (value &&& 0xFF).toUInt8 = UInt8.ofNat (value.toNat % 256) := by
  have mask : value.toNat &&& 255 = value.toNat % 256 := Nat.and_two_pow_sub_one_eq_mod _ 8
  apply UInt8.toNat_inj.mp
  rw [UInt16.toNat_toUInt8, UInt16.toNat_and, UInt8.toNat_ofNat']
  exact congrArg (· % 256) mask

/-- `u16::from_be_bytes([buf[offset], buf[offset + 1]])` -/
def readU16 (buf : Bytes) (offset : Nat) : Exec UInt16 := do
  let high ← index buf offset
  let low ← index buf (offset + 1)
  return u16FromBeBytes high low

/-- `u32::from_be_bytes` of the four bytes at an offset. -/
def readU32 (buf : Bytes) (offset : Nat) : Exec UInt32 := do
  let b0 ← index buf offset
  let b1 ← index buf (offset + 1)
  let b2 ← index buf (offset + 2)
  let b3 ← index buf (offset + 3)
  return u32FromBeBytes b0 b1 b2 b3

theorem Occurs.readU16_eq {buf : Bytes} {offset : Nat} {value : UInt16}
    (occurs : Occurs buf offset (u16ToBeBytes value)) : readU16 buf offset = .ok value := by
  simp only [u16ToBeBytes, occurs_cons] at occurs
  obtain ⟨high, low, _⟩ := occurs
  simp only [readU16, index_eq_ok high, index_eq_ok low, bind, Except.bind, pure, Except.pure,
    u16FromBeBytes_toBeBytes]

theorem Occurs.readU32_eq {buf : Bytes} {offset : Nat} {value : UInt32}
    (occurs : Occurs buf offset (u32ToBeBytes value)) : readU32 buf offset = .ok value := by
  have bound := value.toNat_lt
  simp only [u32ToBeBytes, occurs_cons] at occurs
  obtain ⟨b0, b1, b2, b3, _⟩ := occurs
  simp only [readU32, index_eq_ok b0, index_eq_ok b1, index_eq_ok b2, index_eq_ok b3, bind,
    Except.bind, pure, Except.pure]
  congr 1
  apply UInt32.toNat_inj.mp
  rw [u32FromBeBytes, UInt32.toNat_ofNat']
  simp only [UInt8.toNat_ofNat']
  omega

/-- Four bytes inside the buffer can be read. -/
theorem readU32_returns {buf : Bytes} {offset : Nat} (inside : offset + 4 ≤ buf.length) :
    ∃ value, readU32 buf offset = .ok value := by
  have b0 := index_of_lt (by omega : offset < buf.length)
  have b1 := index_of_lt (by omega : offset + 1 < buf.length)
  have b2 := index_of_lt (by omega : offset + 2 < buf.length)
  have b3 := index_of_lt (by omega : offset + 3 < buf.length)
  rw [readU32, b0, b1, b2, b3]
  exact ⟨_, rfl⟩

/-- Two bytes inside the buffer can be read. -/
theorem readU16_returns {buf : Bytes} {offset : Nat} (inside : offset + 2 ≤ buf.length) :
    ∃ value, readU16 buf offset = .ok value := by
  have high := index_of_lt (by omega : offset < buf.length)
  have low := index_of_lt (by omega : offset + 1 < buf.length)
  rw [readU16, high, low]
  exact ⟨_, rfl⟩

end DnsHijacker.Rust
