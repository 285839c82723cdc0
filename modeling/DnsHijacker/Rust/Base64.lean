import DnsHijacker.Rust.Text

/-!
# Base64

The standard alphabet with padding.  Three octets become four characters; one or
two octets at the end are padded with `=`.
-/

namespace DnsHijacker.Rust.Base64

/-- The 64 characters, by their values. -/
def alphabet : Text :=
  "ABCDEFGHIJKLMNOPQRSTUVWXYZabcdefghijklmnopqrstuvwxyz0123456789+/".toList

/-- The character of six bits. -/
def sextet (value : Nat) : Char :=
  alphabet.getD value '='

/-- The value of a character. -/
def sextetValue (c : Char) : Option Nat :=
  if alphabet.idxOf c < 64 then some (alphabet.idxOf c) else none

/-- `STANDARD.encode` -/
def encode : Bytes → Text
  | [] => []
  | [a] =>
      let group := a.toNat * 16
      [sextet (group / 64), sextet (group % 64), '=', '=']
  | [a, b] =>
      let group := (a.toNat * 256 + b.toNat) * 4
      [sextet (group / 4096), sextet (group / 64 % 64), sextet (group % 64), '=']
  | a :: b :: c :: rest =>
      let group := (a.toNat * 256 + b.toNat) * 256 + c.toNat
      sextet (group / 262144) :: sextet (group / 4096 % 64) :: sextet (group / 64 % 64) ::
        sextet (group % 64) :: encode rest

/-- The octets of the last two or three characters before the padding; bits that
are not used must be zero. -/
def decodePadded (w x y : Char) : Option Bytes := do
  let first ← sextetValue w
  let second ← sextetValue x
  if y = '=' then
    let group := first * 64 + second
    if group % 16 = 0 then return [UInt8.ofNat (group / 16)] else none
  else
    let third ← sextetValue y
    let group := (first * 64 + second) * 64 + third
    if group % 4 = 0 then return [UInt8.ofNat (group / 1024), UInt8.ofNat (group / 4 % 256)]
    else none

/-- `STANDARD.decode` -/
def decode : Text → Option Bytes
  | [] => some []
  | w :: x :: y :: z :: rest =>
      if z = '=' then
        if rest.isEmpty then decodePadded w x y else none
      else do
        let first ← sextetValue w
        let second ← sextetValue x
        let third ← sextetValue y
        let fourth ← sextetValue z
        let group := ((first * 64 + second) * 64 + third) * 64 + fourth
        let decoded ← decode rest
        return UInt8.ofNat (group / 65536) :: UInt8.ofNat (group / 256 % 256) ::
          UInt8.ofNat (group % 256) :: decoded
  | _ => none

theorem sextetValue_sextet {value : Nat} (small : value < 64) :
    sextetValue (sextet value) = some value := by
  have all : ∀ value : Fin 64, sextetValue (sextet value) = some value.val := by decide +kernel
  exact all ⟨value, small⟩

theorem sextet_ne_pad {value : Nat} (small : value < 64) : sextet value ≠ '=' := by
  have all : ∀ value : Fin 64, sextet value ≠ '=' := by decide +kernel
  exact all ⟨value, small⟩

theorem ofNat_eq {byte : UInt8} {value : Nat} (same : value = byte.toNat) :
    UInt8.ofNat value = byte := by
  rw [same, UInt8.ofNat_toNat]

theorem decodePadded_one (a : UInt8) {group : Nat} (value : group = a.toNat * 16) :
    decodePadded (sextet (group / 64)) (sextet (group % 64)) '=' = some [a] := by
  have bound := a.toNat_lt
  have joined : group / 64 * 64 + group % 64 = group := Nat.div_add_mod' group 64
  rw [decodePadded, sextetValue_sextet (by omega), sextetValue_sextet (by omega)]
  simp only [Option.bind_eq_bind, Option.bind_some, ↓reduceIte]
  rw [joined, if_pos (by omega), ofNat_eq (by omega : group / 16 = a.toNat)]
  rfl

theorem decodePadded_two (a b : UInt8) {group : Nat}
    (value : group = (a.toNat * 256 + b.toNat) * 4) :
    decodePadded (sextet (group / 4096)) (sextet (group / 64 % 64)) (sextet (group % 64)) =
      some [a, b] := by
  have aBound := a.toNat_lt
  have bBound := b.toNat_lt
  have joined : (group / 4096 * 64 + group / 64 % 64) * 64 + group % 64 = group := by omega
  rw [decodePadded, sextetValue_sextet (by omega), sextetValue_sextet (by omega),
    sextetValue_sextet (by omega)]
  simp only [Option.bind_eq_bind, Option.bind_some]
  rw [if_neg (sextet_ne_pad (by omega)), joined, if_pos (by omega),
    ofNat_eq (by omega : group / 1024 = a.toNat), ofNat_eq (by omega : group / 4 % 256 = b.toNat)]
  rfl

/-- Four characters that encode three octets. -/
theorem decode_group (a b c : UInt8) {group : Nat}
    (value : group = (a.toNat * 256 + b.toNat) * 256 + c.toNat) (rest : Text) :
    decode (sextet (group / 262144) :: sextet (group / 4096 % 64) :: sextet (group / 64 % 64) ::
      sextet (group % 64) :: rest) = (decode rest).map fun decoded => a :: b :: c :: decoded := by
  have aBound := a.toNat_lt
  have bBound := b.toNat_lt
  have cBound := c.toNat_lt
  have joined : ((group / 262144 * 64 + group / 4096 % 64) * 64 + group / 64 % 64) * 64 +
      group % 64 = group := by omega
  rw [decode, if_neg (sextet_ne_pad (by omega)), sextetValue_sextet (by omega),
    sextetValue_sextet (by omega), sextetValue_sextet (by omega), sextetValue_sextet (by omega)]
  simp only [Option.bind_eq_bind, Option.bind_some]
  rw [joined, ofNat_eq (by omega : group / 65536 = a.toNat),
    ofNat_eq (by omega : group / 256 % 256 = b.toNat), ofNat_eq (by omega : group % 256 = c.toNat)]
  cases decode rest <;> rfl

/-- What was encoded is decoded to itself. -/
theorem decode_encode (bytes : Bytes) : decode (encode bytes) = some bytes := by
  induction bytes using encode.induct with
  | case1 => rfl
  | case2 a =>
      rw [encode, decode, if_pos rfl]
      exact decodePadded_one a rfl
  | case3 a b =>
      rw [encode, decode, if_pos rfl]
      exact decodePadded_two a b rfl
  | case4 a b c rest ih =>
      rw [encode, decode_group a b c rfl, ih]
      rfl

/-! ## What is decoded -/

theorem sextet_of_sextetValue {c : Char} {value : Nat} (found : sextetValue c = some value) :
    value < 64 ∧ sextet value = c := by
  rw [sextetValue] at found
  split at found
  · rename_i small
    cases found
    have inside : alphabet.idxOf c < alphabet.length := small
    refine ⟨small, ?_⟩
    rw [sextet, List.getD_eq_getElem?_getD, List.getElem?_eq_getElem inside, Option.getD_some]
    exact List.getElem_idxOf inside
  · contradiction

theorem encode_of_decodePadded {w x y : Char} {bytes : Bytes}
    (decoded : decodePadded w x y = some bytes) : encode bytes = [w, x, y, '='] := by
  simp only [decodePadded, Option.bind_eq_bind, Option.bind_eq_some_iff] at decoded
  obtain ⟨first, firstFound, second, secondFound, decoded⟩ := decoded
  obtain ⟨firstSmall, rfl⟩ := sextet_of_sextetValue firstFound
  obtain ⟨secondSmall, rfl⟩ := sextet_of_sextetValue secondFound
  split at decoded
  · rename_i pad
    subst pad
    split at decoded
    · rename_i unused
      cases decoded
      have octet : (UInt8.ofNat ((first * 64 + second) / 16)).toNat * 16 = first * 64 + second := by
        rw [UInt8.toNat_ofNat']
        omega
      simp only [encode, octet]
      rw [(by omega : (first * 64 + second) / 64 = first),
        (by omega : (first * 64 + second) % 64 = second)]
    · contradiction
  · simp only [Option.bind_eq_some_iff] at decoded
    obtain ⟨third, thirdFound, decoded⟩ := decoded
    obtain ⟨thirdSmall, rfl⟩ := sextet_of_sextetValue thirdFound
    split at decoded
    · rename_i unused
      cases decoded
      have octets : ((UInt8.ofNat (((first * 64 + second) * 64 + third) / 1024)).toNat * 256 +
          (UInt8.ofNat (((first * 64 + second) * 64 + third) / 4 % 256)).toNat) * 4 =
            (first * 64 + second) * 64 + third := by
        rw [UInt8.toNat_ofNat', UInt8.toNat_ofNat']
        omega
      simp only [encode, octets]
      rw [(by omega : ((first * 64 + second) * 64 + third) / 4096 = first),
        (by omega : ((first * 64 + second) * 64 + third) / 64 % 64 = second),
        (by omega : ((first * 64 + second) * 64 + third) % 64 = third)]
    · contradiction

/-- Only what is encoded is decoded: every octet string has one text. -/
theorem encode_of_decode {text : Text} {bytes : Bytes} (decoded : decode text = some bytes) :
    encode bytes = text := by
  induction text using decode.induct generalizing bytes with
  | case1 =>
      cases decoded
      rfl
  | case2 w x y rest last =>
      rw [decode, if_pos rfl, if_pos last] at decoded
      rw [List.isEmpty_iff.mp last]
      exact encode_of_decodePadded decoded
  | case3 w x y rest more =>
      rw [decode, if_pos rfl, if_neg more] at decoded
      contradiction
  | case4 w x y z rest full ih =>
      rw [decode, if_neg full] at decoded
      simp only [Option.bind_eq_bind, Option.bind_eq_some_iff] at decoded
      obtain ⟨first, firstFound, second, secondFound, third, thirdFound, fourth, fourthFound,
        later, laterFound, returned⟩ := decoded
      obtain ⟨firstSmall, rfl⟩ := sextet_of_sextetValue firstFound
      obtain ⟨secondSmall, rfl⟩ := sextet_of_sextetValue secondFound
      obtain ⟨thirdSmall, rfl⟩ := sextet_of_sextetValue thirdFound
      obtain ⟨fourthSmall, rfl⟩ := sextet_of_sextetValue fourthFound
      cases returned
      generalize same : ((first * 64 + second) * 64 + third) * 64 + fourth = group
      have octets : ((UInt8.ofNat (group / 65536)).toNat * 256 +
          (UInt8.ofNat (group / 256 % 256)).toNat) * 256 + (UInt8.ofNat (group % 256)).toNat =
            group := by
        rw [UInt8.toNat_ofNat', UInt8.toNat_ofNat', UInt8.toNat_ofNat']
        omega
      simp only [encode, octets, ih laterFound]
      rw [(by omega : group / 262144 = first), (by omega : group / 4096 % 64 = second),
        (by omega : group / 64 % 64 = third), (by omega : group % 64 = fourth)]
  | case5 text short =>
      simp_all [decode]

example : encode [0x4D, 0x61] = "TWE=".toList := by decide

end DnsHijacker.Rust.Base64
