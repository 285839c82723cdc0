import DnsHijacker.Rust.Base64
import DnsHijacker.Shared.Obfs

/-!
# Shared keys

A key stands in the configuration files as the base64 text of its 32 octets, the way
`ObfsKey::generate_base64` prints it.  What the cipher makes of the octets is left to its crate.
-/

namespace DnsHijacker.Shared.Obfs

open DnsHijacker.Rust

/-- `KEY_LEN` -/
def keyLen : Nat :=
  32

/-- `[u8; KEY_LEN]` -/
structure KeyBytes where
  bytes : Bytes
  length_bytes : bytes.length = keyLen
  deriving DecidableEq

/-- `ObfsKey::generate_base64`, with the octets that were drawn. -/
def generateBase64 (key : KeyBytes) : Text :=
  Base64.encode key.bytes

/-- The 32 octets of a text. -/
def keyBytes (text : Text) : Option KeyBytes :=
  match Base64.decode text with
  | none => none
  | some bytes => if length : bytes.length = keyLen then some ⟨bytes, length⟩ else none

/-- `ObfsKey::from_base64`; `fromBytes` is `ObfsKey::from_bytes`. -/
def fromBase64 {ObfsKey : Type} (fromBytes : KeyBytes → ObfsKey) (text : Text) : Option ObfsKey :=
  (keyBytes text).map fromBytes

/-- The texts that are read are the texts that are printed. -/
theorem keyBytes_eq_some_iff {text : Text} {key : KeyBytes} :
    keyBytes text = some key ↔ text = generateBase64 key := by
  rw [keyBytes]
  constructor
  · intro read
    cases decoded : Base64.decode text with
    | none =>
        rw [decoded] at read
        contradiction
    | some bytes =>
        rw [decoded] at read
        simp only [Option.dite_none_right_eq_some, Option.some.injEq] at read
        obtain ⟨_, rfl⟩ := read
        exact (Base64.encode_of_decode decoded).symm
  · rintro rfl
    rw [generateBase64, Base64.decode_encode]
    exact dif_pos key.length_bytes

theorem keyBytes_generateBase64 (key : KeyBytes) : keyBytes (generateBase64 key) = some key :=
  keyBytes_eq_some_iff.mpr rfl

/-- Two keys have two texts. -/
theorem generateBase64_injective : Function.Injective generateBase64 := by
  intro key other same
  have read := keyBytes_generateBase64 key
  rw [same, keyBytes_generateBase64] at read
  exact (Option.some.inj read).symm

variable {ObfsKey : Type} {fromBytes : KeyBytes → ObfsKey}

theorem fromBase64_eq_some_iff {text : Text} {key : ObfsKey} :
    fromBase64 fromBytes text = some key ↔
      ∃ bytes, text = generateBase64 bytes ∧ fromBytes bytes = key := by
  rw [fromBase64, Option.map_eq_some_iff]
  simp only [keyBytes_eq_some_iff]

theorem fromBase64_generateBase64 (bytes : KeyBytes) :
    fromBase64 fromBytes (generateBase64 bytes) = some (fromBytes bytes) :=
  fromBase64_eq_some_iff.mpr ⟨bytes, rfl, rfl⟩

end DnsHijacker.Shared.Obfs
