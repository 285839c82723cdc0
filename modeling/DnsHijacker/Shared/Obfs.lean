import DnsHijacker.Rust.Bytes

/-!
# Obfuscated datagrams

Between the proxy and the relay a message may travel as
`nonce ‖ encrypt (length ‖ message ‖ padding)`.  The cipher is a crate and
enters as a parameter.  What `encode` draws at random is an argument, so the
results hold of every nonce and every padding.
-/

namespace DnsHijacker.Shared.Obfs

open DnsHijacker.Rust

/-! ## Sizes -/

/-- `NONCE_LEN` -/
def nonceLen : Nat :=
  12

/-- `LEN_PREFIX` -/
def lenPrefix : Nat :=
  2

/-- `TAG_LEN` -/
def tagLen : Nat :=
  16

/-- `PAD_MIN` -/
def padMin : Nat :=
  32

/-- `PAD_MAX` -/
def padMax : Nat :=
  192

/-- What a datagram holds besides its message and its padding. -/
def overhead : Nat :=
  nonceLen + lenPrefix + tagLen

/-! ## The cipher -/

/-- ChaCha20-Poly1305: decryption inverts encryption. -/
structure Cipher (ObfsKey : Type) where
  encrypt : ObfsKey → Bytes → Bytes → Bytes
  decrypt : ObfsKey → Bytes → Bytes → Option Bytes
  length_encrypt : ∀ key nonce plaintext,
    (encrypt key nonce plaintext).length = plaintext.length + tagLen
  decrypt_encrypt : ∀ key nonce plaintext,
    decrypt key nonce (encrypt key nonce plaintext) = some plaintext

/-- What is encrypted under `key` does not decrypt under `other`. -/
def Cipher.Rejects {ObfsKey : Type} (cipher : Cipher ObfsKey) (other key : ObfsKey) : Prop :=
  ∀ nonce plaintext, cipher.decrypt other nonce (cipher.encrypt key nonce plaintext) = none

/-- Decryption under one of the keys fails for what is encrypted under another one.  With tags of
sixteen octets no cipher has this for all keys of 32 octets, so it is assumed of the keys in use. -/
def Cipher.Separates {ObfsKey : Type} (cipher : Cipher ObfsKey) (keys : List ObfsKey) : Prop :=
  ∀ key ∈ keys, ∀ other ∈ keys, other ≠ key → cipher.Rejects other key

/-- The random choices of one call of `encode`. -/
structure Draw where
  pad : UInt16
  padding : Bytes
  nonce : Bytes
  length_padding : padding.length = padMin + pad.toNat % (padMax - padMin + 1)
  length_nonce : nonce.length = nonceLen

theorem Draw.padMin_le (draw : Draw) : padMin ≤ draw.padding.length := by
  rw [draw.length_padding]
  exact Nat.le_add_right _ _

theorem Draw.le_padMax (draw : Draw) : draw.padding.length ≤ padMax := by
  have small : draw.pad.toNat % (padMax - padMin + 1) < padMax - padMin + 1 :=
    Nat.mod_lt _ (Nat.succ_pos _)
  have bounds : padMin + (padMax - padMin) = padMax := rfl
  rw [draw.length_padding]
  omega

variable {ObfsKey : Type} (cipher : Cipher ObfsKey)

/-! ## The source functions -/

/-- What `encode` encrypts. -/
def plaintext (query : Bytes) (draw : Draw) : Bytes :=
  u16ToBeBytes (UInt16.ofNat query.length) ++ query ++ draw.padding

/-- `ObfsKey::encode` -/
def encode (key : ObfsKey) (query : Bytes) (draw : Draw) : Bytes :=
  draw.nonce ++ cipher.encrypt key draw.nonce (plaintext query draw)

/-- The message in a plaintext. -/
def readPlaintext : Bytes → Option Bytes
  | high :: low :: rest =>
      let len := (u16FromBeBytes high low).toNat
      if lenPrefix + len > (high :: low :: rest).length then none else some (rest.take len)
  | _ => none

/-- `ObfsKey::decode` -/
def decode (key : ObfsKey) (datagram : Bytes) : Option Bytes :=
  if datagram.length < nonceLen + tagLen + lenPrefix then none
  else
    match cipher.decrypt key (datagram.take nonceLen) (datagram.drop nonceLen) with
    | none => none
    | some plaintext => readPlaintext plaintext

/-! ## Round trips -/

variable {cipher}

theorem length_encode (key : ObfsKey) (query : Bytes) (draw : Draw) :
    (encode cipher key query draw).length = query.length + overhead + draw.padding.length := by
  rw [encode, List.length_append, cipher.length_encrypt, plaintext, List.length_append,
    List.length_append, length_u16ToBeBytes, draw.length_nonce, overhead, lenPrefix]
  omega

theorem take_encode (key : ObfsKey) (query : Bytes) (draw : Draw) :
    (encode cipher key query draw).take nonceLen = draw.nonce := by
  rw [encode, ← draw.length_nonce]
  exact List.take_left

theorem drop_encode (key : ObfsKey) (query : Bytes) (draw : Draw) :
    (encode cipher key query draw).drop nonceLen =
      cipher.encrypt key draw.nonce (plaintext query draw) := by
  rw [encode, ← draw.length_nonce]
  exact List.drop_left

theorem not_short_encode (key : ObfsKey) (query : Bytes) (draw : Draw) :
    ¬ (encode cipher key query draw).length < nonceLen + tagLen + lenPrefix := by
  rw [length_encode, overhead]
  omega

/-- The message is found behind its length, whatever the padding is. -/
theorem readPlaintext_plaintext {query : Bytes} (short : query.length < 65536) (draw : Draw) :
    readPlaintext (plaintext query draw) = some query := by
  have length : (u16FromBeBytes (UInt8.ofNat ((UInt16.ofNat query.length).toNat / 256))
      (UInt8.ofNat ((UInt16.ofNat query.length).toNat % 256))).toNat = query.length := by
    rw [u16FromBeBytes_toBeBytes, UInt16.toNat_ofNat']
    exact Nat.mod_eq_of_lt short
  rw [plaintext, u16ToBeBytes, List.append_assoc, List.cons_append, List.cons_append,
    List.nil_append, readPlaintext]
  simp only [length, List.length_cons, List.length_append, lenPrefix]
  rw [if_neg (by omega), List.take_left]

/-- A datagram decodes to its message under its key. -/
theorem decode_encode (key : ObfsKey) {query : Bytes} (short : query.length < 65536)
    (draw : Draw) : decode cipher key (encode cipher key query draw) = some query := by
  rw [decode, if_neg (not_short_encode key query draw), take_encode, drop_encode,
    cipher.decrypt_encrypt]
  exact readPlaintext_plaintext short draw

/-- A datagram does not decode under a key that rejects it. -/
theorem decode_encode_other {key other : ObfsKey} (rejects : cipher.Rejects other key)
    (query : Bytes) (draw : Draw) : decode cipher other (encode cipher key query draw) = none := by
  rw [decode, if_neg (not_short_encode key query draw), take_encode, drop_encode, rejects]

/-! ## A cipher for tests -/

/-- A cipher that hides nothing: the tag depends on the key alone. -/
def Cipher.tagging {ObfsKey : Type} (tag : ObfsKey → Bytes)
    (length_tag : ∀ key, (tag key).length = tagLen) : Cipher ObfsKey where
  encrypt key _ plaintext := plaintext ++ tag key
  decrypt key _ ciphertext :=
    if ciphertext.drop (ciphertext.length - tagLen) = tag key then
      some (ciphertext.take (ciphertext.length - tagLen))
    else none
  length_encrypt key _ plaintext := by
    rw [List.length_append, length_tag]
  decrypt_encrypt key _ plaintext := by
    rw [List.length_append, length_tag, Nat.add_sub_cancel, List.drop_left, List.take_left, if_pos rfl]

theorem Cipher.rejects_tagging {ObfsKey : Type} {tag : ObfsKey → Bytes}
    {length_tag : ∀ key, (tag key).length = tagLen} {key other : ObfsKey}
    (different : tag key ≠ tag other) : (Cipher.tagging tag length_tag).Rejects other key := by
  intro nonce plaintext
  simp only [Cipher.tagging]
  rw [List.length_append, length_tag, Nat.add_sub_cancel, List.drop_left, if_neg different]

theorem length_replicate_tagLen (key : UInt8) : (List.replicate tagLen key).length = tagLen :=
  List.length_replicate

/-- The key is repeated as the tag. -/
def Cipher.tagged : Cipher UInt8 :=
  .tagging (List.replicate tagLen) length_replicate_tagLen

theorem Cipher.rejects_tagged {key other : UInt8} (different : other ≠ key) :
    Cipher.tagged.Rejects other key :=
  rejects_tagging fun same => different (List.cons.inj same).1.symm

theorem Cipher.separates_tagged (keys : List UInt8) : Cipher.tagged.Separates keys :=
  fun _ _ _ _ different => rejects_tagged different

theorem length_zeroPadding : (List.replicate 32 (0 : UInt8)).length =
    padMin + (0 : UInt16).toNat % (padMax - padMin + 1) :=
  rfl

theorem length_zeroNonce : (List.replicate 12 (0 : UInt8)).length = nonceLen :=
  rfl

/-- The least padding, all zero. -/
def Draw.zero : Draw where
  pad := 0
  padding := List.replicate 32 0
  nonce := List.replicate 12 0
  length_padding := length_zeroPadding
  length_nonce := length_zeroNonce

end DnsHijacker.Shared.Obfs
