import DnsHijacker.Shared.Obfs

/-!
# The codec of obfuscated datagrams

What `encode` makes is decoded, and whatever is decoded has the form that `encode` makes: a nonce
and the encryption of a length, the message and some padding.  Of the cipher only what holds of a
single key is assumed.  Here `decode` is written with the bounds checks of its slices.
-/

namespace DnsHijacker.Shared.Obfs

open DnsHijacker.Rust

/-! ## One key -/

/-- The cipher under one of its keys. -/
def Cipher.under {ObfsKey : Type} (cipher : Cipher ObfsKey) (key : ObfsKey) : Cipher Unit where
  encrypt _ := cipher.encrypt key
  decrypt _ := cipher.decrypt key
  length_encrypt _ := cipher.length_encrypt key
  decrypt_encrypt _ := cipher.decrypt_encrypt key

/-! ## Checked decoding -/

/-- `buf.split_at(mid)` -/
def splitAt (buf : Bytes) (mid : Nat) : Exec (Bytes × Bytes) :=
  if mid ≤ buf.length then .ok (buf.take mid, buf.drop mid) else .error .panic

/-- `GenericArray::from_slice` for a nonce -/
def fromSlice (buf : Bytes) : Exec Bytes :=
  if buf.length = nonceLen then .ok buf else .error .panic

variable {ObfsKey : Type}

/-- `ObfsKey::decode`, where every index and slice is checked. -/
def decodeExec (cipher : Cipher ObfsKey) (key : ObfsKey) (datagram : Bytes) :
    Exec (Option Bytes) := do
  if datagram.length < nonceLen + tagLen + lenPrefix then return none
  let (nonceBytes, ciphertext) ← splitAt datagram nonceLen
  let nonce ← fromSlice nonceBytes
  match cipher.decrypt key nonce ciphertext with
  | none => return none
  | some plaintext =>
      if plaintext.length < lenPrefix then return none
      let len := (u16FromBeBytes (← index plaintext 0) (← index plaintext 1)).toNat
      if lenPrefix + len > plaintext.length then return none
      return some (← slice plaintext lenPrefix (lenPrefix + len))

/-- No check fails. -/
theorem decodeExec_eq (cipher : Cipher ObfsKey) (key : ObfsKey) (datagram : Bytes) :
    decodeExec cipher key datagram = .ok (decode cipher key datagram) := by
  rw [decodeExec, decode]
  by_cases short : datagram.length < nonceLen + tagLen + lenPrefix
  · rw [if_pos short, if_pos short]
    rfl
  have room : nonceLen ≤ datagram.length := by omega
  have nonce : (datagram.take nonceLen).length = nonceLen := List.length_take_of_le room
  rw [if_neg short, if_neg short, splitAt, if_pos room]
  simp only [bind, Except.bind]
  rw [fromSlice, if_pos nonce]
  simp only
  cases cipher.decrypt key (datagram.take nonceLen) (datagram.drop nonceLen) with
  | none => rfl
  | some plaintext =>
      rcases plaintext with _ | ⟨high, _ | ⟨low, rest⟩⟩
      · rfl
      · rfl
      · have prefixed : ¬ (high :: low :: rest).length < lenPrefix := by
          rw [List.length_cons, List.length_cons, lenPrefix]
          omega
        dsimp only
        rw [if_neg prefixed, readPlaintext]
        simp only [index, List.getElem?_cons_zero, List.getElem?_cons_succ, pure, Except.pure]
        split
        · rfl
        · next inside =>
            rw [slice_eq_ok (Nat.le_add_right _ _) (Nat.le_of_not_gt inside), List.drop_take,
              Nat.add_sub_cancel_left, lenPrefix]
            rfl

/-! ## The form of a datagram -/

/-- Every nonce, with every padding of a length in range, is drawn by some call. -/
theorem exists_draw {nonce padding : Bytes} (nonceLength : nonce.length = nonceLen)
    (least : padMin ≤ padding.length) (most : padding.length ≤ padMax) :
    ∃ draw : Draw, draw.nonce = nonce ∧ draw.padding = padding := by
  have small : padding.length - padMin < padMax - padMin + 1 := by omega
  have width : padMax - padMin + 1 < 2 ^ 16 := by decide
  have pad : (UInt16.ofNat (padding.length - padMin)).toNat % (padMax - padMin + 1) =
      padding.length - padMin := by
    rw [UInt16.toNat_ofNat', Nat.mod_eq_of_lt (small.trans width), Nat.mod_eq_of_lt small]
  refine ⟨⟨UInt16.ofNat (padding.length - padMin), padding, nonce, ?_, nonceLength⟩, rfl, rfl⟩
  rw [pad]
  omega

/-- A message that is read from a plaintext stands there between its length and some padding. -/
theorem eq_of_readPlaintext {plaintext query : Bytes}
    (read : readPlaintext plaintext = some query) :
    query.length ≤ 65535 ∧ ∃ padding,
      plaintext = u16ToBeBytes (UInt16.ofNat query.length) ++ query ++ padding := by
  rcases plaintext with _ | ⟨high, _ | ⟨low, rest⟩⟩
  · cases read
  · cases read
  · rw [readPlaintext] at read
    split at read
    · cases read
    · next inside =>
        cases read
        rw [List.length_cons, List.length_cons, lenPrefix] at inside
        have length : (rest.take (u16FromBeBytes high low).toNat).length =
            (u16FromBeBytes high low).toNat := List.length_take_of_le (by omega)
        have bound := (u16FromBeBytes high low).toNat_lt
        refine ⟨by omega, rest.drop (u16FromBeBytes high low).toNat, ?_⟩
        rw [length, UInt16.ofNat_toNat, u16ToBeBytes_fromBeBytes, List.append_assoc,
          List.take_append_drop]
        rfl

theorem eq_of_decode {cipher : Cipher ObfsKey} {key : ObfsKey} {datagram query : Bytes}
    (decoded : decode cipher key datagram = some query) :
    query.length ≤ 65535 ∧ ∃ nonce ciphertext padding, datagram = nonce ++ ciphertext ∧
      nonce.length = nonceLen ∧ cipher.decrypt key nonce ciphertext =
        some (u16ToBeBytes (UInt16.ofNat query.length) ++ query ++ padding) := by
  rw [decode] at decoded
  by_cases short : datagram.length < nonceLen + tagLen + lenPrefix
  · rw [if_pos short] at decoded
    cases decoded
  rw [if_neg short] at decoded
  cases decrypted : cipher.decrypt key (datagram.take nonceLen) (datagram.drop nonceLen) with
  | none =>
      rw [decrypted] at decoded
      cases decoded
  | some plaintext =>
      rw [decrypted] at decoded
      obtain ⟨small, padding, rfl⟩ := eq_of_readPlaintext decoded
      exact ⟨small, datagram.take nonceLen, datagram.drop nonceLen, padding,
        (List.take_append_drop _ _).symm, List.length_take_of_le (by omega), decrypted⟩

/-- What is encoded is decoded, and what is decoded has the form of what is encoded. -/
theorem codec (cipher : Cipher Unit) :
    (∀ query draw, query.length ≤ 65535 →
      decodeExec cipher () (encode cipher () query draw) = .ok (some query)) ∧
    (∀ nonce padding : Bytes, nonce.length = nonceLen → padMin ≤ padding.length →
      padding.length ≤ padMax → ∃ draw : Draw, draw.nonce = nonce ∧ draw.padding = padding) ∧
    ∀ datagram, ∃ result, decodeExec cipher () datagram = .ok result ∧
      ∀ query ∈ result, query.length ≤ 65535 ∧ ∃ nonce ciphertext padding,
        datagram = nonce ++ ciphertext ∧ nonce.length = nonceLen ∧
        cipher.decrypt () nonce ciphertext =
          some (u16ToBeBytes (UInt16.ofNat query.length) ++ query ++ padding) := by
  refine ⟨fun query draw short => ?_, fun nonce padding => exists_draw, fun datagram => ?_⟩
  · rw [decodeExec_eq, decode_encode () (Nat.lt_succ_of_le short) draw]
  · exact ⟨decode cipher () datagram, decodeExec_eq cipher () datagram,
      fun query decoded => eq_of_decode decoded⟩

/-- The message `hi` under the least padding. -/
theorem codec_hi :
    decodeExec (Cipher.tagged.under 7) ()
      (encode (Cipher.tagged.under 7) () [104, 105] .zero) = .ok (some [104, 105]) :=
  (codec (Cipher.tagged.under 7)).1 [104, 105] .zero (by decide)

end DnsHijacker.Shared.Obfs
