import DnsHijacker.Rust.Text

/-!
# Domain names on the wire

A name is a sequence of labels of 1 to 63 octets.  On the wire each label is
preceded by its length; a zero octet ends the name, or a two-octet compression
pointer continues it elsewhere in the message.  `NameAt` relates a message and
an offset to the name encoded there, keeping apart the runs of labels between
pointers.
-/

namespace DnsHijacker.Wire

open DnsHijacker.Rust

/-- A label: 1 to 63 arbitrary octets. -/
structure Label where
  bytes : Bytes
  nonempty : bytes ≠ []
  short : bytes.length ≤ 63
  deriving DecidableEq

namespace Label

/-- The length octet and the octets of the label. -/
def encode (label : Label) : Bytes :=
  UInt8.ofNat label.bytes.length :: label.bytes

@[simp]
theorem length_encode (label : Label) : label.encode.length = 1 + label.bytes.length := by
  rw [encode, List.length_cons, Nat.add_comm]

theorem length_pos (label : Label) : 0 < label.bytes.length :=
  List.length_pos_of_ne_nil label.nonempty

theorem toNat_ofNat_length (label : Label) :
    (UInt8.ofNat label.bytes.length).toNat = label.bytes.length := by
  have short := label.short
  rw [UInt8.toNat_ofNat']
  exact Nat.mod_eq_of_lt (by omega)

/-- The octets are UTF-8. -/
def IsUtf8 (label : Label) : Prop :=
  ∃ text, fromUtf8 label.bytes = some text

instance (label : Label) : Decidable label.IsUtf8 :=
  decidable_of_iff ((fromUtf8 label.bytes).isSome) Option.isSome_iff_exists

/-- The text of a UTF-8 label. -/
def text (label : Label) : Text :=
  (fromUtf8 label.bytes).getD []

theorem IsUtf8.fromUtf8_eq {label : Label} (utf8 : label.IsUtf8) :
    fromUtf8 label.bytes = some label.text := by
  rcases utf8 with ⟨text, decoded⟩
  rw [Label.text, decoded]
  rfl

theorem IsUtf8.text_ne_nil {label : Label} (utf8 : label.IsUtf8) : label.text ≠ [] := by
  intro empty
  have decoded := utf8.fromUtf8_eq
  rw [empty, fromUtf8_eq_some_nil_iff] at decoded
  exact label.nonempty decoded

/-- The octets are ASCII and none is a dot. -/
def IsPlain (label : Label) : Prop :=
  IsAscii label.bytes ∧ 0x2E ∉ label.bytes

instance (label : Label) : Decidable label.IsPlain :=
  inferInstanceAs (Decidable (_ ∧ _))

theorem isUtf8_of_isAscii {label : Label} (ascii : IsAscii label.bytes) : label.IsUtf8 :=
  ⟨_, fromUtf8_ascii ascii⟩

theorem text_of_isAscii {label : Label} (ascii : IsAscii label.bytes) :
    label.text = label.bytes.map asciiChar := by
  rw [text, fromUtf8_ascii ascii]
  rfl

end Label

/-- The labels `a` and `b`. -/
def labelA : Label := ⟨[0x61], by decide, by decide⟩

def labelB : Label := ⟨[0x62], by decide, by decide⟩

/-- The octets of a name written without compression. -/
def encodeName (labels : List Label) : Bytes :=
  labels.flatMap Label.encode ++ [0]

@[simp]
theorem encodeName_nil : encodeName [] = [0] :=
  rfl

@[simp]
theorem encodeName_cons (label : Label) (labels : List Label) :
    encodeName (label :: labels) = label.encode ++ encodeName labels := by
  rw [encodeName, List.flatMap_cons, List.append_assoc]
  rfl

/-- The octets of a compression pointer. -/
def pointerBytes (target : Nat) : Bytes :=
  [UInt8.ofNat (0xC0 + target / 256), UInt8.ofNat (target % 256)]

/-- A name as it is written in one place: its labels there and, if it is
compressed, the pointer that continues it. -/
structure NameForm where
  labels : List Label
  target : Option (Fin 0x4000)
  deriving DecidableEq

namespace NameForm

/-- The octets that end the written part of a name. -/
def ending : Option (Fin 0x4000) → Bytes
  | none => [0]
  | some target => pointerBytes target

def encode (form : NameForm) : Bytes :=
  form.labels.flatMap Label.encode ++ ending form.target

/-- The root name. -/
def root : NameForm :=
  ⟨[], none⟩

theorem ending_ne_nil (target : Option (Fin 0x4000)) : ending target ≠ [] := by
  cases target <;> simp [ending, pointerBytes]

theorem encode_ne_nil (form : NameForm) : form.encode ≠ [] := by
  simp [encode, ending_ne_nil]

theorem encode_cons (label : Label) (labels : List Label) (target : Option (Fin 0x4000)) :
    encode ⟨label :: labels, target⟩ = label.encode ++ encode ⟨labels, target⟩ := by
  rw [encode, List.flatMap_cons, List.append_assoc]
  rfl

end NameForm

/-- The name at an offset of a message, as its runs of labels, and the offset
just past it.  A derivation is finite, so the pointers of a name are acyclic. -/
inductive NameAt (message : Bytes) : Nat → List (List Label) → Nat → Prop where
  | root {offset : Nat} (here : Occurs message offset [0]) :
      NameAt message offset [[]] (offset + 1)
  | label {offset stop : Nat} {label : Label} {run : List Label} {runs : List (List Label)}
      (here : Occurs message offset label.encode)
      (rest : NameAt message (offset + label.encode.length) (run :: runs) stop) :
      NameAt message offset ((label :: run) :: runs) stop
  | pointer {offset target stop : Nat} {runs : List (List Label)}
      (here : Occurs message offset (pointerBytes target)) (small : target < 0x4000)
      (rest : NameAt message target runs stop) :
      NameAt message offset ([] :: runs) (offset + 2)

/-- The labels of a name before its first pointer are UTF-8. -/
def FirstRunUtf8 (runs : List (List Label)) : Prop :=
  ∀ label ∈ runs.headD [], label.IsUtf8

instance (runs : List (List Label)) : Decidable (FirstRunUtf8 runs) :=
  inferInstanceAs (Decidable (∀ label ∈ runs.headD [], label.IsUtf8))

/-- A name written without compression is one run. -/
theorem nameAt_encodeName {message : Bytes} {offset : Nat} {labels : List Label}
    (occurs : Occurs message offset (encodeName labels)) :
    NameAt message offset [labels] (offset + (encodeName labels).length) := by
  induction labels generalizing offset with
  | nil => exact .root occurs
  | cons label labels ih =>
      rw [encodeName_cons, occurs_append] at occurs
      rw [encodeName_cons, List.length_append, ← Nat.add_assoc]
      exact .label occurs.1 (ih occurs.2)

theorem NameAt.runs_ne_nil {message : Bytes} {offset stop : Nat} {runs : List (List Label)}
    (nameAt : NameAt message offset runs stop) : runs ≠ [] := by
  cases nameAt <;> simp

/-- A name begins with a part written in one place, and ends there. -/
theorem NameAt.exists_form {message : Bytes} {offset stop : Nat} {runs : List (List Label)}
    (nameAt : NameAt message offset runs stop) :
    ∃ form : NameForm, Occurs message offset form.encode ∧ stop = offset + form.encode.length := by
  induction nameAt with
  | root here => exact ⟨.root, here, rfl⟩
  | pointer here small _ _ => exact ⟨⟨[], some ⟨_, small⟩⟩, here, rfl⟩
  | @label _ _ label _ _ here _ ih =>
      rcases ih with ⟨⟨labels, target⟩, rest, rfl⟩
      refine ⟨⟨label :: labels, target⟩, ?_, ?_⟩
      · rw [NameForm.encode_cons, occurs_append]
        exact ⟨here, rest⟩
      · rw [NameForm.encode_cons, List.length_append, Nat.add_assoc]

end DnsHijacker.Wire
