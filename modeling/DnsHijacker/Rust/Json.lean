import DnsHijacker.Rust.Text

/-!
# JSON objects of numbers

What `serde_json` writes for a struct of unsigned integers, and a reader of such objects: the members
of an object in their order, without white space, with names that need no escapes.
-/

namespace DnsHijacker.Rust

/-! ## Decimal numbers -/

/-- The decimal number a text begins with, and the rest. -/
def readNat (text : Text) : Option (Nat × Text) :=
  match text.takeWhile Char.isDigit with
  | [] => none
  | digits => some (Nat.ofDigitChars 10 digits 0, text.dropWhile Char.isDigit)

/-- The text does not go on with a digit. -/
def EndsNumber (rest : Text) : Prop :=
  ∀ c ∈ rest.head?, c.isDigit = false

theorem endsNumber_nil : EndsNumber [] := by
  intro c mem
  cases mem

theorem endsNumber_cons {c : Char} (other : c.isDigit = false) (rest : Text) :
    EndsNumber (c :: rest) := by
  intro first mem
  cases mem
  exact other

theorem takeWhile_isDigit {rest : Text} (ends : EndsNumber rest) :
    rest.takeWhile Char.isDigit = [] ∧ rest.dropWhile Char.isDigit = rest := by
  cases rest with
  | nil => exact ⟨rfl, rfl⟩
  | cons c rest =>
      have other : ¬ c.isDigit = true := Bool.not_eq_true _ ▸ ends c rfl
      exact ⟨List.takeWhile_cons_of_neg other, List.dropWhile_cons_of_neg other⟩

/-- A number that was written is read, up to where it ends. -/
theorem readNat_toDigits (n : Nat) {rest : Text} (ends : EndsNumber rest) :
    readNat (Nat.toDigits 10 n ++ rest) = some (n, rest) := by
  have digits : ∀ c ∈ Nat.toDigits 10 n, c.isDigit = true := fun c mem =>
    Nat.isDigit_of_mem_toDigits (by decide) (by decide) mem
  obtain ⟨none, all⟩ := takeWhile_isDigit ends
  rw [readNat, List.takeWhile_append_of_pos digits, List.dropWhile_append_of_pos digits, none, all,
    List.append_nil]
  cases written : Nat.toDigits 10 n with
  | nil => exact absurd written Nat.toDigits_ne_nil
  | cons first others =>
      dsimp only
      rw [← written, Nat.ofDigitChars_ten_toDigits]

/-! ## Objects -/

/-- A member of an object. -/
def jsonMember (member : Text × Nat) : Text :=
  '"' :: (member.1 ++ '"' :: ':' :: Nat.toDigits 10 member.2)

/-- `serde_json::to_string` -/
def jsonObject (members : List (Text × Nat)) : Text :=
  '{' :: ([','].intercalate (members.map jsonMember) ++ ['}'])

/-- The member a text begins with, and the rest. -/
def readMember : Text → Option ((Text × Nat) × Text)
  | '"' :: rest =>
      match splitOnce '"' rest with
      | some (name, ':' :: rest) =>
          (readNat rest).map fun (value, rest) => ((name, value), rest)
      | _ => none
  | _ => none

/-- The members a text begins with, up to the end of the object. -/
def readMembers : Nat → Text → Option (List (Text × Nat) × Text)
  | 0, _ => none
  | fuel + 1, text =>
      match readMember text with
      | some (member, ',' :: rest) =>
          (readMembers fuel rest).map fun (members, rest) => (member :: members, rest)
      | some (member, '}' :: rest) => some ([member], rest)
      | _ => none

/-- The object a text begins with, and the rest. -/
def readObject : Text → Option (List (Text × Nat) × Text)
  | '{' :: '}' :: rest => some ([], rest)
  | '{' :: rest => readMembers rest.length rest
  | _ => none

theorem readMember_jsonMember {name : Text} (plain : '"' ∉ name) (value : Nat) {rest : Text}
    (ends : EndsNumber rest) :
    readMember (jsonMember (name, value) ++ rest) = some ((name, value), rest) := by
  have written : jsonMember (name, value) ++ rest =
      '"' :: (name ++ '"' :: (':' :: (Nat.toDigits 10 value ++ rest))) := by
    simp [jsonMember]
  rw [written, readMember, splitOnce_append plain]
  simp only [readNat_toDigits value ends, Option.map_some]

/-- Members that are written behind one another are read in this order. -/
theorem readMembers_intercalate {members : List (Text × Nat)} (nonempty : members ≠ [])
    (plain : ∀ member ∈ members, '"' ∉ member.1) (rest : Text) {fuel : Nat}
    (enough : members.length ≤ fuel) :
    readMembers fuel ([','].intercalate (members.map jsonMember) ++ '}' :: rest) =
      some (members, rest) := by
  induction members generalizing fuel with
  | nil => contradiction
  | cons member others ih =>
      obtain ⟨name, value⟩ := member
      rw [List.forall_mem_cons] at plain
      cases fuel with
      | zero => contradiction
      | succ fuel =>
          cases others with
          | nil =>
              rw [List.map_cons, List.map_nil, List.intercalate_singleton, readMembers,
                readMember_jsonMember plain.1 value (endsNumber_cons (by decide) rest)]
              rfl
          | cons second others =>
              have later := ih (List.cons_ne_nil second others) plain.2
                (Nat.le_of_succ_le_succ enough)
              have written : [','].intercalate (((name, value) :: second :: others).map jsonMember) ++
                  '}' :: rest = jsonMember (name, value) ++ ',' ::
                    ([','].intercalate ((second :: others).map jsonMember) ++ '}' :: rest) := by
                simp [List.intercalate_cons_cons]
              rw [written, readMembers,
                readMember_jsonMember plain.1 value (endsNumber_cons (by decide) _)]
              simp only [later, Option.map_some]

theorem length_le_intercalate (members : List (Text × Nat)) :
    members.length ≤ ([','].intercalate (members.map jsonMember)).length := by
  induction members with
  | nil => exact Nat.le_refl 0
  | cons member others ih =>
      cases others with
      | nil => simp [jsonMember]
      | cons second others =>
          rw [List.map_cons, List.map_cons, List.intercalate_cons_cons]
          simp only [List.map_cons, List.length_append, List.length_cons] at ih ⊢
          omega

/-- An object that was written is read. -/
theorem readObject_jsonObject {members : List (Text × Nat)}
    (plain : ∀ member ∈ members, '"' ∉ member.1) (rest : Text) :
    readObject (jsonObject members ++ rest) = some (members, rest) := by
  cases members with
  | nil => rfl
  | cons member others =>
      let body := [','].intercalate ((member :: others).map jsonMember)
      have enough : (member :: others).length ≤ (body ++ '}' :: rest).length := by
        rw [List.length_append]
        exact (length_le_intercalate _).trans (Nat.le_add_right _ _)
      have written : jsonObject (member :: others) ++ rest = '{' :: (body ++ '}' :: rest) := by
        simp [jsonObject, body]
      have quoted : ∃ more, body ++ '}' :: rest = '"' :: more := by
        cases others with
        | nil => exact ⟨_, rfl⟩
        | cons second others => exact ⟨_, rfl⟩
      obtain ⟨more, quoted⟩ := quoted
      rw [written]
      have entered : readObject ('{' :: (body ++ '}' :: rest)) =
          readMembers (body ++ '}' :: rest).length (body ++ '}' :: rest) := by
        rw [quoted]
        rfl
      rw [entered]
      exact readMembers_intercalate (List.cons_ne_nil member others) plain rest enough

end DnsHijacker.Rust
