import DnsHijacker.Rust.Text

/-!
# Lower case

`str::to_lowercase` maps every character by the Unicode lower-case table, except
that a capital sigma becomes a final sigma at the end of a word.  The table
changes with the Unicode version of the standard library, so it is a parameter;
the structure lists the facts that hold of every version.
-/

namespace DnsHijacker.Rust

/-- Lower-casing one ASCII character. -/
theorem toLower_cases (c : Char) :
    c.toLower = c ∨ (65 ≤ c.toNat ∧ c.toNat ≤ 90 ∧ c.toLower.toNat = c.toNat + 32) := by
  by_cases upper : c.val ≥ 'A'.val ∧ c.val ≤ 'Z'.val
  · right
    have above : 65 ≤ c.val.toNat := UInt32.le_iff_toNat_le.mp upper.1
    have below : c.val.toNat ≤ 90 := UInt32.le_iff_toNat_le.mp upper.2
    refine ⟨above, below, ?_⟩
    have lowered : c.toLower.val = c.val + 32 := congrArg Char.val (dif_pos upper)
    change c.toLower.val.toNat = c.val.toNat + 32
    rw [lowered, UInt32.toNat_add]
    exact Nat.mod_eq_of_lt (Nat.lt_of_le_of_lt (Nat.add_le_add_right below 32) (by decide))
  · left
    exact dif_neg upper

theorem toLower_eq_self {c : Char} (notUpper : 90 < c.toNat) : c.toLower = c := by
  rcases toLower_cases c with same | ⟨_, below, _⟩
  · exact same
  · exact absurd below (Nat.not_le.mpr notUpper)

theorem toLower_toLower (c : Char) : c.toLower.toLower = c.toLower := by
  rcases toLower_cases c with same | ⟨above, _, code⟩
  · rw [same, same]
  · exact toLower_eq_self (by omega)

/-- The character properties `to_lowercase` reads. -/
structure UnicodeData where
  toLower : Char → Text
  cased : Char → Bool
  caseIgnorable : Char → Bool
  /-- On ASCII the table is the usual one. -/
  toLower_ascii : ∀ c, c.toNat < 128 → toLower c = [c.toLower]
  toLower_ne_nil : ∀ c, toLower c ≠ []
  /-- Lower-case characters stay as they are, and none of them is a capital
  sigma. -/
  toLower_stable : ∀ c, c ≠ 'Σ' → ∀ d ∈ toLower c, d ≠ 'Σ' ∧ toLower d = [d]
  toLower_dot : ∀ c, '.' ∈ toLower c → c = '.'
  toLower_sigma : toLower 'σ' = ['σ']
  toLower_finalSigma : toLower 'ς' = ['ς']

namespace UnicodeData

/-- The table of a program that only meets ASCII text and capital sigma. -/
def ascii : UnicodeData where
  toLower c := [c.toLower]
  cased c := c.isAlpha
  caseIgnorable c := c ∈ ['\'', '.', ':', '^', '`']
  toLower_ascii _ _ := rfl
  toLower_ne_nil _ := by simp
  toLower_stable c ne d mem := by
    rw [List.mem_singleton] at mem
    subst mem
    rw [toLower_toLower]
    rcases toLower_cases c with same | ⟨_, below, code⟩
    · exact ⟨by rwa [same], rfl⟩
    · constructor
      · intro sigma
        rw [sigma] at code
        have : 'Σ'.toNat = 931 := rfl
        omega
      · rfl
  toLower_dot c mem := by
    rw [List.mem_singleton] at mem
    rcases toLower_cases c with same | ⟨above, _, code⟩
    · rw [mem, same]
    · rw [← mem] at code
      have : '.'.toNat = 46 := rfl
      omega
  toLower_sigma := by decide
  toLower_finalSigma := by decide

variable (ucd : UnicodeData)

/-- The first character that is not case-ignorable is cased. -/
def caseIgnorableThenCased (text : Text) : Bool :=
  match text.dropWhile ucd.caseIgnorable with
  | [] => false
  | c :: _ => ucd.cased c

/-- The lower case of a capital sigma; `before` is the text before it in
reverse. -/
def mapUppercaseSigma (before after : Text) : Char :=
  if ucd.caseIgnorableThenCased before && !ucd.caseIgnorableThenCased after then 'ς' else 'σ'

/-- `to_lowercase` of the rest of a text, after `before` in reverse. -/
def lowercaseAfter (before : Text) : Text → Text
  | [] => []
  | c :: rest =>
      (if c = 'Σ' then [ucd.mapUppercaseSigma before rest] else ucd.toLower c) ++
        lowercaseAfter (c :: before) rest

/-- `text.to_lowercase()` -/
def toLowercase (text : Text) : Text :=
  ucd.lowercaseAfter [] text

variable {ucd}

@[simp]
theorem toLowercase_nil : ucd.toLowercase [] = [] :=
  rfl

theorem lowercaseAfter_cons (before : Text) (c : Char) (rest : Text) :
    ucd.lowercaseAfter before (c :: rest) =
      (if c = 'Σ' then [ucd.mapUppercaseSigma before rest] else ucd.toLower c) ++
        ucd.lowercaseAfter (c :: before) rest :=
  rfl

theorem mapUppercaseSigma_cases (ucd : UnicodeData) (before after : Text) :
    ucd.mapUppercaseSigma before after = 'ς' ∨ ucd.mapUppercaseSigma before after = 'σ' := by
  rw [mapUppercaseSigma]
  split
  · exact .inl rfl
  · exact .inr rfl

@[simp]
theorem toLowercase_eq_nil_iff {text : Text} : ucd.toLowercase text = [] ↔ text = [] := by
  cases text with
  | nil => simp
  | cons c rest =>
      rw [toLowercase, lowercaseAfter_cons]
      by_cases sigma : c = 'Σ'
      · simp [sigma]
      · simp [sigma, ucd.toLower_ne_nil c]

/-- ASCII text is mapped character by character. -/
theorem toLowercase_ascii {text : Text} (ascii : ∀ c ∈ text, c.toNat < 128) :
    ucd.toLowercase text = text.map Char.toLower := by
  suffices general : ∀ before, ucd.lowercaseAfter before text = text.map Char.toLower from
    general []
  induction text with
  | nil => exact fun _ => rfl
  | cons c rest ih =>
      intro before
      have small : c.toNat < 128 := ascii c List.mem_cons_self
      have notSigma : c ≠ 'Σ' := by
        rintro rfl
        exact absurd small (by decide)
      rw [lowercaseAfter_cons, if_neg notSigma, ucd.toLower_ascii c small,
        ih fun d mem => ascii d (List.mem_cons_of_mem c mem)]
      rfl

/-- Lower-casing makes no dots. -/
theorem dot_not_mem_toLowercase {text : Text} (dotFree : '.' ∉ text) :
    '.' ∉ ucd.toLowercase text := by
  suffices general : ∀ before, '.' ∉ ucd.lowercaseAfter before text from general []
  induction text with
  | nil => exact fun _ => List.not_mem_nil
  | cons c rest ih =>
      intro before
      rw [List.mem_cons, not_or] at dotFree
      rw [lowercaseAfter_cons, List.mem_append, not_or]
      constructor
      · by_cases sigma : c = 'Σ'
        · rw [if_pos sigma, List.mem_singleton]
          rcases ucd.mapUppercaseSigma_cases before rest with final | inner
          · rw [final]
            decide
          · rw [inner]
            decide
        · rw [if_neg sigma]
          exact fun mem => dotFree.1 (ucd.toLower_dot c mem).symm
      · exact ih dotFree.2 _

/-- Lower-casing puts no dot at the end. -/
theorem getLast?_toLowercase {text : Text} (last : (ucd.toLowercase text).getLast? = some '.') :
    text.getLast? = some '.' := by
  suffices general : ∀ before, (ucd.lowercaseAfter before text).getLast? = some '.' →
      text.getLast? = some '.' from general [] last
  clear last
  induction text with
  | nil =>
      intro before last
      contradiction
  | cons c rest ih =>
      intro before last
      cases rest with
      | nil =>
          have mem := List.mem_of_getLast? last
          rw [lowercaseAfter_cons] at mem
          by_cases sigma : c = 'Σ'
          · rw [if_pos sigma] at mem
            rcases ucd.mapUppercaseSigma_cases before [] with final | inner
            · rw [final] at mem
              exact absurd mem (by simp [lowercaseAfter])
            · rw [inner] at mem
              exact absurd mem (by simp [lowercaseAfter])
          · rw [if_neg sigma] at mem
            have here : '.' ∈ ucd.toLower c := by simpa [lowercaseAfter] using mem
            rw [ucd.toLower_dot c here]
            rfl
      | cons next rest =>
          have nonempty : ucd.lowercaseAfter (c :: before) (next :: rest) ≠ [] := by
            rw [lowercaseAfter_cons]
            by_cases sigma : next = 'Σ'
            · simp [sigma]
            · simp [sigma, ucd.toLower_ne_nil]
          rw [List.getLast?_cons_cons]
          apply ih (c :: before)
          rw [← last, lowercaseAfter_cons before, List.getLast?_append_of_ne_nil _ nonempty]

/-- A character that lower-casing leaves alone. -/
def Stable (ucd : UnicodeData) (c : Char) : Prop :=
  c ≠ 'Σ' ∧ ucd.toLower c = [c]

/-- ASCII lower-casing leaves such a character alone as well. -/
theorem Stable.toLower_eq {c : Char} (stable : ucd.Stable c) : c.toLower = c := by
  by_cases ascii : c.toNat < 128
  · have same := stable.2
    rw [ucd.toLower_ascii c ascii] at same
    exact List.singleton_injective same
  · exact toLower_eq_self (by omega)

/-- Lower-casing yields characters that lower-casing leaves alone. -/
theorem stable_of_mem_toLowercase {text : Text} :
    ∀ c ∈ ucd.toLowercase text, ucd.Stable c := by
  suffices general : ∀ before, ∀ c ∈ ucd.lowercaseAfter before text, ucd.Stable c from general []
  induction text with
  | nil =>
      intro before c mem
      exact absurd mem List.not_mem_nil
  | cons first rest ih =>
      intro before c mem
      rw [lowercaseAfter_cons, List.mem_append] at mem
      rcases mem with here | later
      · by_cases sigma : first = 'Σ'
        · rw [if_pos sigma, List.mem_singleton] at here
          rcases ucd.mapUppercaseSigma_cases before rest with final | inner
          · rw [here, final]
            exact ⟨by decide, ucd.toLower_finalSigma⟩
          · rw [here, inner]
            exact ⟨by decide, ucd.toLower_sigma⟩
        · rw [if_neg sigma] at here
          exact ucd.toLower_stable first sigma c here
      · exact ih _ c later

theorem toLowercase_of_stable {text : Text} (stable : ∀ c ∈ text, ucd.Stable c) :
    ucd.toLowercase text = text := by
  suffices general : ∀ before, ucd.lowercaseAfter before text = text from general []
  induction text with
  | nil => exact fun _ => rfl
  | cons c rest ih =>
      intro before
      have here := stable c List.mem_cons_self
      rw [lowercaseAfter_cons, if_neg here.1, here.2,
        ih fun d mem => stable d (List.mem_cons_of_mem c mem)]
      rfl

end UnicodeData

end DnsHijacker.Rust
