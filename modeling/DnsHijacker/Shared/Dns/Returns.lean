import DnsHijacker.Shared.Dns.MessageSpec

/-!
# Calls that return

No reader indexes outside its buffer, so the only way not to return is the
recursion of `parse_domain`.
-/

namespace DnsHijacker.Shared.Dns

open DnsHijacker.Rust
open DnsHijacker.Wire

variable {ucd : UnicodeData}

theorem craftRedirectResponse_returns (payload : Bytes) (qnameEnd : Nat) (ipsStr : List Text) :
    Returns (craftRedirectResponse payload qnameEnd ipsStr) := by
  rw [craftRedirectResponse]
  split
  · exact returns_ok none
  simp only [bind, Except.bind, pure, Except.pure]
  split
  · exact returns_ok none
  · next inside =>
      rw [slice_eq_ok (by omega) (by omega), slice_eq_ok (by omega) (by omega)]
      dsimp only
      split
      · exact returns_ok none
      · exact returns_ok _

/-! ## A records -/

theorem collectARecords_returns (buf : Bytes) (count pos : Nat) :
    Returns (collectARecords buf count pos) := by
  induction count generalizing pos with
  | zero => exact returns_ok _
  | succ count ih =>
      rw [collectARecords]
      cases skipName buf pos with
      | none => exact returns_ok _
      | some nameEnd =>
          dsimp only
          split
          · exact returns_ok _
          · next inside =>
              rcases readU16_returns (by omega : nameEnd + 2 ≤ buf.length) with ⟨rtype, read⟩
              rcases readU16_returns (by omega : nameEnd + 8 + 2 ≤ buf.length) with
                ⟨rdlength, readLength⟩
              simp only [read, readLength, bind, Except.bind, pure, Except.pure]
              split
              · exact returns_ok _
              · next dataInside =>
                  rcases ih (nameEnd + 10 + rdlength.toNat) with ⟨rest, collected⟩
                  by_cases isA : rtype = 1 ∧ rdlength.toNat = 4
                  · rw [if_pos isA, index_of_lt (by omega), index_of_lt (by omega),
                      index_of_lt (by omega), index_of_lt (by omega), collected]
                    exact returns_ok _
                  · rw [if_neg isA, collected]
                    exact returns_ok _

/-- `parse_a_records` always returns. -/
theorem parseARecords_returns (buf : Bytes) : Returns (parseARecords buf) := by
  rw [parseARecords]
  split
  · exact returns_ok _
  · next long =>
      rcases readU16_returns (by omega : 4 + 2 ≤ buf.length) with ⟨qdcount, readQd⟩
      rcases readU16_returns (by omega : 6 + 2 ≤ buf.length) with ⟨ancount, readAn⟩
      simp only [readQd, readAn, bind, Except.bind]
      cases skipQuestions buf qdcount.toNat 12 with
      | none => exact returns_ok _
      | some pos => exact collectARecords_returns buf ancount.toNat pos

/-! ## TTLs -/

/-- The answer loop of `min_answer_ttl` comes to an offset with so many records
left. -/
inductive AnswersLeft (ucd : UnicodeData) (packet : Bytes) : Nat → Nat → Prop where
  | first {ancount : UInt16} {domain : Text} {nameEnd : Nat}
      (read : readU16 packet 6 = .ok ancount)
      (parsed : parseDomain ucd packet 12 = .ok (some (domain, nameEnd))) :
      AnswersLeft ucd packet ancount.toNat (nameEnd + 4)
  | next {count offset nameEnd : Nat} {domain : Text} {rdlength : UInt16}
      (here : AnswersLeft ucd packet (count + 1) offset)
      (parsed : parseDomain ucd packet offset = .ok (some (domain, nameEnd)))
      (fixed : nameEnd + 10 ≤ packet.length)
      (read : readU16 packet (nameEnd + 8) = .ok rdlength)
      (data : nameEnd + (10 + rdlength.toNat) ≤ packet.length) :
      AnswersLeft ucd packet count (nameEnd + (10 + rdlength.toNat))

/-- The answer loop returns from an offset if no record it comes to begins with
a pointer loop. -/
theorem minTtlFrom_returns {packet : Bytes}
    (loopFree : ∀ count offset, AnswersLeft ucd packet (count + 1) offset →
      ¬ PointerLoop packet offset)
    {count offset : Nat} (here : AnswersLeft ucd packet count offset) (minTtl : UInt32) :
    Returns (minTtlFrom ucd packet count offset minTtl) := by
  induction count generalizing offset minTtl with
  | zero => exact returns_ok _
  | succ count ih =>
      rcases (parseDomain_returns_iff ucd).mpr (loopFree count offset here) with ⟨name, parsed⟩
      rw [minTtlFrom, parsed]
      simp only [bind, Except.bind]
      cases name with
      | none => exact returns_ok none
      | some name =>
          rcases name with ⟨domain, nameEnd⟩
          dsimp only
          split
          · exact returns_ok none
          · next fixed =>
              rcases readU32_returns (by omega : nameEnd + 4 + 4 ≤ packet.length) with ⟨ttl, readTtl⟩
              rcases readU16_returns (by omega : nameEnd + 8 + 2 ≤ packet.length) with
                ⟨rdlength, readLength⟩
              simp only [readTtl, readLength]
              split
              · exact returns_ok none
              · next data =>
                  exact ih (.next here parsed (Nat.le_of_not_lt fixed) readLength
                    (Nat.le_of_not_lt data)) _

/-- A loop that returned has read the name it stood at, and returned from the
next record. -/
theorem returns_of_minTtlFrom_succ {packet : Bytes} {count offset : Nat} {minTtl : UInt32}
    (returned : Returns (minTtlFrom ucd packet (count + 1) offset minTtl)) :
    Returns (parseDomain ucd packet offset) ∧
      ∀ domain nameEnd rdlength, parseDomain ucd packet offset = .ok (some (domain, nameEnd)) →
        nameEnd + 10 ≤ packet.length → readU16 packet (nameEnd + 8) = .ok rdlength →
        nameEnd + (10 + rdlength.toNat) ≤ packet.length →
        ∃ minTtl, Returns (minTtlFrom ucd packet count (nameEnd + (10 + rdlength.toNat)) minTtl) := by
  rw [minTtlFrom, returns_bind] at returned
  rcases returned with ⟨name, parsed, rest⟩
  constructor
  · exact ⟨name, parsed⟩
  · intro domain nameEnd rdlength same fixed readLength data
    rw [parsed] at same
    cases same
    rcases readU32_returns (by omega : nameEnd + 4 + 4 ≤ packet.length) with ⟨ttl, readTtl⟩
    dsimp only at rest
    rw [if_neg (Nat.not_lt.mpr fixed), readTtl, readLength] at rest
    simp only [bind, Except.bind] at rest
    rw [if_neg (Nat.not_lt.mpr data)] at rest
    exact ⟨_, rest⟩

/-- A loop that returns from the first record returns from every offset it comes
to. -/
theorem AnswersLeft.returns {packet : Bytes}
    (started : ∀ ancount domain nameEnd, readU16 packet 6 = .ok ancount →
      parseDomain ucd packet 12 = .ok (some (domain, nameEnd)) →
        Returns (minTtlFrom ucd packet ancount.toNat (nameEnd + 4) maxTtl))
    {count offset : Nat} (here : AnswersLeft ucd packet count offset) :
    ∃ minTtl, Returns (minTtlFrom ucd packet count offset minTtl) := by
  induction here with
  | first read parsed => exact ⟨maxTtl, started _ _ _ read parsed⟩
  | next _ parsed fixed readLength data ih =>
      rcases ih with ⟨minTtl, before⟩
      exact (returns_of_minTtlFrom_succ before).2 _ _ _ parsed fixed readLength data

/-- `min_answer_ttl` returns exactly when it looks at no name, or neither the
question nor an answer it comes to begins with a pointer loop. -/
theorem minAnswerTtl_returns_iff (ucd : UnicodeData) (packet : Bytes) :
    Returns (minAnswerTtl ucd packet) ↔
      packet.length < 12 ∨ readU16 packet 6 = .ok 0 ∨
        ¬ PointerLoop packet 12 ∧
          ∀ count offset, AnswersLeft ucd packet (count + 1) offset →
            ¬ PointerLoop packet offset := by
  rw [minAnswerTtl]
  by_cases short : packet.length < 12
  · rw [if_pos short]
    simp [pure, Except.pure, short]
  rcases readU16_returns (by omega : 6 + 2 ≤ packet.length) with ⟨ancount, read⟩
  rw [if_neg short, read]
  simp only [bind, Except.bind]
  by_cases noAnswers : ancount = 0
  · rw [if_pos noAnswers]
    simp [pure, Except.pure, noAnswers]
  rw [if_neg noAnswers]
  constructor
  · intro returned
    right
    right
    cases parsed : parseDomain ucd packet 12 with
    | error fault => simp [parsed] at returned
    | ok name =>
        have question : ¬ PointerLoop packet 12 := (parseDomain_returns_iff ucd).mp ⟨name, parsed⟩
        have started : ∀ ancount domain nameEnd, readU16 packet 6 = .ok ancount →
            parseDomain ucd packet 12 = .ok (some (domain, nameEnd)) →
              Returns (minTtlFrom ucd packet ancount.toNat (nameEnd + 4) maxTtl) := by
          intro _ domain nameEnd sameCount sameName
          rw [read] at sameCount
          rw [parsed] at sameName
          cases sameCount
          cases sameName
          simp only [parsed] at returned
          cases result : minTtlFrom ucd packet ancount.toNat (nameEnd + 4) maxTtl with
          | error fault => simp [result] at returned
          | ok value => exact returns_ok value
        constructor
        · exact question
        · intro count offset here
          rcases here.returns started with ⟨minTtl, before⟩
          exact (parseDomain_returns_iff ucd).mp (returns_of_minTtlFrom_succ before).1
  · rintro (tooShort | none_counted | ⟨question, loopFree⟩)
    · exact absurd tooShort short
    · exact absurd (Except.ok.inj none_counted) noAnswers
    · rcases (parseDomain_returns_iff ucd).mpr question with ⟨name, parsed⟩
      simp only [parsed]
      cases name with
      | none => exact returns_ok none
      | some name =>
          rcases name with ⟨domain, nameEnd⟩
          rcases minTtlFrom_returns loopFree (.first read parsed) maxTtl with ⟨minTtl, found⟩
          simp only [found]
          cases minTtl <;> exact returns_ok _

theorem not_pointerLoop_of_nameAt {packet : Bytes} {offset stop : Nat} {runs : List (List Label)}
    (nameAt : NameAt packet offset runs stop) : ¬ PointerLoop packet offset := by
  rcases parseDomain_stop .ascii nameAt with ⟨result, parsed, _⟩
  exact (parseDomain_returns_iff .ascii).mp ⟨result, parsed⟩

/-! ## Well-formed responses -/

/-- In a well-formed response the answer loop stays with its records. -/
theorem AnswersLeft.recordsAt {packet : Bytes} (wellFormed : WellFormedResponse packet)
    {count offset : Nat} (here : AnswersLeft ucd packet count offset) :
    RecordsAt packet offset count := by
  induction here with
  | first read parsed =>
      rcases wellFormed.sections with
        ⟨ancount, nscount, arcount, runs, nameEnd, counted, _, _, name, _, records⟩
      rcases parseDomain_stop ucd name with ⟨result, readName, stop⟩
      rw [counted.readU16_eq] at read
      rw [readName] at parsed
      cases read
      cases parsed
      cases stop _ _ rfl
      exact records.take
  | next _ parsed _ read _ ih =>
      cases ih with
      | record name length inside rest =>
          rcases parseDomain_stop ucd name with ⟨result, readName, stop⟩
          rw [readName] at parsed
          cases parsed
          cases stop _ _ rfl
          rw [length.readU16_eq] at read
          cases read
          rw [Nat.add_assoc] at rest
          exact rest

/-- `min_answer_ttl` returns on a well-formed response. -/
theorem minAnswerTtl_returns_of_wellFormed {packet : Bytes}
    (wellFormed : WellFormedResponse packet) : Returns (minAnswerTtl ucd packet) := by
  rw [minAnswerTtl_returns_iff]
  right
  right
  constructor
  · rcases wellFormed.sections with ⟨_, _, _, runs, nameEnd, _, _, _, name, _⟩
    exact not_pointerLoop_of_nameAt name
  · intro count offset here
    cases here.recordsAt wellFormed with
    | record name => exact not_pointerLoop_of_nameAt name

end DnsHijacker.Shared.Dns
