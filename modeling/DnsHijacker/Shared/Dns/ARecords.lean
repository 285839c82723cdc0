import DnsHijacker.Shared.Dns.Returns
import DnsHijacker.Shared.Dns.Sections

/-!
# The addresses of a reply

`parse_a_records` reads the addresses of the answer section and nothing else.  A
reply that is cut off gives the first of its addresses.
-/

namespace DnsHijacker.Shared.Dns

open DnsHijacker.Rust
open DnsHijacker.Wire

/-- `parse_a_records` on an encoded packet: the addresses of the A records among the answers,
in order. -/
theorem parseARecords_packet (packet : Packet) :
    parseARecords packet.encode = .ok (packet.answers.filterMap aRecord) := by
  obtain ⟨readQd, readAn, _⟩ := readU16_counts packet
  obtain ⟨questions, records⟩ := occurs_append.mp packet.occurs_middle
  rw [encodeRecords_append, occurs_append] at records
  have skipped := skipQuestions_forms questions
  rw [← toNat_ofNat_of_short packet.questions_short] at skipped
  exact parseARecords_of_occurs packet.twelve_le_length packet.answers_short readQd readAn skipped
    records.1

/-! ## A reply that is cut off -/

section

variable {message reply : Bytes}

theorem skipName_of_isPrefix (same : Occurs reply 0 message) {pos stop : Nat}
    (skipped : skipName message pos = some stop) : skipName reply pos = some stop :=
  (skipName_of_occurs_drop same (Nat.zero_le pos) skipped).1

theorem readU16_of_isPrefix (same : Occurs reply 0 message) {pos : Nat} {value : UInt16}
    (read : readU16 message pos = .ok value) : readU16 reply pos = .ok value :=
  readU16_of_occurs_drop same (Nat.zero_le pos) read

theorem index_of_isPrefix (same : Occurs reply 0 message) {pos : Nat}
    (inside : pos < message.length) : index reply pos = index message pos := by
  rw [index_of_lt inside]
  exact index_eq_ok (getElem?_of_occurs_drop same (Nat.zero_le pos)
    (List.getElem?_eq_getElem inside))

/-- The answer loop on a longer buffer finds the same addresses first. -/
theorem collectARecords_of_isPrefix (same : Occurs reply 0 message) (count pos : Nat) :
    ∃ cut whole, collectARecords message count pos = .ok cut ∧
      collectARecords reply count pos = .ok whole ∧ cut <+: whole := by
  have longer := List.IsPrefix.length_le same
  rw [List.drop_zero] at longer
  induction count generalizing pos with
  | zero => exact ⟨[], [], rfl, rfl, List.prefix_rfl⟩
  | succ count ih =>
      obtain ⟨whole, collected⟩ := collectARecords_returns reply (count + 1) pos
      cases skipped : skipName message pos with
      | none =>
          rw [collectARecords, skipped]
          exact ⟨[], whole, rfl, collected, List.nil_prefix⟩
      | some nameEnd =>
          rw [collectARecords, skipped]
          dsimp only
          by_cases cut : nameEnd + 10 > message.length
          · rw [if_pos cut]
            exact ⟨[], whole, rfl, collected, List.nil_prefix⟩
          obtain ⟨rtype, typeRead⟩ := readU16_returns (by omega : nameEnd + 2 ≤ message.length)
          obtain ⟨rdlength, lengthRead⟩ :=
            readU16_returns (by omega : nameEnd + 8 + 2 ≤ message.length)
          rw [if_neg cut, typeRead, lengthRead]
          simp only [bind, Except.bind, pure, Except.pure]
          by_cases short : nameEnd + 10 + rdlength.toNat > message.length
          · rw [if_pos short]
            exact ⟨[], whole, rfl, collected, List.nil_prefix⟩
          have replyFixed : ¬ nameEnd + 10 > reply.length := by omega
          have replyData : ¬ nameEnd + 10 + rdlength.toNat > reply.length := by omega
          obtain ⟨rest, others, restRead, othersRead, shorter⟩ :=
            ih (nameEnd + 10 + rdlength.toNat)
          rw [if_neg short, restRead, collectARecords, skipName_of_isPrefix same skipped]
          dsimp only
          rw [if_neg replyFixed, readU16_of_isPrefix same typeRead,
            readU16_of_isPrefix same lengthRead]
          simp only [bind, Except.bind, pure, Except.pure]
          rw [if_neg replyData, othersRead]
          by_cases isA : rtype = 1 ∧ rdlength.toNat = 4
          · rw [if_pos isA, if_pos isA, index_of_isPrefix same (by omega),
              index_of_isPrefix same (by omega), index_of_isPrefix same (by omega),
              index_of_isPrefix same (by omega), index_of_lt (by omega), index_of_lt (by omega),
              index_of_lt (by omega), index_of_lt (by omega)]
            exact ⟨_, _, rfl, rfl, (List.prefix_append_right_inj _).mpr shorter⟩
          · rw [if_neg isA, if_neg isA]
            exact ⟨_, _, rfl, rfl, shorter⟩

theorem skipQuestions_of_isPrefix (same : Occurs reply 0 message) {count pos stop : Nat}
    (skipped : skipQuestions message count pos = some stop) :
    skipQuestions reply count pos = some stop :=
  (skipQuestions_of_occurs_drop same (Nat.zero_le pos) skipped).1

end

/-- `parse_a_records` finds the first addresses of a reply in what is left of the reply. -/
theorem parseARecords_take (buf : Bytes) (n : Nat) :
    ∃ cut whole, parseARecords (buf.take n) = .ok cut ∧ parseARecords buf = .ok whole ∧
      cut <+: whole := by
  have same : Occurs buf 0 (buf.take n) := List.take_prefix n buf
  obtain ⟨whole, parsed⟩ := parseARecords_returns buf
  by_cases short : (buf.take n).length < 12
  · rw [parseARecords, if_pos short]
    exact ⟨[], whole, rfl, parsed, List.nil_prefix⟩
  have longer : (buf.take n).length ≤ buf.length := (List.take_prefix n buf).length_le
  obtain ⟨qdcount, readQd⟩ := readU16_returns (by omega : 4 + 2 ≤ (buf.take n).length)
  obtain ⟨ancount, readAn⟩ := readU16_returns (by omega : 6 + 2 ≤ (buf.take n).length)
  rw [parseARecords, if_neg short, readQd, readAn]
  simp only [bind, Except.bind]
  cases skipped : skipQuestions (buf.take n) qdcount.toNat 12 with
  | none => exact ⟨[], whole, rfl, parsed, List.nil_prefix⟩
  | some start =>
      rw [parseARecords, if_neg (by omega), readU16_of_isPrefix same readQd,
        readU16_of_isPrefix same readAn]
      simp only [bind, Except.bind, skipQuestions_of_isPrefix same skipped]
      exact collectARecords_of_isPrefix same ancount.toNat start

end DnsHijacker.Shared.Dns
