import DnsHijacker.Worker.Merging

/-!
# The two readers of addresses

`extractARecords` of the worker and `parse_a_records` of the relay read the same answer sections.
Where the script reads on behind the end of a message, the relay stops.  That makes a difference
for one record at most, the last one: an address that is cut is no address for the relay, and a
text with `undefined` in it for the script.
-/

namespace DnsHijacker.Worker

open DnsHijacker.Rust

/-! ## Numbers -/

variable {packet : Bytes} {budget : Nat}

/-- The script and the relay read the same number. -/
theorem readU16_of_getUint16 {offset value : Nat} (read : getUint16 packet offset = .ok value) :
    ∃ number : UInt16, readU16 packet offset = .ok number ∧ number.toNat = value := by
  obtain ⟨high, low, first, second, rfl⟩ := getUint16_eq_ok_iff.mp read
  refine ⟨u16FromBeBytes high low, ?_, u16FromBeBytes_toNat high low⟩
  rw [readU16, index_eq_ok first, index_eq_ok second]
  rfl

/-! ## Addresses that are cut -/

/-- The texts of octets that are there have no letters. -/
theorem letter_not_mem_octetText (octet : UInt8) : 'u' ∉ octetText (some octet) := by
  have table : ∀ code : Fin 256, 'u' ∉ Nat.toDigits 10 code.val := by decide +kernel
  exact table ⟨octet.toNat, octet.toNat_lt⟩

theorem letter_not_mem_toText (ip : Ipv4Addr) : 'u' ∉ ip.toText := by
  rw [toText_eq]
  simp [letter_not_mem_octetText]

/-- An address whose last octet is missing is not the text of an address. -/
theorem ipText_ne_toText {offset : Nat} (cut : packet.length ≤ offset + 3) (ip : Ipv4Addr) :
    ip.toText ≠ ipText packet offset := by
  have undefined : 'u' ∈ octetText none := List.mem_cons_self
  have last : 'u' ∈ ipText packet offset := by
    rw [ipText, List.getElem?_eq_none cut]
    exact List.mem_append_right _ (List.mem_cons_of_mem _ (List.mem_append_right _
      (List.mem_cons_of_mem _ (List.mem_append_right _ (List.mem_cons_of_mem _ undefined)))))
  intro same
  rw [← same] at last
  exact letter_not_mem_toText ip last

/-- Four octets inside the message are an address. -/
theorem exists_octets {offset : Nat} (inside : offset + 4 ≤ packet.length) :
    ∃ ip : Ipv4Addr, Occurs packet offset ip.octets := by
  refine ⟨⟨packet[offset], packet[offset + 1], packet[offset + 2], packet[offset + 3]⟩, ?_⟩
  simp [Ipv4Addr.octets, occurs_cons, occurs_nil]

/-! ## The answer section -/

/-- What the script has read beyond what the relay reads: nothing, or an address that is cut. -/
def Cut (rest : List Text) : Prop :=
  rest = [] ∨ ∃ text, rest = [text] ∧ ∀ ip : Ipv4Addr, ip.toText ≠ text

/-- Behind the end of the message the script finds no further record. -/
theorem count_eq_zero_of_extractFrom {count offset : Nat} {texts : List Text}
    (outside : packet.length ≤ offset) (read : extractFrom budget packet count offset = .ok texts) :
    count = 0 := by
  cases count with
  | zero => rfl
  | succ count =>
      rw [extractFrom, skipName_of_outside outside] at read
      contradiction

theorem collectARecords_of_extractFrom (enough : packet.length < budget) {count offset : Nat}
    {texts : List Text} (read : extractFrom budget packet count offset = .ok texts) :
    ∃ ips rest, Shared.Dns.collectARecords packet count offset = .ok ips ∧
      texts = ips.map Ipv4Addr.toText ++ rest ∧ Cut rest := by
  induction count generalizing offset texts with
  | zero =>
      cases read
      exact ⟨[], [], rfl, rfl, .inl rfl⟩
  | succ count ih =>
      simp only [extractFrom, bind_eq_ok] at read
      obtain ⟨nameEnd, name, type, typeRead, rdlength, lengthRead, later, laterRead, returned⟩ := read
      rw [skipName_eq (by omega)] at name
      have skipped : Shared.Dns.skipName packet offset = some nameEnd := by
        cases found : Shared.Dns.skipName packet offset with
        | none => simp [found, endOf] at name
        | some stop =>
            rw [found] at name
            cases name
            rfl
      have fixed : ¬ nameEnd + 10 > packet.length := by
        have := lt_of_getUint16 lengthRead
        omega
      obtain ⟨rtype, rtypeRead, rfl⟩ := readU16_of_getUint16 typeRead
      obtain ⟨number, numberRead, rfl⟩ := readU16_of_getUint16 lengthRead
      have isAddress : rtype.toNat = 1 ↔ rtype = 1 := by
        rw [← UInt16.toNat_inj]
        rfl
      cases returned
      rw [Shared.Dns.collectARecords, skipped]
      simp only [if_neg fixed, rtypeRead, numberRead, bind, Except.bind, pure, Except.pure, isAddress]
      by_cases beyond : nameEnd + 10 + number.toNat > packet.length
      · -- The script has read on behind the end; this record is the last one.
        have last := count_eq_zero_of_extractFrom (Nat.le_of_lt beyond) laterRead
        subst last
        cases laterRead
        rw [if_pos beyond]
        by_cases address : rtype = 1 ∧ number.toNat = 4
        · refine ⟨[], [ipText packet (nameEnd + 10)], rfl, ?_, .inr ⟨_, rfl, ?_⟩⟩
          · rw [if_pos address]
            rfl
          · exact ipText_ne_toText (by omega)
        · refine ⟨[], [], rfl, ?_, .inl rfl⟩
          rw [if_neg address]
          rfl
      · obtain ⟨ips, rest, collected, texts, cut⟩ := ih laterRead
        rw [if_neg beyond, texts]
        by_cases address : rtype = 1 ∧ number.toNat = 4
        · obtain ⟨ip, octets⟩ := exists_octets (by omega : nameEnd + 10 + 4 ≤ packet.length)
          have text := ipText_of_occurs octets
          simp only [Ipv4Addr.octets, occurs_cons] at octets
          obtain ⟨a, b, c, d, _⟩ := octets
          refine ⟨ip :: ips, rest, ?_, ?_, cut⟩
          · simp only [if_pos address, index_eq_ok a, index_eq_ok b, index_eq_ok c, index_eq_ok d,
              collected]
            rfl
          · rw [if_pos address, text]
            rfl
        · refine ⟨ips, rest, ?_, ?_, cut⟩
          · simp only [if_neg address, collected]
            rfl
          · rw [if_neg address]
            rfl

/-- For every message that the script can read, the relay reads the same addresses in the same order;
only the script takes up what is left of an address that is cut, and that is the last one. -/
theorem parseARecords_of_extractARecords (packet : Bytes) {budget : Nat}
    (enough : packet.length < budget) {texts : List Text}
    (read : extractARecords budget packet = .ok texts) :
    ∃ ips rest, Shared.Dns.parseARecords packet = .ok ips ∧
      texts = ips.map Ipv4Addr.toText ++ rest ∧ Cut rest := by
  simp only [extractARecords, bind_eq_ok] at read
  obtain ⟨qdCount, questionCount, anCount, answerCount, questionEnd, questions, answers⟩ := read
  rw [skipQuestions_eq_ok_iff enough] at questions
  obtain ⟨qdcount, qdRead, rfl⟩ := readU16_of_getUint16 questionCount
  obtain ⟨ancount, anRead, rfl⟩ := readU16_of_getUint16 answerCount
  rw [Shared.Dns.parseARecords]
  by_cases short : packet.length < 12
  · -- Without a whole header there is nothing behind it to walk over.
    have none : ancount.toNat = 0 := by
      have outside := Shared.Dns.le_of_skipQuestions questions
      exact count_eq_zero_of_extractFrom (by omega) answers
    rw [none] at answers
    cases answers
    exact ⟨[], [], if_pos short, rfl, .inl rfl⟩
  · obtain ⟨ips, rest, collected, same, cut⟩ := collectARecords_of_extractFrom enough answers
    refine ⟨ips, rest, ?_, same, cut⟩
    simp only [if_neg short, qdRead, anRead, bind, Except.bind, questions, collected]

end DnsHijacker.Worker
