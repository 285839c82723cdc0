import DnsHijacker.Shared.Dns.MessageSpec
import DnsHijacker.Worker.Packet
import Mathlib.Order.Filter.AtTopBot.Basic

/-!
# Which packets keep the worker busy for ever

An index behind the end of an array is no error in the script: it gives `undefined`, and a length
that is `undefined` makes the offset `NaN`, which no further turn of the loop changes.  So
`skipName` ends exactly where a name ends inside the packet, which is where `skip_name` of the
relay, with its bounds check, finds an end.
-/

namespace DnsHijacker.Worker

open DnsHijacker.Rust

/-- `getQuestionType`; `undefined` counts as zero in the arithmetic of octets. -/
def getQuestionType (budget : Nat) (packet : Bytes) : Js Nat := do
  let offset ← skipName packet budget (some 12)
  let octet (index : Nat) : Nat := (packet[index]?.map UInt8.toNat).getD 0
  return octet offset <<< 8 ||| octet (offset + 1)

/-! ## Turns enough -/

/-- The call returns or throws, with all numbers of turns that are large enough in the same way. -/
def Ends {α : Type} (call : Nat → Js α) : Prop :=
  ∃ result, result ≠ .error .running ∧ ∀ᶠ budget in Filter.atTop, call budget = result

theorem ends_iff {α : Type} {call : Nat → Js α} {enough : Nat}
    (stable : ∀ budget, enough ≤ budget → call budget = call enough) :
    Ends call ↔ call enough ≠ .error .running := by
  have settled : ∀ᶠ budget in Filter.atTop, call budget = call enough :=
    Filter.eventually_atTop.mpr ⟨enough, stable⟩
  constructor
  · rintro ⟨result, ended, comes⟩
    obtain ⟨budget, here, there⟩ := (comes.and settled).exists
    rwa [← there, here]
  · intro ended
    exact ⟨call enough, ended, settled⟩

/-- What a walk over names comes to: without an end it goes on for ever. -/
def endOf : Option Nat → Js Nat
  | some stop => .ok stop
  | none => .error .running

/-- After an index that is not a number the loop does nothing but go on. -/
theorem skipName_none (packet : Bytes) (budget : Nat) :
    skipName packet budget none = .error .running := by
  induction budget with
  | zero => rfl
  | succ budget ih => exact ih

theorem skipName_of_outside {packet : Bytes} {pos : Nat} (outside : packet.length ≤ pos)
    (budget : Nat) : skipName packet budget (some pos) = .error .running := by
  cases budget with
  | zero => rfl
  | succ budget =>
      rw [skipName, List.getElem?_eq_none outside]
      exact skipName_none packet budget

/-- The loop of the script ends where `skip_name` does, and nowhere else. -/
theorem skipName_eq {packet : Bytes} {pos budget : Nat} (enough : packet.length - pos < budget) :
    skipName packet budget (some pos) = endOf (Shared.Dns.skipName packet pos) := by
  fun_induction Shared.Dns.skipName packet pos generalizing budget with
  | case1 pos outside => exact skipName_of_outside outside budget
  | case2 pos here len =>
      rename_i root
      have found := List.getElem?_eq_getElem (Nat.lt_of_not_ge here)
      cases budget with
      | zero => contradiction
      | succ budget =>
          rw [skipName, found]
          exact if_pos root
  | case3 pos here len label =>
      rename_i pointer
      have found := List.getElem?_eq_getElem (Nat.lt_of_not_ge here)
      cases budget with
      | zero => contradiction
      | succ budget =>
          rw [skipName, found]
          exact (if_neg label).trans (if_pos pointer)
  | case4 pos here len label plain =>
      rename_i ih
      have found := List.getElem?_eq_getElem (Nat.lt_of_not_ge here)
      cases budget with
      | zero => contradiction
      | succ budget =>
          have inside := Nat.lt_of_not_ge here
          have later := ih (show packet.length - (pos + (1 + len)) < budget by omega)
          rw [Nat.add_comm 1 len] at later
          rw [skipName, found, Nat.add_comm 1]
          exact (if_neg label).trans ((if_neg plain).trans later)

variable {packet : Bytes} {budget : Nat}

theorem skipQuestions_eq (enough : packet.length < budget) (count pos : Nat) :
    skipQuestions budget packet count pos = endOf (Shared.Dns.skipQuestions packet count pos) := by
  induction count generalizing pos with
  | zero => rfl
  | succ count ih =>
      rw [skipQuestions, Shared.Dns.skipQuestions, skipName_eq (by omega)]
      cases Shared.Dns.skipName packet pos with
      | none => rfl
      | some nameEnd => exact ih (nameEnd + 4)

theorem skipQuestions_eq_ok_iff (enough : packet.length < budget) {count pos stop : Nat} :
    skipQuestions budget packet count pos = .ok stop ↔
      Shared.Dns.skipQuestions packet count pos = some stop := by
  rw [skipQuestions_eq enough]
  cases Shared.Dns.skipQuestions packet count pos <;> simp [endOf]

/-- A name ends inside the packet: from label to label it comes to a zero octet or a pointer. -/
inductive NameEnds (packet : Bytes) : Nat → Nat → Prop
  | root {offset : Nat} {len : UInt8} (found : packet[offset]? = some len) (zero : len.toNat = 0) :
      NameEnds packet offset (offset + 1)
  | pointer {offset : Nat} {len : UInt8} (found : packet[offset]? = some len)
      (flags : len.toNat &&& 0xC0 = 0xC0) : NameEnds packet offset (offset + 2)
  | label {offset stop : Nat} {len : UInt8} (found : packet[offset]? = some len)
      (positive : len.toNat ≠ 0) (plain : ¬ len.toNat &&& 0xC0 = 0xC0)
      (rest : NameEnds packet (offset + (1 + len.toNat)) stop) : NameEnds packet offset stop

/-- Every name that a walk over so many records comes to has an end.  A record whose fixed part is
cut is the last one: the script throws there. -/
def AnswersEnd (packet : Bytes) : Nat → Nat → Prop
  | 0, _ => True
  | count + 1, offset =>
      ∃ nameEnd, NameEnds packet offset nameEnd ∧
        ∀ rdlength, getUint16 packet (nameEnd + 8) = .ok rdlength →
          AnswersEnd packet count (nameEnd + 10 + rdlength)

/-- So has every name of a walk over so many questions, and of one over the records behind them. -/
def NamesEnd (packet : Bytes) (records : Nat) : Nat → Nat → Prop
  | 0, offset => AnswersEnd packet records offset
  | count + 1, offset =>
      ∃ nameEnd, NameEnds packet offset nameEnd ∧ NamesEnd packet records count (nameEnd + 4)

/-- The names of the questions and the answers, as far as they are walked over, have an end. -/
def SectionsEnd (packet : Bytes) : Prop :=
  ∀ qdCount anCount, getUint16 packet 4 = .ok qdCount → getUint16 packet 6 = .ok anCount →
    NamesEnd packet anCount qdCount 12

theorem nameEnds_iff {offset stop : Nat} :
    Shared.Dns.skipName packet offset = some stop ↔ NameEnds packet offset stop := by
  constructor
  · intro skipped
    induction offset using Shared.Dns.skipName.induct packet with
    | case1 pos outside =>
        rw [Shared.Dns.skipName, dif_pos outside] at skipped
        contradiction
    | case2 pos here len root =>
        have found := List.getElem?_eq_getElem (Nat.lt_of_not_ge here)
        rw [Shared.Dns.skipName_eq found, if_pos root] at skipped
        cases skipped
        exact .root found root
    | case3 pos here len label flags =>
        have found := List.getElem?_eq_getElem (Nat.lt_of_not_ge here)
        rw [Shared.Dns.skipName_eq found, if_neg label, if_pos flags] at skipped
        cases skipped
        exact .pointer found flags
    | case4 pos here len label plain ih =>
        have found := List.getElem?_eq_getElem (Nat.lt_of_not_ge here)
        rw [Shared.Dns.skipName_eq found, if_neg label, if_neg plain] at skipped
        exact .label found label plain (ih skipped)
  · intro ends
    induction ends with
    | root found zero => rw [Shared.Dns.skipName_eq found, if_pos zero]
    | pointer found flags =>
        have positive : ¬ UInt8.toNat _ = 0 := fun zero => by rw [zero] at flags; contradiction
        rw [Shared.Dns.skipName_eq found, if_neg positive, if_pos flags]
    | label found positive plain _ ih =>
        rw [Shared.Dns.skipName_eq found, if_neg positive, if_neg plain, ih]

/-- A call that goes on from the end of a name comes to an end if there is one, and it does then. -/
theorem endOf_bind_ends_iff {α : Type} {offset : Nat} {next : Nat → Js α} :
    (endOf (Shared.Dns.skipName packet offset) >>= next) ≠ .error .running ↔
      ∃ nameEnd, NameEnds packet offset nameEnd ∧ next nameEnd ≠ .error .running := by
  simp only [← nameEnds_iff]
  cases Shared.Dns.skipName packet offset with
  | none => simp [endOf, bind, Except.bind]
  | some nameEnd => simp [endOf, bind, Except.bind]

theorem getUint16_ne_running (packet : Bytes) (offset : Nat) :
    getUint16 packet offset ≠ .error .running := by
  rw [getUint16]
  split <;> simp

theorem getUint16_eq_ok_iff {offset value : Nat} :
    getUint16 packet offset = .ok value ↔ ∃ high low, packet[offset]? = some high ∧
      packet[offset + 1]? = some low ∧ value = high.toNat * 256 + low.toNat := by
  rw [getUint16]
  cases packet[offset]? <;> cases packet[offset + 1]? <;> simp [eq_comm]

theorem lt_of_getUint16 {offset value : Nat} (read : getUint16 packet offset = .ok value) :
    offset + 1 < packet.length := by
  obtain ⟨_, _, _, found, _⟩ := getUint16_eq_ok_iff.mp read
  exact (List.getElem?_eq_some_iff.mp found).1

theorem exists_getUint16 {offset : Nat} (inside : offset + 1 < packet.length) :
    ∃ value, getUint16 packet offset = .ok value :=
  ⟨_, getUint16_eq_ok_iff.mpr ⟨_, _, List.getElem?_eq_getElem (Nat.lt_of_succ_lt inside),
    List.getElem?_eq_getElem inside, rfl⟩⟩

/-- A read does not keep the call running, and what follows it runs with the number read. -/
theorem getUint16_bind_ends_iff {α : Type} {offset : Nat} {next : Nat → Js α} :
    (getUint16 packet offset >>= next) ≠ .error .running ↔
      ∀ value, getUint16 packet offset = .ok value → next value ≠ .error .running := by
  have ended := getUint16_ne_running packet offset
  cases read : getUint16 packet offset with
  | error fault =>
      rw [read] at ended
      simpa [bind, Except.bind] using ended
  | ok value => simp [bind, Except.bind]

theorem skipAnswers_ends_iff (enough : packet.length < budget) (count offset : Nat) :
    skipAnswers budget packet count offset ≠ .error .running ↔ AnswersEnd packet count offset := by
  induction count generalizing offset with
  | zero => simp [skipAnswers, AnswersEnd]
  | succ count ih =>
      rw [skipAnswers, AnswersEnd, skipName_eq (by omega), endOf_bind_ends_iff]
      simp only [getUint16_bind_ends_iff, ih, Nat.add_assoc]

theorem extractFrom_ends_iff (enough : packet.length < budget) (count offset : Nat) :
    extractFrom budget packet count offset ≠ .error .running ↔ AnswersEnd packet count offset := by
  induction count generalizing offset with
  | zero => simp [extractFrom, AnswersEnd]
  | succ count ih =>
      have rest : ∀ (here : List Text) (next : Nat),
          (do return here ++ (← extractFrom budget packet count next)) ≠
            (.error .running : Js (List Text)) ↔ AnswersEnd packet count next := by
        intro here next
        rw [← ih]
        cases extractFrom budget packet count next <;> simp [bind, Except.bind, pure, Except.pure]
      rw [extractFrom, AnswersEnd, skipName_eq (by omega), endOf_bind_ends_iff]
      simp only [getUint16_bind_ends_iff, rest]
      refine exists_congr fun nameEnd => and_congr_right fun _ => ?_
      constructor
      · intro ended rdlength read
        -- where the last octets of the fixed part can be read, the first can
        have inside := lt_of_getUint16 read
        obtain ⟨type, typeRead⟩ := exists_getUint16 (by omega : nameEnd + 1 < packet.length)
        exact ended type typeRead rdlength read
      · intro ended _ _ rdlength read
        exact ended rdlength read

theorem skipQuestions_ends_iff (enough : packet.length < budget) {records : Nat}
    {α : Type} {next : Nat → Js α}
    (later : ∀ offset, next offset ≠ .error .running ↔ AnswersEnd packet records offset)
    (count offset : Nat) :
    (skipQuestions budget packet count offset >>= next) ≠ .error .running ↔
      NamesEnd packet records count offset := by
  induction count generalizing offset with
  | zero => exact later offset
  | succ count ih =>
      rw [skipQuestions, NamesEnd, skipName_eq (by omega), bind_assoc, endOf_bind_ends_iff]
      simp only [ih]

/-! ## No more turns change the result -/

theorem skipAnswers_stable {more : Nat} (enough : packet.length < budget)
    (moreEnough : packet.length < more) (count offset : Nat) :
    skipAnswers more packet count offset = skipAnswers budget packet count offset := by
  induction count generalizing offset with
  | zero => rfl
  | succ count ih =>
      rw [skipAnswers, skipAnswers, skipName_eq (by omega), skipName_eq (by omega)]
      simp only [ih]

theorem extractFrom_stable {more : Nat} (enough : packet.length < budget)
    (moreEnough : packet.length < more) (count offset : Nat) :
    extractFrom more packet count offset = extractFrom budget packet count offset := by
  induction count generalizing offset with
  | zero => rfl
  | succ count ih =>
      rw [extractFrom, extractFrom, skipName_eq (by omega), skipName_eq (by omega)]
      simp only [ih]

theorem extractARecords_stable {more : Nat} (enough : packet.length < budget)
    (moreEnough : packet.length < more) :
    extractARecords more packet = extractARecords budget packet := by
  rw [extractARecords, extractARecords]
  simp only [skipQuestions_eq enough, skipQuestions_eq moreEnough,
    extractFrom_stable enough moreEnough]

theorem rewriteAnswersWithIps_stable {more : Nat} (enough : packet.length < budget)
    (moreEnough : packet.length < more) (ips : List Text) :
    rewriteAnswersWithIps more packet ips = rewriteAnswersWithIps budget packet ips := by
  rw [rewriteAnswersWithIps, rewriteAnswersWithIps]
  simp only [skipQuestions_eq enough, skipQuestions_eq moreEnough,
    skipAnswers_stable enough moreEnough]

theorem buildARecords_ne_running (ips : List Text) :
    buildARecords ips ≠ .error .running := by
  induction ips with
  | nil => simp [buildARecords]
  | cons ip ips ih =>
      rw [buildARecords, buildARecord]
      split
      · simp [bind, Except.bind]
      · cases rest : buildARecords ips with
        | error fault =>
            rw [rest] at ih
            simpa [bind, Except.bind] using ih
        | ok records => simp [bind, Except.bind, pure, Except.pure]

/-! ## The walkers -/

theorem skipName_ends_iff (packet : Bytes) (offset : Option Nat) :
    Ends (skipName packet · offset) ↔
      ∃ start stop, offset = some start ∧ NameEnds packet start stop := by
  cases offset with
  | none =>
      have stable (budget : Nat) (_ : 0 ≤ budget) :
          skipName packet budget none = skipName packet 0 none := by
        rw [skipName_none, skipName_none]
      rw [ends_iff stable]
      simp [skipName_none]
  | some start =>
      have stable (budget : Nat) (enough : packet.length + 1 ≤ budget) :
          skipName packet budget (some start) = skipName packet (packet.length + 1) (some start) := by
        rw [skipName_eq (by omega), skipName_eq (by omega)]
      rw [ends_iff stable, skipName_eq (by omega)]
      simp only [Option.some.injEq, exists_and_left, exists_eq_left', ← nameEnds_iff]
      cases Shared.Dns.skipName packet start <;> simp [endOf]

theorem getQuestionType_ends_iff (packet : Bytes) :
    Ends (getQuestionType · packet) ↔ ∃ stop, NameEnds packet 12 stop := by
  have stable (budget : Nat) (enough : packet.length + 1 ≤ budget) :
      getQuestionType budget packet = getQuestionType (packet.length + 1) packet := by
    rw [getQuestionType, getQuestionType, skipName_eq (by omega), skipName_eq (by omega)]
  rw [ends_iff stable, getQuestionType, skipName_eq (by omega), endOf_bind_ends_iff]
  simp [pure, Except.pure]

theorem extractARecords_ne_running_iff (packet : Bytes) :
    extractARecords (packet.length + 1) packet ≠ .error .running ↔ SectionsEnd packet := by
  rw [extractARecords, SectionsEnd]
  simp only [getUint16_bind_ends_iff]
  refine forall_congr' fun qdCount => ⟨fun ended anCount questions answers => ?_,
    fun ended questions anCount answers => ?_⟩
  · have walked := ended questions anCount answers
    rwa [skipQuestions_ends_iff (Nat.lt_succ_self _)
      (extractFrom_ends_iff (Nat.lt_succ_self _) anCount)] at walked
  · rw [skipQuestions_ends_iff (Nat.lt_succ_self _)
      (extractFrom_ends_iff (Nat.lt_succ_self _) anCount)]
    exact ended anCount questions answers

theorem extractARecords_ends_iff (packet : Bytes) :
    Ends (extractARecords · packet) ↔ SectionsEnd packet := by
  have stable (budget : Nat) (enough : packet.length + 1 ≤ budget) :
      extractARecords budget packet = extractARecords (packet.length + 1) packet :=
    extractARecords_stable (Nat.lt_succ_self _) enough
  rw [ends_iff stable, extractARecords_ne_running_iff]

theorem rewriteAnswersWithIps_ends_iff (packet : Bytes) (ips : List Text) :
    Ends (rewriteAnswersWithIps · packet ips) ↔ packet.length < 12 ∨ SectionsEnd packet := by
  have later (anCount nsCount arCount qdEnd : Nat) :
      (do
        let answersEnd ← skipAnswers (packet.length + 1) packet anCount qdEnd
        let tail := packet.drop answersEnd
        let header := slice packet 0 12
        let question := slice packet 12 qdEnd
        let answers ← buildARecords ips
        return setCounts header ips.length nsCount arCount ++ question ++ answers ++ tail) ≠
          (.error .running : Js Bytes) ↔ AnswersEnd packet anCount qdEnd := by
    rw [← skipAnswers_ends_iff (Nat.lt_succ_self _)]
    have built := buildARecords_ne_running ips
    cases skipAnswers (packet.length + 1) packet anCount qdEnd with
    | error fault => simp [bind, Except.bind]
    | ok answersEnd =>
        cases answers : buildARecords ips with
        | error fault =>
            rw [answers] at built
            simpa [bind, Except.bind] using built
        | ok records => simp [bind, Except.bind, pure, Except.pure]
  have stable (budget : Nat) (enough : packet.length + 1 ≤ budget) :
      rewriteAnswersWithIps budget packet ips = rewriteAnswersWithIps (packet.length + 1) packet ips :=
    rewriteAnswersWithIps_stable (Nat.lt_succ_self _) enough ips
  rw [ends_iff stable, rewriteAnswersWithIps]
  simp only [getUint16_bind_ends_iff,
    skipQuestions_ends_iff (Nat.lt_succ_self _) (later _ _ _)]
  constructor
  · intro ended
    rcases Nat.lt_or_ge packet.length 12 with short | long
    · exact .inl short
    · refine .inr fun qdCount anCount questions answers => ?_
      obtain ⟨nsCount, authority⟩ := exists_getUint16 (by omega : 8 + 1 < packet.length)
      obtain ⟨arCount, additional⟩ := exists_getUint16 (by omega : 10 + 1 < packet.length)
      exact ended qdCount questions anCount answers nsCount authority arCount additional
  · rintro (short | sections) qdCount questions anCount answers nsCount authority arCount additional
    · exact absurd (lt_of_getUint16 additional) (by omega)
    · exact sections qdCount anCount questions answers

/-- Which calls of the walkers come to an end.  A name that runs past the end of the packet keeps
the loop of `skipName` going, and with it every call that comes to the name. -/
theorem walkers_end_iff (packet : Bytes) :
    (∀ offset, Ends (skipName packet · offset) ↔
      ∃ start stop, offset = some start ∧ NameEnds packet start stop) ∧
    (Ends (getQuestionType · packet) ↔ ∃ stop, NameEnds packet 12 stop) ∧
    (Ends (extractARecords · packet) ↔ SectionsEnd packet) ∧
    (∀ ips, Ends (rewriteAnswersWithIps · packet ips) ↔
      packet.length < 12 ∨ SectionsEnd packet) :=
  ⟨skipName_ends_iff packet, getQuestionType_ends_iff packet, extractARecords_ends_iff packet,
    rewriteAnswersWithIps_ends_iff packet⟩

/-- A header that announces a question, and nothing behind it. -/
def headerOnly : Bytes :=
  [0x00, 0x01, 0x81, 0x80, 0x00, 0x01, 0x00, 0x00, 0x00, 0x00, 0x00, 0x00]

theorem headerOnly_never_ends :
    ¬ Ends (skipName headerOnly · (some 12)) ∧ ¬ Ends (getQuestionType · headerOnly) ∧
      ¬ Ends (extractARecords · headerOnly) ∧ ¬ Ends (rewriteAnswersWithIps · headerOnly []) := by
  have outside : ¬ ∃ stop, NameEnds headerOnly 12 stop := by
    rintro ⟨stop, ends⟩
    cases ends <;> contradiction
  have questions : getUint16 headerOnly 4 = .ok 1 := by rfl
  have answers : getUint16 headerOnly 6 = .ok 0 := by rfl
  have sections : ¬ SectionsEnd headerOnly := by
    intro sections
    obtain ⟨stop, ends, _⟩ := sections 1 0 questions answers
    exact outside ⟨stop, ends⟩
  refine ⟨?_, ?_, ?_, ?_⟩
  · rw [skipName_ends_iff]
    rintro ⟨start, stop, same, ends⟩
    cases same
    exact outside ⟨stop, ends⟩
  · rwa [getQuestionType_ends_iff]
  · rwa [extractARecords_ends_iff]
  · rw [rewriteAnswersWithIps_ends_iff]
    rintro (short | ends)
    · exact absurd short (by decide)
    · exact sections ends

end DnsHijacker.Worker
