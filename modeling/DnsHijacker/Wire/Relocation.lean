import DnsHijacker.Wire.Decoding

/-!
# Moved sections

Octets that stand at another place in another message are read there as before, as far as names
are not continued by pointers: a pointer holds an absolute offset and is not moved along.
-/

namespace DnsHijacker.Wire

open DnsHijacker.Rust

/-- The octets from `here + lo` up to `here + hi` stand in the other message from `there + lo` on. -/
def Moves (source target : Bytes) (here there lo hi : Nat) : Prop :=
  ∀ i, lo ≤ i → i < hi → target[there + i]? = source[here + i]?

variable {source target : Bytes} {here there lo hi : Nat}
  {Continues : Nat → List Label → Prop}

theorem Moves.symm (moves : Moves source target here there lo hi) :
    Moves target source there here lo hi :=
  fun i above below => (moves i above below).symm

/-- Octets that are the same, one by one. -/
theorem occurs_of_getElem? {offset place : Nat} {bytes : Bytes}
    (same : ∀ i < bytes.length, target[place + i]? = source[offset + i]?)
    (occurs : Occurs source offset bytes) : Occurs target place bytes := by
  induction bytes generalizing offset place with
  | nil => exact occurs_nil _ _
  | cons byte bytes ih =>
      rw [occurs_cons] at occurs ⊢
      constructor
      · exact (same 0 (Nat.zero_lt_succ _)).trans occurs.1
      · apply ih _ occurs.2
        intro i inside
        rw [Nat.add_assoc, Nat.add_assoc, Nat.add_comm 1 i]
        exact same (i + 1) (Nat.succ_lt_succ inside)

theorem Moves.occurs (moves : Moves source target here there lo hi) {i : Nat} {bytes : Bytes}
    (above : lo ≤ i) (below : i + bytes.length ≤ hi) (occurs : Occurs source (here + i) bytes) :
    Occurs target (there + i) bytes := by
  apply occurs_of_getElem? _ occurs
  intro k inside
  rw [Nat.add_assoc, Nat.add_assoc]
  exact moves (i + k) (by omega) (by omega)

theorem Moves.name (moves : Moves source target here there lo hi) {i offset stop : Nat}
    {labels : List Label} (name : NameVia source Continues offset labels stop)
    (start : offset = here + i) (above : lo ≤ i) (below : stop ≤ here + hi) :
    ∃ j, stop = here + j ∧ i < j ∧ NameVia target Continues (there + i) labels (there + j) := by
  induction name generalizing i with
  | root occurs =>
      subst start
      exact ⟨i + 1, Nat.add_assoc _ _ _, Nat.lt_succ_self i,
        .root (moves.occurs above (Nat.add_le_add_iff_left.mp below) occurs)⟩
  | @label _ _ label _ occurs rest ih =>
      subst start
      have later := rest.lt
      obtain ⟨j, stopEq, behind, name⟩ := ih (Nat.add_assoc _ _ _) (by omega) below
      rw [← Nat.add_assoc] at name
      exact ⟨j, stopEq, by omega, .label (moves.occurs above (by omega) occurs) name⟩
  | pointer occurs small continued =>
      subst start
      exact ⟨i + 2, Nat.add_assoc _ _ _, by omega,
        .pointer (moves.occurs above (Nat.add_le_add_iff_left.mp below) occurs) small continued⟩

theorem Moves.questions (moves : Moves source target here there lo hi) {i offset stop : Nat}
    {questions : List DecodedQuestion} (sectionVia : QuestionsVia source Continues offset questions stop)
    (start : offset = here + i) (above : lo ≤ i) (below : stop ≤ here + hi) :
    ∃ j, stop = here + j ∧ QuestionsVia target Continues (there + i) questions (there + j) := by
  induction sectionVia generalizing i with
  | done =>
      subst start
      exact ⟨i, rfl, .done⟩
  | @question _ _ _ question _ name fixed rest ih =>
      have ended := rest.le
      obtain ⟨j, rfl, behind, moved⟩ := moves.name name start above (by omega)
      obtain ⟨last, stopEq, movedRest⟩ := ih (Nat.add_assoc _ _ _) (by omega) below
      rw [← Nat.add_assoc] at movedRest
      refine ⟨last, stopEq, .question moved (moves.occurs (by omega) ?_ fixed) movedRest⟩
      rw [question.length_fixed]
      omega

/-- Questions at the place they had. -/
theorem Moves.questions_in_place (moves : Moves source target 0 0 lo hi)
    {questions : List DecodedQuestion} (sectionVia : QuestionsVia source Continues lo questions hi) :
    QuestionsVia target Continues lo questions hi := by
  obtain ⟨stop, stopEq, moved⟩ := moves.questions sectionVia (Nat.zero_add lo).symm (Nat.le_refl lo)
    (Nat.zero_add hi).ge
  rw [Nat.zero_add, Nat.zero_add] at moved
  rw [Nat.zero_add] at stopEq
  rwa [← stopEq] at moved

theorem Moves.rdata (moves : Moves source target here there lo hi) {fields : List RdataField}
    {i offset stop : Nat} {parts : List RdataPart}
    (rdata : RdataVia source Continues fields offset parts stop)
    (start : offset = here + i) (above : lo ≤ i) (below : stop ≤ here + hi) :
    ∃ j, stop = here + j ∧ RdataVia target Continues fields (there + i) parts (there + j) := by
  induction rdata generalizing i with
  | @rest _ bytes occurs =>
      subst start
      refine ⟨i + bytes.length, Nat.add_assoc _ _ _, ?_⟩
      rw [← Nat.add_assoc]
      exact .rest (moves.occurs above (by omega) occurs)
  | octets occurs rest ih =>
      subst start
      have ended := rest.le
      obtain ⟨j, stopEq, moved⟩ := ih (Nat.add_assoc _ _ _) (by omega) below
      rw [← Nat.add_assoc] at moved
      exact ⟨j, stopEq, .octets (moves.occurs above (by omega) occurs) moved⟩
  | name name rest ih =>
      have ended := rest.le
      obtain ⟨j, rfl, behind, moved⟩ := moves.name name start above (by omega)
      obtain ⟨last, stopEq, movedRest⟩ := ih rfl (by omega) below
      exact ⟨last, stopEq, .name moved movedRest⟩

theorem Moves.records (moves : Moves source target here there lo hi) {i offset stop : Nat}
    {records : List DecodedRecord} (sectionVia : RecordsVia source Continues offset records stop)
    (start : offset = here + i) (above : lo ≤ i) (below : stop ≤ here + hi)
    (room : there + hi ≤ target.length) :
    ∃ j, stop = here + j ∧ RecordsVia target Continues (there + i) records (there + j) := by
  induction sectionVia generalizing i with
  | done =>
      subst start
      exact ⟨i, rfl, .done⟩
  | @record _ _ _ record _ rdlength owner fixed inside rdata rest ih =>
      have ended := rest.le
      have later := rdata.le
      obtain ⟨j, rfl, behind, movedOwner⟩ := moves.name owner start above (by omega)
      obtain ⟨dataEnd, dataEq, movedData⟩ :=
        moves.rdata rdata (Nat.add_assoc _ _ _) (by omega) (by omega)
      have dataLength : dataEnd = j + 10 + rdlength.toNat := by omega
      obtain ⟨last, stopEq, movedRest⟩ := ih dataEq (by omega) below
      have place : there + dataEnd = there + j + 10 + rdlength.toNat := by omega
      rw [← Nat.add_assoc, place] at movedData
      rw [place] at movedRest
      refine ⟨last, stopEq, .record movedOwner (moves.occurs (by omega) ?_ fixed) (by omega) movedData
        movedRest⟩
      rw [record.length_fixed]
      omega

/-- Records that move as a whole. -/
theorem Moves.records_whole {length : Nat} (moves : Moves source target here there 0 length)
    {records : List DecodedRecord}
    (sectionVia : RecordsVia source Continues here records (here + length))
    (room : there + length ≤ target.length) :
    RecordsVia target Continues there records (there + length) := by
  obtain ⟨stop, stopEq, moved⟩ := moves.records sectionVia (Nat.add_zero here).symm (Nat.le_refl 0)
    (Nat.le_refl _) room
  rw [← Nat.add_left_cancel stopEq, Nat.add_zero] at moved
  exact moved

/-! ## Names that stay -/

/-- A name is spelled with octets that have the property. -/
inductive SpelledWithin (message : Bytes) (Stays : Nat → Prop) : Nat → List Label → Prop where
  | root {offset : Nat} (here : Occurs message offset [0]) (stays : Stays offset) :
      SpelledWithin message Stays offset []
  | label {offset : Nat} {label : Label} {labels : List Label}
      (here : Occurs message offset label.encode)
      (stays : ∀ i < label.encode.length, Stays (offset + i))
      (rest : SpelledWithin message Stays (offset + label.encode.length) labels) :
      SpelledWithin message Stays offset (label :: labels)
  | pointer {offset target : Nat} {labels : List Label}
      (here : Occurs message offset (pointerBytes target)) (small : target < 0x4000)
      (stays : Stays offset ∧ Stays (offset + 1))
      (rest : SpelledWithin message Stays target labels) :
      SpelledWithin message Stays offset labels

/-- Where the octets that stay are the same, so are the names. -/
theorem SpelledWithin.spelled {Stays : Nat → Prop}
    (same : ∀ i, Stays i → target[i]? = source[i]?) {offset : Nat} {labels : List Label}
    (name : SpelledWithin source Stays offset labels) : Spelled target offset labels := by
  induction name with
  | root here stays =>
      refine ⟨[[]], _, .root (occurs_of_getElem? ?_ here), rfl⟩
      intro i inside
      cases Nat.lt_one_iff.mp inside
      exact same _ stays
  | label here stays _ ih =>
      obtain ⟨runs, stop, nameAt, rfl⟩ := ih
      cases runs with
      | nil => exact absurd rfl nameAt.runs_ne_nil
      | cons run runs =>
          exact ⟨(_ :: run) :: runs, stop,
            .label (occurs_of_getElem? (fun i inside => same _ (stays i inside)) here) nameAt, rfl⟩
  | pointer here small stays _ ih =>
      obtain ⟨runs, stop, nameAt, rfl⟩ := ih
      refine ⟨[] :: runs, _, .pointer (occurs_of_getElem? ?_ here) small nameAt, rfl⟩
      intro i inside
      rcases Nat.le_one_iff_eq_zero_or_eq_one.mp (Nat.le_of_lt_succ inside) with rfl | rfl
      · exact same _ stays.1
      · exact same _ stays.2

end DnsHijacker.Wire
