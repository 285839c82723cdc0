import DnsHijacker.Shared.CacheLifetime
import Mathlib.Order.Bounds.Defs

/-!
# The smallest TTL of the answers

The answer loop of `min_answer_ttl` goes from one record boundary to the next, and it carries the
smallest TTL so far.  `u32::MAX` stands for "none yet", so a record with that TTL counts as little
as one with TTL 0.
-/

namespace DnsHijacker.Shared

open DnsHijacker.Rust
open DnsHijacker.Wire
open DnsHijacker.Shared.Dns

/-- The TTLs that count. -/
def countedTtls (answers : List Answer) : Set UInt32 :=
  {ttl | ttl ∈ answers.map Answer.ttl ∧ 0 < ttl ∧ ttl < maxTtl}

/-! ## From boundary to boundary -/

/-- Between any two records there is a boundary. -/
theorem exists_boundary {message : Bytes} {offset stop : Nat} {first later : List Answer}
    (answersAt : AnswersAt message offset (first ++ later) stop) :
    ∃ boundary, AnswersAt message offset first boundary ∧ AnswersAt message boundary later stop := by
  induction first generalizing offset with
  | nil => exact ⟨offset, .done, answersAt⟩
  | cons answer first ih =>
      cases answersAt with
      | answer name ttl length inside rest =>
          obtain ⟨boundary, before, behind⟩ := ih rest
          exact ⟨boundary, .answer name ttl length inside before, behind⟩

variable {ucd : UnicodeData}

/-- After the first records the loop stands at the boundary behind them, with the smallest of their
TTLs. -/
theorem minTtlFrom_append {message : Bytes} {offset boundary : Nat} {first : List Answer}
    (firstAt : AnswersAt message offset first boundary)
    (utf8 : ∀ answer ∈ first, FirstRunUtf8 answer.runs) (more : Nat) (minTtl : UInt32) :
    minTtlFrom ucd message (first.length + more) offset minTtl =
      minTtlFrom ucd message more boundary ((positiveTtls first).foldl min minTtl) := by
  induction firstAt generalizing minTtl with
  | done => simp [positiveTtls]
  | @answer offset nameEnd stop answer answers rdlength name ttl length inside rest ih =>
      rw [List.forall_mem_cons] at utf8
      obtain ⟨result, parsed, atStop, readable⟩ := parseDomain_firstRun ucd name
      obtain ⟨⟨domain, found⟩, rfl⟩ := Option.isSome_iff_exists.mp (readable.mpr utf8.1)
      cases atStop domain found rfl
      rw [List.length_cons, Nat.add_right_comm, minTtlFrom, parsed]
      simp only [bind, Except.bind, pure, Except.pure]
      rw [if_neg (by omega), ttl.readU32_eq, length.readU16_eq]
      simp only
      rw [if_neg (by omega), ← Nat.add_assoc, ih utf8.2]
      by_cases positive : 0 < answer.ttl
      · simp [positiveTtls, positive]
      · simp [positiveTtls, positive]

/-! ## The smallest -/

theorem mem_positiveTtls {answers : List Answer} {ttl : UInt32} :
    ttl ∈ positiveTtls answers ↔ ttl ∈ answers.map Answer.ttl ∧ 0 < ttl := by
  rw [positiveTtls, List.mem_filter, decide_eq_true_eq]

/-- Without a TTL that is too large, the smallest positive TTL is the smallest that counts. -/
theorem isLeast_of_min? {answers : List Answer} {smallest : UInt32}
    (found : (positiveTtls answers).min? = some smallest) (small : smallest ≠ maxTtl) :
    IsLeast (countedTtls answers) smallest := by
  obtain ⟨mem, least⟩ := List.min?_eq_some_iff.mp found
  obtain ⟨here, positive⟩ := mem_positiveTtls.mp mem
  refine ⟨⟨here, positive, UInt32.lt_of_le_of_ne (le_maxTtl smallest) small⟩, ?_⟩
  rintro ttl ⟨there, counts, _⟩
  exact least ttl (mem_positiveTtls.mpr ⟨there, counts⟩)

/-- If it is too large, or there is none, no TTL counts. -/
theorem countedTtls_eq_empty {answers : List Answer}
    (none : ∀ smallest, (positiveTtls answers).min? = some smallest → smallest = maxTtl) :
    countedTtls answers = ∅ := by
  rw [Set.eq_empty_iff_forall_notMem]
  rintro ttl ⟨here, positive, small⟩
  have mem := mem_positiveTtls.mpr ⟨here, positive⟩
  obtain ⟨smallest, found⟩ := Option.isSome_iff_exists.mp
    (List.isSome_min?_of_mem mem : (positiveTtls answers).min?.isSome)
  have least := (List.min?_eq_some_iff.mp found).2 ttl mem
  rw [none smallest found] at least
  exact absurd (UInt32.lt_of_lt_of_le small least) (UInt32.lt_irrefl _)

theorem not_isLeast_of_eq_empty {answers : List Answer} (empty : countedTtls answers = ∅)
    (ttl : UInt32) : ¬ IsLeast (countedTtls answers) ttl := by
  rintro ⟨mem, _⟩
  rw [empty] at mem
  exact mem

theorem isLeast_unique {ttls : Set UInt32} {first later : UInt32} (here : IsLeast ttls first)
    (there : IsLeast ttls later) : first = later :=
  UInt32.le_antisymm (here.2 there.1) (there.2 here.1)

/-- The result of `min_answer_ttl` is the least TTL that counts. -/
theorem smallest_spec (answers : List Answer) {result : Option UInt32}
    (value : result =
      if (positiveTtls answers).min? ≠ some maxTtl then (positiveTtls answers).min? else none) :
    (∀ ttl, result = some ttl ↔ IsLeast (countedTtls answers) ttl) ∧
      (result = none ↔ countedTtls answers = ∅) := by
  subst value
  by_cases saturated : ∀ smallest, (positiveTtls answers).min? = some smallest → smallest = maxTtl
  · have empty := countedTtls_eq_empty saturated
    have absent : (if (positiveTtls answers).min? ≠ some maxTtl then
        (positiveTtls answers).min? else none) = none := by
      cases found : (positiveTtls answers).min? with
      | none => simp
      | some smallest => simp [saturated smallest found]
    rw [absent]
    exact ⟨fun ttl => iff_of_false (by simp) (not_isLeast_of_eq_empty empty ttl),
      iff_of_true rfl empty⟩
  · push Not at saturated
    obtain ⟨smallest, found, small⟩ := saturated
    have least := isLeast_of_min? found small
    rw [found, if_pos (by simpa using small)]
    refine ⟨fun ttl => ⟨?_, fun other => congrArg Option.some (isLeast_unique least other)⟩, ?_⟩
    · rintro ⟨⟩
      exact least
    · refine iff_of_false (by simp) fun empty => ?_
      exact not_isLeast_of_eq_empty empty smallest least

/-! ## The whole function -/

variable {message : Bytes} {question : List (List Label)} {answers : List Answer}

/-- What is returned for the result of the loop. -/
def afterLoop (result : Option UInt32) : Option UInt32 :=
  result.bind fun minTtl => if minTtl = maxTtl then none else some minTtl

/-- `min_answer_ttl` is its loop from the first answer on. -/
theorem minAnswerTtl_loop (response : ResponseWith message [question] answers)
    (utf8 : FirstRunUtf8 question) {start : Nat}
    (questions : QuestionsAt message 12 [question] start) :
    minAnswerTtl ucd message =
      (minTtlFrom ucd message answers.length start maxTtl).map afterLoop := by
  have long := response.twelve_le_length
  obtain ⟨ancount, atSix, counted⟩ := response.ancount
  rw [minAnswerTtl, if_neg (by omega), atSix.readU16_eq, ← counted]
  simp only [bind, Except.bind, pure, Except.pure]
  by_cases noAnswers : ancount = 0
  · rw [if_pos noAnswers, noAnswers]
    rfl
  · rw [if_neg noAnswers]
    cases questions with
    | @question _ nameEnd _ _ _ name inside rest =>
        cases rest
        obtain ⟨result, parsed, atStop, readable⟩ := parseDomain_firstRun ucd name
        obtain ⟨⟨domain, found⟩, rfl⟩ := Option.isSome_iff_exists.mp (readable.mpr utf8)
        cases atStop domain found rfl
        rw [parsed]
        simp only
        cases minTtlFrom ucd message ancount.toNat (nameEnd + 4) maxTtl with
        | error fault => rfl
        | ok result =>
            cases result with
            | none => rfl
            | some minTtl => rfl

variable (ucd) in
theorem minAnswerTtl_readable (response : ResponseWith message [question] answers)
    (utf8 : NamesUtf8 question answers) :
    minAnswerTtl ucd message =
      .ok (if (positiveTtls answers).min? ≠ some maxTtl then
        (positiveTtls answers).min? else none) := by
  rw [minAnswerTtl_eq ucd response, if_congr (and_iff_right utf8) rfl rfl]

/-- Whatever TTLs the other sections have, a response to one question whose names can be read has
the smallest TTL of its answers that is neither 0 nor the largest value, and none if there is no
such TTL.  The loop visits each answer record, from boundary to boundary, and no other record. -/
theorem minAnswerTtl_smallest (response : ResponseWith message [question] answers)
    (utf8 : NamesUtf8 question answers) :
    (∃ start stop, QuestionsAt message 12 [question] start ∧
      AnswersAt message start answers stop ∧
      minAnswerTtl ucd message =
        (minTtlFrom ucd message answers.length start maxTtl).map afterLoop ∧
      ∀ first later, answers = first ++ later → ∃ boundary,
        AnswersAt message start first boundary ∧ AnswersAt message boundary later stop ∧
        minTtlFrom ucd message answers.length start maxTtl =
          minTtlFrom ucd message later.length boundary ((positiveTtls first).foldl min maxTtl)) ∧
    (∃ result, minAnswerTtl ucd message = .ok result ∧
      (∀ ttl, result = some ttl ↔ IsLeast (countedTtls answers) ttl) ∧
      (result = none ↔ countedTtls answers = ∅)) ∧
    (∀ other otherQuestion otherAnswers, ResponseWith other [otherQuestion] otherAnswers →
      NamesUtf8 otherQuestion otherAnswers →
        otherAnswers.map Answer.ttl = answers.map Answer.ttl →
          minAnswerTtl ucd other = minAnswerTtl ucd message) := by
  have value := minAnswerTtl_readable ucd response utf8
  refine ⟨?_, ?_, ?_⟩
  · obtain ⟨_, _, start, stop, _, _, questions, answersAt, _⟩ := response.sections
    refine ⟨start, stop, questions, answersAt, minAnswerTtl_loop response utf8.1 questions, ?_⟩
    rintro first later rfl
    obtain ⟨boundary, firstAt, laterAt⟩ := exists_boundary answersAt
    refine ⟨boundary, firstAt, laterAt, ?_⟩
    rw [List.length_append]
    exact minTtlFrom_append firstAt
      (fun answer mem => utf8.2 answer (List.mem_append_left _ mem)) later.length maxTtl
  · exact ⟨_, value, smallest_spec answers rfl⟩
  · intro other otherQuestion otherAnswers otherResponse otherUtf8 same
    rw [minAnswerTtl_readable ucd otherResponse otherUtf8, value, positiveTtls, positiveTtls, same]

theorem minAnswerTtl_smallest_two :
    ∃ result, minAnswerTtl .ascii (ttlReply 60 0) = .ok result ∧
      (∀ ttl, result = some ttl ↔ IsLeast (countedTtls [⟨[[]], 60⟩, ⟨[[]], 0⟩]) ttl) ∧
      (result = none ↔ countedTtls [⟨[[]], 60⟩, ⟨[[]], 0⟩] = ∅) :=
  (minAnswerTtl_smallest (ttlReply_responseWith 60 0) (by decide)).2.1

end DnsHijacker.Shared
