import DnsHijacker.Wire.Message

/-!
# Responses and their TTLs

A response may have any number of questions.  `ResponseWith` gives the names of
its questions, each as its runs of labels, and the names and TTLs of its answer
records.
-/

namespace DnsHijacker.Wire

open DnsHijacker.Rust

/-- Questions that follow one another, with their names, and the offset just
past them. -/
inductive QuestionsAt (message : Bytes) : Nat → List (List (List Label)) → Nat → Prop where
  | done {offset : Nat} : QuestionsAt message offset [] offset
  | question {offset nameEnd stop : Nat} {runs : List (List Label)}
      {questions : List (List (List Label))} (name : NameAt message offset runs nameEnd)
      (inside : nameEnd + 4 ≤ message.length)
      (rest : QuestionsAt message (nameEnd + 4) questions stop) :
      QuestionsAt message offset (runs :: questions) stop

/-- What an answer record has besides its data. -/
structure Answer where
  runs : List (List Label)
  ttl : UInt32
  deriving DecidableEq

/-- Answer records that follow one another, and the offset just past them. -/
inductive AnswersAt (message : Bytes) : Nat → List Answer → Nat → Prop where
  | done {offset : Nat} : AnswersAt message offset [] offset
  | answer {offset nameEnd stop : Nat} {answer : Answer} {answers : List Answer}
      {rdlength : UInt16} (name : NameAt message offset answer.runs nameEnd)
      (ttl : Occurs message (nameEnd + 4) (u32ToBeBytes answer.ttl))
      (length : Occurs message (nameEnd + 8) (u16ToBeBytes rdlength))
      (inside : nameEnd + 10 + rdlength.toNat ≤ message.length)
      (rest : AnswersAt message (nameEnd + 10 + rdlength.toNat) answers stop) :
      AnswersAt message offset (answer :: answers) stop

/-- A response: a header with the QR bit, and as many questions and records as
the header counts. -/
structure ResponseWith (message : Bytes) (questions : List (List (List Label)))
    (answers : List Answer) : Prop where
  isResponse : ∃ flags, message[2]? = some flags ∧ 128 ≤ flags
  qdcount : ∃ count : UInt16, Occurs message 4 (u16ToBeBytes count) ∧
    count.toNat = questions.length
  ancount : ∃ count : UInt16, Occurs message 6 (u16ToBeBytes count) ∧
    count.toNat = answers.length
  sections : ∃ nscount arcount answersStart answersEnd,
    Occurs message 8 (u16ToBeBytes nscount) ∧ Occurs message 10 (u16ToBeBytes arcount) ∧
      QuestionsAt message 12 questions answersStart ∧
      AnswersAt message answersStart answers answersEnd ∧
      RecordsAt message answersEnd (nscount.toNat + arcount.toNat)

theorem AnswersAt.recordsAt {message : Bytes} {offset stop count : Nat} {answers : List Answer}
    (answersAt : AnswersAt message offset answers stop) (rest : RecordsAt message stop count) :
    RecordsAt message offset (answers.length + count) := by
  induction answersAt with
  | done =>
      rw [List.length_nil, Nat.zero_add]
      exact rest
  | answer name _ length inside _ ih =>
      rw [List.length_cons, Nat.add_right_comm]
      exact .record name length inside (ih rest)

/-- With one question it is a well-formed response. -/
theorem ResponseWith.wellFormed {message : Bytes} {question : List (List Label)}
    {answers : List Answer} (response : ResponseWith message [question] answers) :
    WellFormedResponse message := by
  rcases response.qdcount with ⟨qdcount, atFour, one⟩
  rcases response.ancount with ⟨ancount, atSix, counted⟩
  rcases response.sections with ⟨nscount, arcount, answersStart, answersEnd, atEight, atTen,
    questions, answersAt, records⟩
  have isOne : qdcount = 1 := UInt16.toNat_inj.mp one
  cases questions with
  | question name inside rest =>
      cases rest
      refine ⟨response.isResponse, isOne ▸ atFour, ancount, nscount, arcount, question, _, atSix,
        atEight, atTen, name, inside, ?_⟩
      rw [counted]
      exact answersAt.recordsAt records

theorem ResponseWith.twelve_le_length {message : Bytes} {questions : List (List (List Label))}
    {answers : List Answer} (response : ResponseWith message questions answers) :
    12 ≤ message.length := by
  rcases response.sections with ⟨_, arcount, _, _, _, atTen, _⟩
  exact atTen.add_length_le (by simp [u16ToBeBytes])

end DnsHijacker.Wire
