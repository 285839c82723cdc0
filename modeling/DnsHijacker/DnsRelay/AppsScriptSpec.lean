import DnsHijacker.DnsRelay.AppsScript

/-!
# Whose reply the hop returns

The script's cache knows names but not types.  A reply fetched for one type is
returned for every other type of the same name as long as its entry lives, and
that is the only way in which a query gets a reply to another question.
-/

namespace DnsHijacker.DnsRelay.AppsScript

open DnsHijacker.Rust
open DnsHijacker.Library
open DnsHijacker.Wire
open DnsHijacker.Shared

variable {ucd : UnicodeData} {aead : Aead} {hmac : Hmac} {workerUrl : Text}

/-! ## Tags -/

/-- Names in lower case with the same tag are the same. -/
theorem name_eq_of_tag_eq {first second : Text} (firstStable : ∀ c ∈ first, ucd.Stable c)
    (secondStable : ∀ c ∈ second, ucd.Stable c)
    (same : cacheKeyForDomain hmac first = cacheKeyForDomain hmac second) : first = second := by
  have lower : ∀ {name : Text}, (∀ c ∈ name, ucd.Stable c) → name.map Char.toLower = name := by
    intro name stable
    calc
      name.map Char.toLower = name.map id :=
        List.map_congr_left fun c mem => (stable c mem).toLower_eq
      _ = name := List.map_id name
  have sameLower := hmac.injective same
  rw [lower firstStable, lower secondStable] at sameLower
  exact sameLower

/-! ## The script's cache -/

/-- The client makes of the value a reply to the question. -/
def IsReply (ucd : UnicodeData) (aead : Aead) (question : CacheKey) (value : Text) : Prop :=
  ∃ reply, readResponse aead (dataResponse value) = .ok reply ∧ AnswersKey ucd question reply

theorem IsReply.ne_nil {question : CacheKey} {value : Text}
    (isReply : IsReply ucd aead question value) : value ≠ [] := by
  rintro rfl
  rcases isReply with ⟨reply, read, _⟩
  have tooShort : aead.decodeFromRelay [] = none := rfl
  simp [readResponse, dataResponse, Base64.decode, tooShort] at read

theorem readResponse_encode {content reply : Bytes}
    (decoded : aead.decodeFromRelay content = some reply) :
    readResponse aead (dataResponse (Base64.encode content)) = .ok reply := by
  simp [readResponse, dataResponse, Base64.decode_encode, decoded]

/-- A request is never empty. -/
theorem makeRequest_nonempty (domain : Text) (nonce : Nonce) (dnsQuery : Bytes) :
    ((makeRequest aead hmac domain nonce dnsQuery).k.isEmpty ||
      (makeRequest aead hmac domain nonce dnsQuery).data.isEmpty) = false := by
  have tag : cacheKeyForDomain hmac domain ≠ [] := hmac.nonempty _
  have data : Base64.encode (aead.encodeForRelay nonce.bytes dnsQuery) ≠ [] := by
    intro empty
    have decoded := Base64.decode_encode (aead.encodeForRelay nonce.bytes dnsQuery)
    rw [empty] at decoded
    have nothing := Option.some.inj decoded
    have short := congrArg List.length nothing
    rw [Aead.encodeForRelay, List.length_append, nonce.twelve, List.length_nil] at short
    omega
  simp [makeRequest, tag, data]

theorem tag_of_cacheGet {entries : List Entry} {tag : Text} {now : Nat} {entry : Entry}
    (found : cacheGet entries tag now = some entry) : entry.tag = tag := by
  have live := List.find?_some found
  simp only [decide_eq_true_eq] at live
  exact live.1

/-- A live entry is the response. -/
theorem doPost_hit {entries : List Entry} {domain : Text} {nonce : Nonce} {dnsQuery : Bytes}
    {now : Nat} {entry : Entry}
    (found : cacheGet entries (cacheKeyForDomain hmac domain) now = some entry)
    (nonempty : entry.value ≠ []) :
    doPost workerUrl entries (makeRequest aead hmac domain nonce dnsQuery) now =
      .respond (dataResponse entry.value) := by
  have sameTag : (makeRequest aead hmac domain nonce dnsQuery).k =
      cacheKeyForDomain hmac domain := rfl
  have kept : (some entry).filter (!·.value.isEmpty) = some entry := by simp [nonempty]
  rw [doPost, makeRequest_nonempty, sameTag, found, kept]
  rfl

/-- Without a live entry the script reports an error or asks the worker what it
was sent. -/
theorem doPost_miss (aead : Aead) (workerUrl : Text) (nonce : Nonce) (dnsQuery : Bytes)
    {entries : List Entry} {domain : Text} {now : Nat}
    (missing : cacheGet entries (cacheKeyForDomain hmac domain) now = none) :
    (∃ message, doPost workerUrl entries (makeRequest aead hmac domain nonce dnsQuery) now =
      .respond (errorResponse message)) ∨
    doPost workerUrl entries (makeRequest aead hmac domain nonce dnsQuery) now =
      .fetch (aead.encodeForRelay nonce.bytes dnsQuery) := by
  have sameTag : (makeRequest aead hmac domain nonce dnsQuery).k =
      cacheKeyForDomain hmac domain := rfl
  have sent : (makeRequest aead hmac domain nonce dnsQuery).data =
      Base64.encode (aead.encodeForRelay nonce.bytes dnsQuery) := rfl
  rw [doPost, makeRequest_nonempty, sameTag, missing, sent, Base64.decode_encode]
  by_cases unset : workerUrl.isEmpty
  · left
    exact ⟨"worker url not configured".toList, by simp [unset]⟩
  · right
    simp [unset]

/-- After the call of the worker nothing is stored and the response is an error,
or its content is stored and returned. -/
theorem doPostFetched_cases (entries : List Entry) (tag : Text) (question : CacheKey)
    (fetched : Except Text HttpResponse) (now : Nat) :
    (∃ message, doPostFetched entries tag question fetched now =
      (errorResponse message, entries)) ∨
    ∃ content, fetched = .ok ⟨200, content⟩ ∧
      doPostFetched entries tag question fetched now =
        (dataResponse (Base64.encode content), cachePut entries
          ⟨tag, Base64.encode content, now + cacheTtlSeconds * second, question⟩) := by
  cases fetched with
  | error err => exact .inl ⟨err, rfl⟩
  | ok response =>
      rcases response with ⟨code, content⟩
      rw [doPostFetched]
      by_cases success : code = 200
      · right
        subst success
        exact ⟨content, rfl, rfl⟩
      · left
        exact ⟨_, by rw [if_pos success]⟩

/-! ## The invariant -/

/-- Every entry holds a reply to the question it was fetched for, under the tag
of that question's name; every packet on its way to the worker is the query it
was made from. -/
structure Consistent (ucd : UnicodeData) (aead : Aead) (hmac : Hmac) (system : System) : Prop where
  entries : ∀ entry ∈ system.entries, entry.tag = cacheKeyForDomain hmac entry.question.name ∧
    (∀ c ∈ entry.question.name, ucd.Stable c) ∧ IsReply ucd aead entry.question entry.value
  fetching : ∀ query ∈ system.fetching, query.tag = cacheKeyForDomain hmac query.question.name ∧
    (∀ c ∈ query.question.name, ucd.Stable c) ∧
    ∃ payload, aead.decodeFromRelay query.packet = some payload ∧
      cacheKeyFromQuery ucd payload = .ok (some query.question)

/-- All replies that came back answer their queries. -/
def AllAnswered (ucd : UnicodeData) (system : System) : Prop :=
  ∀ done ∈ system.served, ∀ reply, done.result = .ok reply → AnswersKey ucd done.question reply

/-- If the script has a live entry under the tag of a query, and the client hears
of it, the entry was fetched for a query of the same type. -/
def SameType (hmac : Hmac) (system : System) : Event ucd aead → Prop
  | .query _ payload _ failure now => failure = none →
      ∀ question, cacheKeyFromQuery ucd payload = .ok (some question) →
        ∀ entry, cacheGet system.entries (cacheKeyForDomain hmac question.name) now = some entry →
          entry.question.qtype = question.qtype
  | _ => True

/-- An honest worker's content is a reply to the question. -/
theorem Consistent.isReply {system : System} (consistent : Consistent ucd aead hmac system)
    {query : Fetching} (mem : query ∈ system.fetching) {worker : Worker ucd aead}
    {content : Bytes} (answered : worker.answer query.packet = .ok ⟨200, content⟩) :
    IsReply ucd aead query.question (Base64.encode content) := by
  rcases consistent.fetching query mem with ⟨_, _, payload, decoded, key⟩
  rcases worker.honest query.packet payload query.question content decoded key answered with
    ⟨reply, decodedReply, answers⟩
  exact ⟨reply, readResponse_encode decodedReply, answers⟩

/-- A hit: what comes back is the reply to the question of the entry. -/
theorem answersKey_of_hit {question : CacheKey} {entry : Entry}
    (stable : ∀ c ∈ question.name, ucd.Stable c)
    (tag : entry.tag = cacheKeyForDomain hmac entry.question.name)
    (entryStable : ∀ c ∈ entry.question.name, ucd.Stable c)
    (sameTag : entry.tag = cacheKeyForDomain hmac question.name) {reply : Bytes}
    (answers : AnswersKey ucd entry.question reply) :
    AnswersKey ucd question reply ↔ entry.question.qtype = question.qtype := by
  constructor
  · intro answersToo
    have same := answers.1.symm.trans answersToo.1
    rw [Except.ok.injEq, Option.some.injEq] at same
    rw [same]
  · intro sameType
    have sameName : entry.question.name = question.name :=
      name_eq_of_tag_eq entryStable stable (tag.symm.trans sameTag)
    have same : entry.question = question := by
      cases entryQuestion : entry.question
      cases question
      simp only [entryQuestion] at sameName sameType
      subst sameName
      subst sameType
      rfl
    exact same ▸ answers

/-- One more reply. -/
theorem allAnswered_cons {system after : System} {question : CacheKey}
    {result : Except Error Bytes} (served : after.served = ⟨question, result⟩ :: system.served) :
    AllAnswered ucd after ↔
      AllAnswered ucd system ∧ ∀ reply, result = .ok reply → AnswersKey ucd question reply := by
  rw [AllAnswered, served, List.forall_mem_cons, and_comm]
  rfl

theorem heard_errorResponse (failure : Option Error) (message : Text) (reply : Bytes) :
    heard aead failure (errorResponse message) ≠ .ok reply := by
  cases failure <;> simp [heard, errorResponse, readResponse]

/-- What a client hears of a hit answers its query exactly if the entry was
fetched for the type of the query. -/
theorem heard_entry_iff {question : CacheKey} {entry : Entry}
    (stable : ∀ c ∈ question.name, ucd.Stable c)
    (tag : entry.tag = cacheKeyForDomain hmac entry.question.name)
    (entryStable : ∀ c ∈ entry.question.name, ucd.Stable c)
    (sameTag : entry.tag = cacheKeyForDomain hmac question.name)
    (isReply : IsReply ucd aead entry.question entry.value) (failure : Option Error) :
    (∀ reply, heard aead failure (dataResponse entry.value) = .ok reply →
      AnswersKey ucd question reply) ↔
      (failure = none → entry.question.qtype = question.qtype) := by
  rcases isReply with ⟨entryReply, read, answers⟩
  rw [← answersKey_of_hit stable tag entryStable sameTag answers]
  cases failure with
  | some error => simp [heard]
  | none =>
      rw [heard, read]
      simp

/-- The condition on a query, by the question it has. -/
theorem sameType_query_iff {system : System} {id : Nat} {payload : Bytes} {nonce : Nonce}
    {failure : Option Error} {now : Nat} {question : CacheKey}
    (key : cacheKeyFromQuery ucd payload = .ok (some question)) :
    SameType hmac system (.query id payload nonce failure now : Event ucd aead) ↔
      (failure = none → ∀ entry,
        cacheGet system.entries (cacheKeyForDomain hmac question.name) now = some entry →
          entry.question.qtype = question.qtype) := by
  constructor
  · intro sameType unfailed
    exact sameType unfailed question key
  · intro sameType unfailed other otherKey
    have same : other = question := by
      rw [key, Except.ok.injEq, Option.some.injEq] at otherKey
      exact otherKey.symm
    rw [same]
    exact sameType unfailed

/-- A query keeps the invariant, and it keeps all replies right exactly if the
entry it meets has its type. -/
theorem query_exact {system after : System} {id : Nat} {payload : Bytes} {nonce : Nonce}
    {failure : Option Error} {now : Nat} (consistent : Consistent ucd aead hmac system)
    (stepped : step ucd aead hmac workerUrl system (.query id payload nonce failure now) =
      some after) :
    Consistent ucd aead hmac after ∧
      (AllAnswered ucd after ↔ AllAnswered ucd system ∧
        SameType hmac system (.query id payload nonce failure now : Event ucd aead)) := by
  rw [step] at stepped
  split at stepped
  · contradiction
  split at stepped
  · next question key =>
      have stable := stable_of_cacheKeyFromQuery key
      rw [sameType_query_iff key]
      cases found : cacheGet system.entries (cacheKeyForDomain hmac question.name) now with
      | some entry =>
          rcases consistent.entries entry (List.mem_of_find?_eq_some found) with
            ⟨tag, entryStable, isReply⟩
          simp only [doPost_hit found isReply.ne_nil, Option.some.injEq] at stepped
          subst stepped
          constructor
          · exact ⟨consistent.entries, consistent.fetching⟩
          · rw [allAnswered_cons rfl,
              heard_entry_iff stable tag entryStable (tag_of_cacheGet found) isReply]
            simp only [Option.some.injEq, forall_eq']
      | none =>
          rcases doPost_miss aead workerUrl nonce payload found with
            ⟨message, responded⟩ | fetches
          · simp only [responded, Option.some.injEq] at stepped
            subst stepped
            constructor
            · exact ⟨consistent.entries, consistent.fetching⟩
            · rw [allAnswered_cons rfl]
              simp [heard_errorResponse]
          · simp only [fetches, Option.some.injEq] at stepped
            subst stepped
            constructor
            · constructor
              · exact consistent.entries
              · intro query mem
                rcases List.mem_cons.mp mem with rfl | old
                · exact ⟨rfl, stable, payload,
                    Aead.decodeFromRelay_encodeForRelay nonce.twelve payload, key⟩
                · exact consistent.fetching query old
            · simp [AllAnswered]
  · contradiction

/-- A response of the worker keeps the invariant and all replies right. -/
theorem fetched_exact {system after : System} {id : Nat} {worker : Worker ucd aead}
    {failure : Option Error} {now : Nat} (consistent : Consistent ucd aead hmac system)
    (stepped : step ucd aead hmac workerUrl system (.fetched id worker failure now) =
      some after) :
    Consistent ucd aead hmac after ∧ (AllAnswered ucd after ↔ AllAnswered ucd system) := by
  rw [step] at stepped
  split at stepped
  · contradiction
  · next query found =>
      have mem := List.mem_of_find?_eq_some found
      have kept : ∀ other ∈ system.fetching.filter (·.id ≠ id), other ∈ system.fetching :=
        fun other otherMem => List.mem_of_mem_filter otherMem
      rcases doPostFetched_cases system.entries query.tag query.question
        (worker.answer query.packet) now with ⟨message, failed⟩ | ⟨content, answered, stored⟩
      · rw [failed] at stepped
        cases stepped
        refine ⟨⟨consistent.entries, fun other otherMem =>
          consistent.fetching other (kept other otherMem)⟩, ?_⟩
        rw [allAnswered_cons rfl, and_iff_left_iff_imp]
        intro _ reply heardReply
        exact absurd heardReply (heard_errorResponse failure message reply)
      · have isReply := consistent.isReply mem answered
        rw [stored] at stepped
        cases stepped
        constructor
        · constructor
          · intro entry entryMem
            rcases List.mem_cons.mp entryMem with rfl | old
            · rcases consistent.fetching query mem with ⟨tag, stable, _⟩
              exact ⟨tag, stable, isReply⟩
            · exact consistent.entries entry (List.mem_of_mem_filter old)
          · intro other otherMem
            exact consistent.fetching other (kept other otherMem)
        · rw [allAnswered_cons rfl, and_iff_left_iff_imp]
          intro _ reply heardReply
          rcases isReply with ⟨fetchedReply, read, answers⟩
          cases failure with
          | some error => contradiction
          | none =>
              rw [heard, read] at heardReply
              cases heardReply
              exact answers

/-- Every step keeps the invariant, and it keeps all replies right exactly if it
meets the guard. -/
theorem step_exact {system after : System} {event : Event ucd aead}
    (consistent : Consistent ucd aead hmac system)
    (stepped : step ucd aead hmac workerUrl system event = some after) :
    Consistent ucd aead hmac after ∧
      (AllAnswered ucd after ↔ AllAnswered ucd system ∧ SameType hmac system event) := by
  cases event with
  | query id payload nonce failure now => exact query_exact consistent stepped
  | fetched id worker failure now =>
      rcases fetched_exact consistent stepped with ⟨still, same⟩
      exact ⟨still, same.trans (and_iff_left trivial).symm⟩
  | evict tag =>
      cases stepped
      constructor
      · constructor
        · intro entry mem
          exact consistent.entries entry (List.mem_of_mem_filter mem)
        · exact consistent.fetching
      · exact (and_iff_left trivial).symm

/-- In a run of queries through the hop, with overlapping queries, lost entries
and lost responses, every reply that comes back answers its query's name and
type exactly if every live entry a query meets was fetched for its type. -/
theorem replies_answer_iff (ucd : UnicodeData) (aead : Aead) (hmac : Hmac) (workerUrl : Text)
    (trace : List (Event ucd aead)) (system : System)
    (ran : run (step ucd aead hmac workerUrl) System.empty trace = some system) :
    (∀ done ∈ system.served, ∀ reply, done.result = .ok reply →
      AnswersKey ucd done.question reply) ↔
      Along (step ucd aead hmac workerUrl) (SameType hmac) System.empty trace := by
  have empty : Consistent ucd aead hmac System.empty := by
    constructor
    · intro entry mem
      contradiction
    · intro query mem
      contradiction
  have nothing : AllAnswered ucd System.empty := by
    intro done mem
    contradiction
  exact along_iff (I := Consistent ucd aead hmac) (P := AllAnswered ucd) empty nothing
    (fun _ _ _ consistent stepped => (step_exact consistent stepped).1)
    (fun _ _ _ consistent stepped => (step_exact consistent stepped).2) ran

/-! ## One name, two types -/

/-- Tags that spell out what they are made of. -/
def Hmac.spelled : Hmac where
  tag text := '#' :: text
  injective _ _ same := (List.cons.inj same).2
  nonempty _ := by simp

/-- A worker that answers by setting the response flags, where that leaves the
question alone. -/
def flagWorker : Worker .ascii Aead.transparent where
  answer packet :=
    match Aead.transparent.decodeFromRelay packet with
    | none => .ok ⟨400, []⟩
    | some query =>
        let reply := (query.set 2 0x81).set 3 0x80
        if cacheKeyFromQuery .ascii reply = cacheKeyFromQuery .ascii query ∧
            reply[2]? = some 0x81 then
          .ok ⟨200, Aead.transparent.encodeForRelay (packet.take 12) reply⟩
        else .ok ⟨500, []⟩
  honest packet query key content decoded found answered := by
    have long : (packet.take 12).length = 12 := by
      rw [Aead.decodeFromRelay] at decoded
      split at decoded
      · contradiction
      · rw [List.length_take]
        omega
    simp only [decoded] at answered
    split at answered
    · next same =>
        cases answered
        exact ⟨_, Aead.decodeFromRelay_encodeForRelay long _, same.1.trans found, 0x81, same.2,
          by decide⟩
    · simp at answered

/-- A query for `a` of some type. -/
def typedQuery (qtype : UInt16) : Query :=
  { bareQuery [labelA] 1 with question := ⟨[labelA], qtype, 1⟩ }

/-- A query for an address of `a` and, ten seconds later, one of another type. -/
def twoTypes (qtype : UInt16) : List (Event .ascii Aead.transparent) :=
  [.query 1 (typedQuery 1).encode zeroNonce none 0, .fetched 1 flagWorker none 0,
    .query 2 (typedQuery qtype).encode zeroNonce none (10 * second)]

/-- The questions and replies of such a run. -/
def repliesOf (qtype : UInt16) : Option (List (CacheKey × Option Bytes)) :=
  (run (step .ascii Aead.transparent Hmac.spelled ['w']) System.empty (twoTypes qtype)).map
    fun system => system.served.map fun done => (done.question, done.result.toOption)

theorem exists_run_of_repliesOf {qtype : UInt16} {replies : List (CacheKey × Option Bytes)}
    (outcome : repliesOf qtype = some replies) :
    ∃ system, run (step .ascii Aead.transparent Hmac.spelled ['w']) System.empty
        (twoTypes qtype) = some system ∧
      (system.served.map fun done => (done.question, done.result.toOption)) = replies :=
  Option.map_eq_some_iff.mp outcome

/-- The reply to the query for an address. -/
def addressReply : Bytes :=
  ((typedQuery 1).withFlags 0x81 0x80).encode

theorem cacheKey_addressReply :
    cacheKeyFromQuery .ascii addressReply = .ok (some ⟨['a'], 1⟩) := by
  decide +kernel

theorem replies_answer_iff_oneType : ∃ system,
    run (step .ascii Aead.transparent Hmac.spelled ['w']) System.empty (twoTypes 1) = some system ∧
      Along (step .ascii Aead.transparent Hmac.spelled ['w']) (SameType Hmac.spelled) System.empty
        (twoTypes 1) := by
  have outcome : repliesOf 1 =
      some [(⟨['a'], 1⟩, some addressReply), (⟨['a'], 1⟩, some addressReply)] := by
    decide +kernel
  rcases exists_run_of_repliesOf outcome with ⟨system, ran, replies⟩
  refine ⟨system, ran, (replies_answer_iff .ascii Aead.transparent Hmac.spelled ['w'] (twoTypes 1)
    system ran).mp ?_⟩
  intro done mem reply ok
  have listed := List.mem_map_of_mem (f := fun done => (Served.question done,
    (Served.result done).toOption)) mem
  rw [replies, ok] at listed
  simp only [Except.toOption, List.mem_cons, Prod.mk.injEq, Option.some.injEq, List.not_mem_nil,
    or_false, or_self] at listed
  rcases listed with ⟨question, rfl⟩
  rw [question]
  exact ⟨cacheKey_addressReply, 0x81, rfl, by decide⟩

/-- The query of type AAAA gets the reply to the query of type A. -/
theorem address_for_aaaa : ∃ system,
    run (step .ascii Aead.transparent Hmac.spelled ['w']) System.empty (twoTypes 28) =
      some system ∧
    (∃ done ∈ system.served, done.question = ⟨['a'], 28⟩ ∧ done.result = .ok addressReply) ∧
    ¬ AnswersKey .ascii ⟨['a'], 28⟩ addressReply := by
  have outcome : repliesOf 28 =
      some [(⟨['a'], 28⟩, some addressReply), (⟨['a'], 1⟩, some addressReply)] := by
    decide +kernel
  rcases exists_run_of_repliesOf outcome with ⟨system, ran, replies⟩
  refine ⟨system, ran, ?_, ?_⟩
  · rcases List.map_eq_cons_iff.mp replies with ⟨done, rest, served, same, _⟩
    rcases Prod.mk.inj same with ⟨question, result⟩
    refine ⟨done, by rw [served]; exact List.mem_cons_self, question, ?_⟩
    cases ok : done.result with
    | error error => simp [ok, Except.toOption] at result
    | ok reply =>
        rw [ok] at result
        cases result
        rfl
  · rintro ⟨found, _⟩
    rw [cacheKey_addressReply] at found
    cases found

end DnsHijacker.DnsRelay.AppsScript
