import DnsHijacker.Shared.Cache
import DnsHijacker.Shared.Dns.NameSpec
import DnsHijacker.Wire.Response

/-!
# The lifetime of a cached response

`min_answer_ttl` reads one question and then the TTLs of all answer records.  It
leaves out the TTLs that are zero and starts from `u32::MAX`, which afterwards
stands for "no TTL".
-/

namespace DnsHijacker.Shared

open DnsHijacker.Rust
open DnsHijacker.Library
open DnsHijacker.Wire
open DnsHijacker.Shared.Dns

variable (ucd : UnicodeData)

/-- The TTLs that are not zero. -/
def positiveTtls (answers : List Answer) : List UInt32 :=
  (answers.map Answer.ttl).filter (0 < ·)

/-- All names the loop reads have UTF-8 labels. -/
def NamesUtf8 (question : List (List Label)) (answers : List Answer) : Prop :=
  FirstRunUtf8 question ∧ ∀ answer ∈ answers, FirstRunUtf8 answer.runs

instance (question : List (List Label)) (answers : List Answer) :
    Decidable (NamesUtf8 question answers) :=
  inferInstanceAs (Decidable (_ ∧ ∀ answer ∈ answers, FirstRunUtf8 answer.runs))

/-- The answer loop, from one name to the next. -/
theorem minTtlFrom_eq {packet : Bytes} {offset stop : Nat} {answers : List Answer}
    (answersAt : AnswersAt packet offset answers stop) (minTtl : UInt32) :
    minTtlFrom ucd packet answers.length offset minTtl =
      .ok (if ∀ answer ∈ answers, FirstRunUtf8 answer.runs then
        some ((positiveTtls answers).foldl min minTtl) else none) := by
  induction answersAt generalizing minTtl with
  | done => simp [minTtlFrom, positiveTtls, pure, Except.pure]
  | @answer offset nameEnd stop answer answers rdlength name ttl length inside rest ih =>
      rcases parseDomain_firstRun ucd name with ⟨result, parsed, atStop, readable⟩
      rw [List.length_cons, minTtlFrom, parsed]
      simp only [bind, Except.bind, pure, Except.pure, List.forall_mem_cons, ← readable]
      cases result with
      | none => simp
      | some found =>
          rcases found with ⟨domain, found⟩
          cases atStop domain found rfl
          dsimp only
          rw [if_neg (by omega), ttl.readU32_eq, length.readU16_eq]
          simp only
          rw [if_neg (by omega), ← Nat.add_assoc, ih]
          by_cases positive : 0 < answer.ttl
          · simp [positiveTtls, positive]
          · simp [positiveTtls, positive]

theorem le_maxTtl (ttl : UInt32) : ttl ≤ maxTtl := by
  have bound := ttl.toNat_lt
  have largest : maxTtl.toNat = 4294967295 := rfl
  rw [UInt32.le_iff_toNat_le]
  omega

/-- The smallest of some TTLs, starting from the largest value there is. -/
theorem foldl_min_maxTtl (ttls : List UInt32) :
    ttls.foldl min maxTtl = ttls.min?.getD maxTtl := by
  cases ttls with
  | nil => rfl
  | cons ttl ttls =>
      have first : min maxTtl ttl = ttl := by
        change (if maxTtl ≤ ttl then maxTtl else ttl) = ttl
        split
        · rename_i above
          exact UInt32.le_antisymm above (le_maxTtl ttl)
        · rfl
      rw [List.foldl_cons, first, List.min?_cons']
      rfl

/-- `min_answer_ttl` on a response to one question. -/
theorem minAnswerTtl_eq {message : Bytes} {question : List (List Label)} {answers : List Answer}
    (response : ResponseWith message [question] answers) :
    minAnswerTtl ucd message =
      .ok (if NamesUtf8 question answers ∧ (positiveTtls answers).min? ≠ some maxTtl then
        (positiveTtls answers).min? else none) := by
  have long := response.twelve_le_length
  rcases response.ancount with ⟨ancount, atSix, counted⟩
  rcases response.sections with ⟨_, _, answersStart, _, _, _, questions, answersAt, _⟩
  rw [minAnswerTtl, if_neg (by omega), atSix.readU16_eq]
  simp only [bind, Except.bind, pure, Except.pure]
  by_cases noAnswers : ancount = 0
  · have empty : answers = [] := by
      rw [noAnswers] at counted
      exact List.length_eq_zero_iff.mp counted.symm
    rw [if_pos noAnswers, empty]
    simp [positiveTtls]
  · rw [if_neg noAnswers]
    cases questions with
    | question name inside rest =>
        cases rest
        rcases parseDomain_firstRun ucd name with ⟨result, parsed, atStop, readable⟩
        have names : NamesUtf8 question answers ↔
            result.isSome ∧ ∀ answer ∈ answers, FirstRunUtf8 answer.runs :=
          and_congr_left' readable.symm
        rw [parsed]
        simp only [names]
        cases result with
        | none => simp
        | some found =>
            rcases found with ⟨domain, found⟩
            cases atStop domain found rfl
            simp only [counted, minTtlFrom_eq ucd answersAt, Option.isSome_some, true_and]
            by_cases utf8 : ∀ answer ∈ answers, FirstRunUtf8 answer.runs
            · rw [if_pos utf8]
              simp only [foldl_min_maxTtl, and_iff_right utf8]
              cases (positiveTtls answers).min? with
              | none => simp
              | some ttl => by_cases saturated : ttl = maxTtl <;> simp [saturated]
            · rw [if_neg utf8]
              simp [utf8]

/-- The smallest positive TTL, clamped; without one, or with a name that is not
UTF-8, the fallback. -/
def responseLifetime (question : List (List Label)) (answers : List Answer) : Nat :=
  match (positiveTtls answers).min? with
  | some ttl => if NamesUtf8 question answers then clampCacheTtl ttl else cacheTtlFallback
  | none => cacheTtlFallback

theorem packetTtl_eq {message : Bytes} {question : List (List Label)} {answers : List Answer}
    (response : ResponseWith message [question] answers) :
    packetTtl ucd message =
      .ok (if (positiveTtls answers).min? = some maxTtl then cacheTtlFallback
        else responseLifetime question answers) := by
  rw [packetTtl, minAnswerTtl_eq ucd response, responseLifetime]
  simp only [bind, Except.bind, pure, Except.pure]
  cases (positiveTtls answers).min? with
  | none => simp
  | some ttl =>
      by_cases saturated : ttl = maxTtl
      · simp [saturated]
      · by_cases utf8 : NamesUtf8 question answers
        · simp [saturated, utf8]
        · simp [saturated, utf8]

/-- What `cache_store` puts under the key. -/
theorem lookup_cacheStore {cache : ResponseCache} {key : CacheKey} {packet : Bytes} {now ttl : Nat}
    (lifetime : packetTtl ucd packet = .ok ttl) :
    (cacheStore ucd cache key packet now).map (·.lookup key) =
      .ok (some ⟨withTxid packet 0 0, now + ttl⟩) := by
  rw [cacheStore, lifetime]
  exact congrArg Except.ok (Lru.lookup_put_self ..)

/-- A clamped TTL is longer than the TTL itself by the floor at most. -/
theorem clampCacheTtl_le (ttl : UInt32) :
    clampCacheTtl ttl ≤ max (ttl.toNat * second) cacheTtlMin := by
  rw [clampCacheTtl]
  split
  · exact le_max_right _ _
  · split
    · rename_i long
      exact le_max_of_le_left long.le
    · exact le_max_left _ _

theorem clampCacheTtl_mono {first later : UInt32} (ordered : first ≤ later) :
    clampCacheTtl first ≤ clampCacheTtl later := by
  have seconds : first.toNat * second ≤ later.toNat * second :=
    Nat.mul_le_mul_right second (UInt32.le_iff_toNat_le.mp ordered)
  have bounds : cacheTtlMin ≤ cacheTtlMax := by decide
  simp only [clampCacheTtl]
  split_ifs <;> omega

theorem ttl_mem_positiveTtls {answers : List Answer} {answer : Answer} (mem : answer ∈ answers)
    (positive : 0 < answer.ttl) : answer.ttl ∈ positiveTtls answers := by
  rw [positiveTtls, List.mem_filter]
  exact ⟨List.mem_map_of_mem mem, by simpa using positive⟩

/-- A response whose names can be read is kept for no longer than any of its
records with a positive TTL, or for the floor. -/
theorem responseLifetime_le {question : List (List Label)} {answers : List Answer}
    (utf8 : NamesUtf8 question answers) {answer : Answer} (mem : answer ∈ answers)
    (positive : 0 < answer.ttl) :
    responseLifetime question answers ≤ max (answer.ttl.toNat * second) cacheTtlMin := by
  have counted := ttl_mem_positiveTtls mem positive
  rw [responseLifetime]
  cases smallest : (positiveTtls answers).min? with
  | none =>
      rw [List.min?_eq_none_iff] at smallest
      rw [smallest] at counted
      contradiction
  | some ttl =>
      simp only
      rw [if_pos utf8]
      have least : ttl ≤ answer.ttl := (List.min?_eq_some_iff.mp smallest).2 _ counted
      exact (clampCacheTtl_mono least).trans (clampCacheTtl_le answer.ttl)

/-- So is it when the smallest TTL is the one that stands for no TTL. -/
theorem packetTtl_le {message : Bytes} {question : List (List Label)} {answers : List Answer}
    (response : ResponseWith message [question] answers) (utf8 : NamesUtf8 question answers)
    {lifetime : Nat} (kept : packetTtl ucd message = .ok lifetime) {answer : Answer}
    (mem : answer ∈ answers) (positive : 0 < answer.ttl) :
    lifetime ≤ max (answer.ttl.toNat * second) cacheTtlMin := by
  rw [packetTtl_eq ucd response, Except.ok.injEq] at kept
  rw [← kept]
  split
  · rename_i saturated
    have least : maxTtl ≤ answer.ttl :=
      (List.min?_eq_some_iff.mp saturated).2 _ (ttl_mem_positiveTtls mem positive)
    calc cacheTtlFallback
        ≤ maxTtl.toNat * second := by decide
      _ ≤ answer.ttl.toNat * second :=
          Nat.mul_le_mul_right second (UInt32.le_iff_toNat_le.mp least)
      _ ≤ max (answer.ttl.toNat * second) cacheTtlMin := le_max_left _ _
  · exact responseLifetime_le utf8 mem positive

/-- A response to one question is kept for its smallest positive TTL, and so
outlives no record with a positive TTL by more than the floor. -/
theorem cacheStore_lifetime {message : Bytes} {question : List (List Label)}
    {answers : List Answer} (response : ResponseWith message [question] answers)
    (unsaturated : (positiveTtls answers).min? ≠ some maxTtl) (cache : ResponseCache)
    (key : CacheKey) (now : Nat) :
    (cacheStore ucd cache key message now).map (·.lookup key) =
        .ok (some ⟨withTxid message 0 0, now + responseLifetime question answers⟩) ∧
      (NamesUtf8 question answers → ∀ answer ∈ answers, 0 < answer.ttl →
        responseLifetime question answers ≤ answer.ttl.toNat * second + cacheTtlMin) := by
  constructor
  · apply lookup_cacheStore
    rw [packetTtl_eq ucd response, if_neg unsaturated]
  · intro utf8 answer mem positive
    exact (responseLifetime_le utf8 mem positive).trans
      (max_le (Nat.le_add_right _ _) (Nat.le_add_left _ _))

/-- A response to the root name with two answers. -/
def ttlReply (first later : UInt32) : Bytes :=
  [0, 0, 0x81, 0x80, 0, 1, 0, 2, 0, 0, 0, 0] ++ [0, 0, 1, 0, 1] ++
    ([0, 0, 1, 0, 1] ++ u32ToBeBytes first ++ [0, 4, 1, 1, 1, 1]) ++
    ([0, 0, 1, 0, 1] ++ u32ToBeBytes later ++ [0, 4, 2, 2, 2, 2])

theorem ttlReply_responseWith (first later : UInt32) :
    ResponseWith (ttlReply first later) [[[]]] [⟨[[]], first⟩, ⟨[[]], later⟩] where
  isResponse := ⟨0x81, rfl, by decide⟩
  qdcount := ⟨1, ⟨_, rfl⟩, rfl⟩
  ancount := ⟨2, ⟨_, rfl⟩, rfl⟩
  sections := by
    have four : Occurs (ttlReply first later) 26 (u16ToBeBytes 4) ∧
        Occurs (ttlReply first later) 41 (u16ToBeBytes 4) := ⟨⟨_, rfl⟩, ⟨_, rfl⟩⟩
    refine ⟨0, 0, 17, 47, ⟨_, rfl⟩, ⟨_, rfl⟩, ?_, ?_, .done⟩
    · apply QuestionsAt.question (.root ⟨_, rfl⟩) _ .done
      change 17 ≤ 47
      decide
    · apply AnswersAt.answer (.root ⟨_, rfl⟩) ⟨_, rfl⟩ four.1
      · change 32 ≤ 47
        decide
      · apply AnswersAt.answer (.root ⟨_, rfl⟩) ⟨_, rfl⟩ four.2
        · change 47 ≤ 47
          decide
        · exact .done

/-- A record with TTL 0 does not shorten the lifetime. -/
theorem zero_ttl_ignored : ¬ ∀ ucd message questions answers ttl,
    ResponseWith message questions answers → (answers.map Answer.ttl).min? = some ttl →
    ∀ cache key now, (cacheStore ucd cache key message now).map (·.lookup key) =
      .ok (some ⟨withTxid message 0 0, now + clampCacheTtl ttl⟩) := by
  intro always
  have held := always .ascii _ _ _ 0 (ttlReply_responseWith 0 300) (by decide) newCache
    ⟨[], 1⟩ 0
  have stored := @lookup_cacheStore .ascii newCache ⟨[], 1⟩ _ 0 _
    (packetTtl_eq .ascii (ttlReply_responseWith 0 300))
  rw [stored] at held
  have lifetimes := congrArg CacheEntry.expiresAt (Option.some.inj (Except.ok.inj held))
  exact absurd lifetimes (by decide)

theorem cacheStore_lifetime_two :
    (cacheStore .ascii newCache ⟨[], 1⟩ (ttlReply 60 0) 0).map (·.lookup ⟨[], 1⟩) =
      .ok (some ⟨withTxid (ttlReply 60 0) 0 0, 0 + responseLifetime [[]]
        [⟨[[]], 60⟩, ⟨[[]], 0⟩]⟩) ∧
    (NamesUtf8 [[]] [⟨[[]], 60⟩, ⟨[[]], 0⟩] → ∀ answer ∈ [(⟨[[]], 60⟩ : Answer), ⟨[[]], 0⟩],
      0 < answer.ttl → responseLifetime [[]] [⟨[[]], 60⟩, ⟨[[]], 0⟩] ≤
        answer.ttl.toNat * second + cacheTtlMin) :=
  cacheStore_lifetime .ascii (ttlReply_responseWith 60 0) (by decide) newCache ⟨[], 1⟩ 0

end DnsHijacker.Shared
