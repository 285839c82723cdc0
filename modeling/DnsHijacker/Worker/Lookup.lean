import DnsHijacker.Worker.Exchange

/-!
# A lookup through the worker

`resolve_domain_via_relay` asks the worker for the addresses of a name.  The worker asks the resolvers
in three rounds, reads their replies, and writes the addresses into the last one; the relay reads that
reply again.  What comes out at the end is what the relay's own reader finds in the resolvers' replies.
-/

namespace DnsHijacker.Worker

open DnsHijacker.Rust
open DnsHijacker.Library
open DnsHijacker.Shared (Error)
open DnsHijacker.Shared.Dns (buildLookupQuery parseARecords FitsLabel)
open DnsHijacker.DnsRelay
open DnsHijacker.DnsRelay.AppsScript (Nonce zeroNonce HttpResponse)

/-! ## What is expected -/

/-- The addresses that the relay's reader finds in the replies that the worker can read. -/
def addresses (taken : List Bytes) : List Ipv4Addr :=
  taken.flatMap fun reply =>
    if (readAddresses reply).isSome then (parseARecords reply).toOption.getD [] else []

/-- No reply ends within an address. -/
def Whole (taken : List Bytes) : Prop :=
  ∀ text ∈ contributed taken, ∃ address : Ipv4Addr, address.toText = text

/-- The questions of a message with a whole header lie inside it. -/
def QuestionsInside (template : Bytes) : Prop :=
  ∀ qdCount questionEnd, 12 ≤ template.length → getUint16 template 4 = .ok qdCount →
    Shared.Dns.skipQuestions template qdCount 12 = some questionEnd → questionEnd ≤ template.length

/-- The addresses of all replies, each where it was found first, as many as the header can count. -/
def counted (taken : List Bytes) : List Ipv4Addr :=
  let ips := firstSeen [] (addresses taken)
  ips.take (ips.length % 65536)

/-- The result of the lookup, by what the resolvers have replied. -/
def lookupResult (statusText : Nat → Text) (domain : Text) (taken : List Bytes) :
    Except Error (List Ipv4Addr) :=
  match lastRead taken with
  | none => .error (refused statusText 502 domain "upstream failed".toList)
  | some last =>
      if last.length < 12 then .error (refused statusText 500 domain "internal error".toList)
      else if (counted taken).isEmpty then .error (noARecords domain)
      else .ok (counted taken)

/-! ## The addresses in the replies -/

variable {taken : List Bytes}

/-- The texts that the worker keeps are those of the addresses that the relay reads. -/
theorem contributed_eq (whole : Whole taken) :
    contributed taken = (addresses taken).map Ipv4Addr.toText := by
  induction taken with
  | nil => rfl
  | cons reply taken ih =>
      have later : Whole taken := by
        intro text mem
        exact whole text (by rw [contributed_cons]; exact List.mem_append_right _ mem)
      rw [addresses, List.flatMap_cons, List.map_append, contributed_cons, ih later]
      congr 1
      cases read : readAddresses reply with
      | none => rfl
      | some texts =>
          have extracted : extractARecords (reply.length + 1) reply = .ok texts := by
            rw [readAddresses] at read
            cases result : extractARecords (reply.length + 1) reply with
            | error fault => simp [result, Except.toOption] at read
            | ok found =>
                rw [result] at read
                cases read
                rfl
          obtain ⟨ips, rest, parsed, same, cut⟩ :=
            parseARecords_of_extractARecords reply (Nat.lt_succ_self _) extracted
          have none : rest = [] := by
            rcases cut with none | ⟨text, rfl, notAddress⟩
            · exact none
            · have mem : text ∈ contributed (reply :: taken) := by
                rw [contributed_cons, read, Option.getD_some, same]
                simp
              obtain ⟨address, rfl⟩ := whole text mem
              exact absurd rfl (notAddress address)
          rw [none, List.append_nil] at same
          rw [Option.getD_some, Option.isSome_some, if_pos rfl, parsed]
          exact same

theorem firstSeen_contributed (whole : Whole taken) :
    (firstSeen [] (addresses taken)).map Ipv4Addr.toText = firstSeen [] (contributed taken) := by
  rw [contributed_eq whole]
  exact map_firstSeen toText_injective [] (addresses taken)

/-! ## The relay reads the merged message -/

variable {packet template dnsQuery : Bytes} {questionEnd answersEnd : Nat} {ips : List Ipv4Addr}
  {aead : Aead} {nonce : Nonce} {upstream : Upstream}

/-- Records that the worker has written are read back. -/
theorem collectARecords_answers {offset count : Nat}
    (here : Occurs packet offset (ips.flatMap answerRecord)) (few : count ≤ ips.length) :
    Shared.Dns.collectARecords packet count offset = .ok (ips.take count) := by
  have length : (ips.take count).length = count := List.length_take_of_le few
  have front : Occurs packet offset ((ips.take count).flatMap answerRecord) := by
    rw [← List.take_append_drop count ips, List.flatMap_append, occurs_append] at here
    exact here.1
  have read := extractFrom_answers front (Nat.lt_succ_self packet.length)
  rw [length] at read
  obtain ⟨found, rest, collected, same, cut⟩ :=
    collectARecords_of_extractFrom (Nat.lt_succ_self packet.length) read
  have none : rest = [] := by
    rcases cut with none | ⟨text, rfl, notAddress⟩
    · exact none
    · have mem : text ∈ (ips.take count).map Ipv4Addr.toText := by
        rw [same]
        simp
      obtain ⟨address, _, rfl⟩ := List.mem_map.mp mem
      exact absurd rfl (notAddress address)
  rw [none, List.append_nil] at same
  rw [collected, List.map_injective_iff.mpr toText_injective same]

/-- The number of answers that the header can hold are read, and these are the first ones. -/
theorem parseARecords_merged {qdCount : Nat} (inside : questionEnd ≤ template.length)
    (questionCount : getUint16 template 4 = .ok qdCount)
    (questions : Shared.Dns.skipQuestions template qdCount 12 = some questionEnd) :
    parseARecords (merged template questionEnd answersEnd ips) =
      .ok (ips.take (ips.length % 65536)) := by
  have header := Shared.Dns.le_of_skipQuestions questions
  have long : ¬ (merged template questionEnd answersEnd ips).length < 12 := by
    rw [merged, List.length_append, length_mergedFront header inside]
    omega
  have counts : getUint16 (merged template questionEnd answersEnd ips) 4 = .ok qdCount := by
    rw [getUint16_merged header (header.trans inside), questionCount]
  obtain ⟨qdcount, qdRead, rfl⟩ := readU16_of_getUint16 counts
  have anRead : readU16 (merged template questionEnd answersEnd ips) 6 =
      .ok (UInt16.ofNat ips.length) := (occurs_count_merged (by omega) ips).readU16_eq
  have records : Shared.Dns.collectARecords (merged template questionEnd answersEnd ips)
      (ips.length % 65536) questionEnd = .ok (ips.take (ips.length % 65536)) :=
    collectARecords_answers (occurs_records_merged header inside ips) (Nat.mod_le ips.length 65536)
  rw [parseARecords]
  simp only [if_neg long, qdRead, anRead, bind, Except.bind, skipQuestions_merged questions,
    UInt16.toNat_ofNat']
  exact records

/-! ## The lookup -/

/-- `build_lookup_query` asks for addresses. -/
theorem isAQuery_buildLookupQuery (txid : UInt16) {domain : Text}
    (fits : ∀ part ∈ (trimEndMatches '.' domain).splitOn '.', FitsLabel part) :
    IsAQuery (buildLookupQuery txid domain) := by
  obtain ⟨labels, spells⟩ := Shared.Dns.exists_spells fits
  rw [Shared.Dns.buildLookupQuery_eq_encode spells]
  let query := Wire.Query.standard txid ⟨labels, 1, 1⟩
  have name : Occurs query.encode 12 (Wire.NameForm.encode ⟨labels, none⟩) :=
    query.toMessage.occurs_name
  have one : u16ToBeBytes 1 = [0x00, 0x01] := rfl
  have qtype : Occurs query.encode query.nameEnd (u16ToBeBytes 1) := query.toMessage.occurs_qtype
  exact ⟨query.nameEnd, nameEnds_iff.mp (Shared.Dns.skipName_form name), one ▸ qtype⟩

theorem asks_lookup (aead : Aead) (nonce : Nonce) (txid : UInt16) {domain : Text}
    (fits : ∀ part ∈ (trimEndMatches '.' domain).splitOn '.', FitsLabel part) :
    Asks aead (aead.encodeForRelay nonce.bytes (buildLookupQuery txid domain))
      (buildLookupQuery txid domain) 1 where
  decoded := Aead.decodeFromRelay_encodeForRelay nonce.twelve _
  type _ := getQuestionType_of_isAQuery (isAQuery_buildLookupQuery txid fits)

/-- The relay makes of the worker's response what is expected of the replies. -/
theorem readDomainResponse_of_responds (statusText : Nat → Text) (domain : Text)
    (asks : Asks aead packet dnsQuery 1) (whole : Whole (replies upstream addressRounds))
    (inside : ∀ last, lastRead (replies upstream addressRounds) = some last → QuestionsInside last)
    {response : Response} (responds : Responds aead nonce upstream packet response) :
    readDomainResponse statusText aead domain ⟨response.status, response.body⟩ =
      .ok (lookupResult statusText domain (replies upstream addressRounds)) := by
  obtain ⟨budget, here, enough⟩ := responds.exists_budget asks
  have rounds : roundsOf 1 = addressRounds := rfl
  rw [rounds] at here enough
  rw [replyTo] at here
  rw [lookupResult]
  cases found : lastRead (replies upstream addressRounds) with
  | none =>
      rw [found] at here
      cases here
      exact readDomainResponse_refused statusText aead domain _ rfl
  | some last =>
      obtain ⟨mem, texts, read⟩ := mem_of_lastRead found
      simp only [found, if_pos, ← firstSeen_contributed whole] at here
      rcases rewriteAnswersWithIps_cases read (enough last mem)
        (firstSeen [] (addresses (replies upstream addressRounds))) with
        ⟨short, failed⟩ | ⟨qdCount, questionEnd, answersEnd, long, count, questions, rewritten⟩
      · rw [failed] at here
        cases here
        simp only [if_pos short]
        exact readDomainResponse_refused statusText aead domain _ rfl
      · rw [rewritten] at here
        cases here
        have within := inside last found qdCount questionEnd long count questions
        simp only [if_neg (Nat.not_lt.mpr long)]
        exact readDomainResponse_reply statusText domain rfl
          (Aead.decodeFromRelay_encodeForRelay nonce.twelve _)
          (parseARecords_merged within count questions)

/-- A lookup of a name whose parts fit into labels, whatever the resolvers reply: the worker responds
exactly if every name it walks over ends; and with any response it comes to, the relay returns the
addresses that its own reader finds in the replies, each once and in the order in which they were
found, or says that there are none, or which error the worker has met. -/
theorem lookup_via_worker (statusText : Nat → Text) (aead : Aead) (txid : UInt16)
    (nonce workerNonce : Nonce) (upstream : Upstream) {domain : Text}
    (fits : ∀ part ∈ (trimEndMatches '.' domain).splitOn '.', FitsLabel part)
    (whole : Whole (replies upstream addressRounds))
    (inside : ∀ last, lastRead (replies upstream addressRounds) = some last →
      QuestionsInside last) :
    let packet := aead.encodeForRelay nonce.bytes (buildLookupQuery txid domain)
    ((∃ response, Responds aead workerNonce upstream packet response) ↔
      ∀ reply ∈ replies upstream addressRounds, SectionsEnd reply) ∧
    ∀ (post : Post) (response : Response), Responds aead workerNonce upstream packet response →
      post packet = .ok ⟨response.status, response.body⟩ →
        resolveDomainViaRelay statusText aead txid nonce post domain =
          .ok (lookupResult statusText domain (replies upstream addressRounds)) := by
  intro packet
  have asks := asks_lookup aead nonce txid fits
  refine ⟨responds_iff asks, fun post response responds posted => ?_⟩
  rw [resolveDomainViaRelay, posted]
  exact readDomainResponse_of_responds statusText domain asks whole inside responds

/-! ## Two resolvers have an address, and the third denies the name -/

theorem mem_replies_denied {reply : Bytes}
    (mem : reply ∈ replies (lastAnswers deniedReply) addressRounds) :
    reply ∈ [aReply, aReply, deniedReply] := by
  have all : replies (lastAnswers deniedReply) addressRounds =
      (List.replicate 3 [aReply, aReply, deniedReply]).flatten := by decide +kernel
  rw [all] at mem
  obtain ⟨round, roundMem, here⟩ := List.mem_flatten.mp mem
  rwa [List.eq_of_mem_replicate roundMem] at here

theorem lastRead_denied :
    lastRead (replies (lastAnswers deniedReply) addressRounds) = some deniedReply := by
  decide +kernel

theorem whole_denied : Whole (replies (lastAnswers deniedReply) addressRounds) := by
  have texts : contributed (replies (lastAnswers deniedReply) addressRounds) =
      List.replicate 6 (Ipv4Addr.toText ⟨10, 0, 0, 1⟩) := by decide +kernel
  intro text mem
  rw [texts] at mem
  exact ⟨_, (List.eq_of_mem_replicate mem).symm⟩

theorem ends_denied {reply : Bytes}
    (mem : reply ∈ replies (lastAnswers deniedReply) addressRounds) : SectionsEnd reply := by
  have each : ∀ reply ∈ [aReply, aReply, deniedReply],
      extractARecords (reply.length + 1) reply ≠ .error .running := by decide
  exact (extractARecords_ne_running_iff reply).mp (each reply (mem_replies_denied mem))

theorem lookup_via_worker_denied :
    ∃ response, Responds Aead.transparent zeroNonce (lastAnswers deniedReply)
        (Aead.transparent.encodeForRelay zeroNonce.bytes (buildLookupQuery 1 ['a'])) response ∧
      resolveDomainViaRelay (Nat.toDigits 10) Aead.transparent 1 zeroNonce
        (fun _ => .ok ⟨response.status, response.body⟩) ['a'] = .ok (.ok [⟨10, 0, 0, 1⟩]) := by
  have questions : Shared.Dns.skipQuestions deniedReply 1 12 = some 19 :=
    (skipQuestions_eq_ok_iff (by decide : deniedReply.length < 20)).mp (by decide)
  have inside : ∀ reply, lastRead (replies (lastAnswers deniedReply) addressRounds) = some reply →
      QuestionsInside reply := by
    intro reply found qdCount questionEnd _ count skipped
    rw [lastRead_denied] at found
    cases found
    cases count
    cases questions.symm.trans skipped
    decide
  obtain ⟨responds, returned⟩ := lookup_via_worker (Nat.toDigits 10) Aead.transparent 1 zeroNonce
    zeroNonce (lastAnswers deniedReply)
    (by decide : ∀ part ∈ (trimEndMatches '.' ['a']).splitOn '.', FitsLabel part) whole_denied inside
  obtain ⟨response, here⟩ := responds.mpr fun reply mem => ends_denied mem
  refine ⟨response, here, (returned _ response here rfl).trans ?_⟩
  have expected : counted (replies (lastAnswers deniedReply) addressRounds) = [⟨10, 0, 0, 1⟩] := by
    decide +kernel
  rw [lookupResult, lastRead_denied, expected]
  rfl

end DnsHijacker.Worker
