import DnsHijacker.Shared.Dns.MessageSpec

/-!
# The redirect response

`craft_redirect_response` appends its answer records at the end of a copy of the
query.  A reader takes the first records after the question for the answer
section, so the records of the query's additional section, which are still in
front of the appended ones, trade places with the answers.
-/

namespace DnsHijacker.Shared.Dns

open DnsHijacker.Rust
open DnsHijacker.Wire

/-! ## The bytes of the response -/

/-- The answer record for one redirect address: the query name by a pointer to
offset 12, the type and class asked for and 60 seconds. -/
def redirectRecord (question : Question) (ip : Ipv4Addr) : Record where
  owner := ⟨[], some 12⟩
  rtype := question.qtype
  rclass := question.qclass
  ttl := 60
  rdata := ip.octets
  short := by simp

theorem aRecord_redirectRecord {question : Question} (isA : question.qtype = 1)
    (ip : Ipv4Addr) : aRecord (redirectRecord question ip) = some ip :=
  if_pos isA

theorem encode_redirectRecord (question : Question) (ip : Ipv4Addr) :
    (redirectRecord question ip).encode =
      redirectAnswer (u16ToBeBytes question.qtype) (u16ToBeBytes question.qclass) ip := by
  have owner : (redirectRecord question ip).owner.encode = [0xC0, 0x0C] := rfl
  have ttl : u32ToBeBytes 60 = [0x00, 0x00, 0x00, 0x3C] := rfl
  have rdlength : u16ToBeBytes (UInt16.ofNat ip.octets.length) = [0x00, 0x04] := by
    rw [ip.length_octets]
    rfl
  rw [Record.encode, owner, Record.fixed]
  change [0xC0, 0x0C] ++ (u16ToBeBytes question.qtype ++ u16ToBeBytes question.qclass ++
    u32ToBeBytes 60 ++ u16ToBeBytes (UInt16.ofNat ip.octets.length) ++ ip.octets) = _
  rw [ttl, rdlength, redirectAnswer]
  simp only [List.append_assoc]

theorem encodeRecords_redirect (question : Question) (ips : List Ipv4Addr) :
    encodeRecords (ips.map (redirectRecord question)) =
      ips.flatMap (redirectAnswer (u16ToBeBytes question.qtype)
        (u16ToBeBytes question.qclass)) := by
  rw [encodeRecords, List.flatMap_map]
  simp only [encode_redirectRecord]

/-- The response: the header of a reply with the number of addresses as its
answer count, and the answers after the additional section. -/
def redirectBytes (query : Query) (ips : List Ipv4Addr) : Bytes :=
  u16ToBeBytes query.txid ++ [0x81, 0x80] ++ u16ToBeBytes 1 ++
    u16ToBeBytes (UInt16.ofNat ips.length) ++ u16ToBeBytes 0 ++
    u16ToBeBytes (UInt16.ofNat query.additional.length) ++
    (query.question.encode ++
      encodeRecords (query.additional ++ ips.map (redirectRecord query.question)))

/-- `craft_redirect_response` on a query: nothing without an address. -/
theorem craftRedirectResponse_query (query : Query) (literals : List Text) :
    craftRedirectResponse query.encode query.nameEnd literals =
      .ok (if literals.filterMap parseIpv4 = [] then none
        else some (redirectBytes query (literals.filterMap parseIpv4))) := by
  have inside := (query.withFlags 0x81 0x80).nameEnd_add_four_le
  have slices := slice_typeClass (query.withFlags 0x81 0x80)
  rw [query.nameEnd_withFlags] at inside
  rw [query.nameEnd_withFlags, query.question_withFlags] at slices
  rw [craftRedirectResponse, if_neg (Nat.not_lt.mpr query.twelve_le_length), query.set_flags]
  simp only [bind, Except.bind, pure, Except.pure]
  rw [if_neg (Nat.not_lt.mpr inside), slices.1, slices.2]
  simp only [List.isEmpty_iff, toUInt8_shiftRight, toUInt8_and]
  by_cases empty : literals.filterMap parseIpv4 = []
  · rw [if_pos empty, if_pos empty]
  · rw [if_neg empty, if_neg empty, redirectBytes, encodeRecords_append, encodeRecords_redirect]
    simp [Query.withFlags, Query.toMessage, Message.encode, Message.header, Message.records,
      u16ToBeBytes]

section

variable {literals : List Text} {ips : List Ipv4Addr}
  (areAddresses : literals.map parseIpv4 = ips.map some)

include areAddresses

theorem length_of_addresses : literals.length = ips.length := by
  rw [← List.length_map parseIpv4, areAddresses, List.length_map]

theorem ips_ne_nil (nonempty : literals ≠ []) : ips ≠ [] := by
  rintro rfl
  exact nonempty (List.eq_nil_of_length_eq_zero (length_of_addresses areAddresses))

theorem filterMap_parseIpv4 : literals.filterMap parseIpv4 = ips := by
  calc
    literals.filterMap parseIpv4 = (literals.map parseIpv4).filterMap id := by
      rw [List.filterMap_map]
      rfl
    _ = ips := by
      rw [areAddresses, List.filterMap_map]
      exact List.filterMap_some

/-- `craft_redirect_response` on a query whose name was read, with the literals of some
addresses. -/
theorem craftRedirectResponse_literals {ucd : UnicodeData} (query : Query) {domain : Text}
    {qnameEnd : Nat} (parsed : parseDomain ucd query.encode 12 = .ok (some (domain, qnameEnd)))
    (nonempty : literals ≠ []) :
    craftRedirectResponse query.encode qnameEnd literals =
      .ok (some (redirectBytes query ips)) := by
  have nameEnd : qnameEnd = query.nameEnd := by
    have whole := parseDomain_query ucd query
    rw [parsed, Except.ok.injEq] at whole
    split at whole
    · exact congrArg Prod.snd (Option.some.inj whole)
    · contradiction
  rw [nameEnd, craftRedirectResponse_query, filterMap_parseIpv4 areAddresses,
    if_neg (ips_ne_nil areAddresses nonempty)]

end

/-! ## When the response is well formed -/

/-- The message a reader of the response finds: the first records after the
question are its answers. -/
def redirectMessage (query : Query) (ips : List Ipv4Addr) (short : ips.length < 65536) :
    Message where
  txid := query.txid
  flagsHigh := 0x81
  flagsLow := 0x80
  question := query.question
  answers :=
    (query.additional ++ ips.map (redirectRecord query.question)).take ips.length
  authority := []
  additional :=
    (query.additional ++ ips.map (redirectRecord query.question)).drop ips.length
  answers_short := Nat.lt_of_le_of_lt (List.length_take_le _ _) short
  authority_short := nil_short
  additional_short := by
    rw [List.length_drop, List.length_append, List.length_map, Nat.add_sub_cancel]
    exact query.additional_short

theorem redirectBytes_eq_encode (query : Query) (ips : List Ipv4Addr) (short : ips.length < 65536) :
    redirectBytes query ips = (redirectMessage query ips short).encode := by
  simp [redirectBytes, redirectMessage, Message.encode, Message.header, Message.records]

/-- A well-formed reply to the query: a response message whose answer section
holds the addresses and whose additional section is the query's. -/
def IsRedirectReply (query : Query) (ips : List Ipv4Addr) (resp : Bytes) : Prop :=
  ∃ message : Message, resp = message.encode ∧ message.IsResponse ∧
    message.txid = query.txid ∧ message.question = query.question ∧
    parseARecords resp = .ok ips ∧ message.additional = query.additional ∧
    (findOptRecord resp).map (Option.map EdnsOpt.fields) =
      (findOptRecord query.encode).map (Option.map EdnsOpt.fields)

/-- Where an OPT record stands does not matter for its fields. -/
theorem optRecord_fields (offset : Nat) (records : List Record) :
    (optRecord offset records).map EdnsOpt.fields =
      (records.find? fun record => record.rtype = 41).map optFields := by
  induction records generalizing offset with
  | nil => rfl
  | cons record records ih =>
      rw [optRecord]
      by_cases isOpt : record.rtype = 41
      · simp [isOpt]
      · simp [isOpt, ih]

/-- Records that are all redirect answers are determined by their addresses. -/
theorem map_redirectRecord_filterMap {question : Question} (isA : question.qtype = 1)
    {records : List Record} (own : ∀ record ∈ records, ∃ ip, redirectRecord question ip = record) :
    (records.filterMap aRecord).map (redirectRecord question) = records := by
  induction records with
  | nil => rfl
  | cons record records ih =>
      rcases own record List.mem_cons_self with ⟨ip, rfl⟩
      rw [List.filterMap_cons, aRecord_redirectRecord isA, List.map_cons,
        ih fun other mem => own other (List.mem_cons_of_mem _ mem)]

/-- Up to order, the addresses fix the redirect answers. -/
theorem eq_map_redirectRecord_of_perm {question : Question} (isA : question.qtype = 1)
    {records : List Record} {ips : List Ipv4Addr}
    (perm : records.Perm (ips.map (redirectRecord question)))
    (addresses : records.filterMap aRecord = ips) :
    records = ips.map (redirectRecord question) := by
  have own : ∀ record ∈ records, ∃ ip, redirectRecord question ip = record := by
    intro record mem
    rcases List.mem_map.mp (perm.mem_iff.mp mem) with ⟨ip, _, same⟩
    exact ⟨ip, same⟩
  rw [← addresses, map_redirectRecord_filterMap isA own]

/-- The reply is well formed exactly when the additional section of the query
can be moved past the answers, that is when it repeats them. -/
theorem isRedirectReply_iff {query : Query} (isA : query.question.qtype = 1)
    {ips : List Ipv4Addr} (short : ips.length < 65536) :
    IsRedirectReply query ips (redirectBytes query ips) ↔
      query.additional ++ ips.map (redirectRecord query.question) =
        ips.map (redirectRecord query.question) ++ query.additional := by
  let answers := ips.map (redirectRecord query.question)
  constructor
  · rintro ⟨message, encoded, _, _, _, addresses, sameAdditional, _⟩
    rw [encoded, parseARecords_message, Except.ok.injEq] at addresses
    rw [redirectBytes_eq_encode query ips short] at encoded
    have decoded := Message.encode_injective encoded
    have split : message.answers ++ query.additional = query.additional ++ answers := by
      calc
        message.answers ++ query.additional
          = message.answers ++ message.additional := by rw [sameAdditional]
        _ = query.additional ++ answers := by
          rw [← decoded]
          exact List.take_append_drop ips.length _
    -- Up to order the answers read are the answers appended.
    have perm : message.answers.Perm answers := by
      have moved : (message.answers ++ query.additional).Perm (answers ++ query.additional) := by
        rw [split]
        exact List.perm_append_comm
      exact (List.perm_append_right_iff query.additional).mp moved
    have sameAnswers : message.answers = answers :=
      eq_map_redirectRecord_of_perm isA perm addresses
    rw [← split, sameAnswers]
  · intro commute
    have length : ips.length = answers.length := (List.length_map _).symm
    have answersEq : (redirectMessage query ips short).answers = answers := by
      rw [redirectMessage]
      dsimp only
      rw [commute, length]
      exact List.take_left
    have additionalEq : (redirectMessage query ips short).additional = query.additional := by
      rw [redirectMessage]
      dsimp only
      rw [commute, length]
      exact List.drop_left
    have isResponse : (128 : UInt8) ≤ 0x81 := by decide
    refine ⟨redirectMessage query ips short, redirectBytes_eq_encode query ips short, isResponse,
      rfl, rfl, ?_, additionalEq, ?_⟩
    · rw [redirectBytes_eq_encode query ips short, parseARecords_message, answersEq]
      simp [answers, List.filterMap_map, aRecord_redirectRecord isA]
    · rw [redirectBytes_eq_encode query ips short, findOptRecord_message, additionalEq]
      change _ = (findOptRecord query.toMessage.encode).map _
      rw [findOptRecord_message]
      simp only [Except.map, optRecord_fields]
      rfl

/-- For an A query and any list of IPv4 literals, the crafted response is well
formed, carries the addresses and keeps the additional section exactly when the
additional section of the query commutes with the appended answers: it is empty,
or it repeats those very records.  An OPT record is never one of them. -/
theorem craftRedirectResponse_wellFormed_iff {ucd : UnicodeData} (query : Query)
    (isA : query.question.qtype = 1) {domain : Text} {qnameEnd : Nat}
    (parsed : parseDomain ucd query.encode 12 = .ok (some (domain, qnameEnd)))
    {literals : List Text} {ips : List Ipv4Addr}
    (areAddresses : literals.map parseIpv4 = ips.map some) (nonempty : literals ≠ [])
    (bounded : literals.length ≤ 65535) :
    (∃ resp, craftRedirectResponse query.encode qnameEnd literals = .ok (some resp) ∧
        IsRedirectReply query ips resp) ↔
      query.additional ++ ips.map (redirectRecord query.question) =
        ips.map (redirectRecord query.question) ++ query.additional := by
  have crafted := craftRedirectResponse_literals areAddresses query parsed nonempty
  have sameLength := length_of_addresses areAddresses
  rw [← isRedirectReply_iff isA (by omega), crafted]
  constructor
  · rintro ⟨resp, same, good⟩
    cases same
    exact good
  · intro good
    exact ⟨_, rfl, good⟩

/-- A query for `a` without EDNS. -/
def plainQuery : Query :=
  Query.standard 0x1234 ⟨[labelA], 1, 1⟩

/-- The same query with an OPT record. -/
def ednsQuery : Query :=
  { plainQuery with
    additional := [⟨.root, 41, 1232, 0, [], by decide⟩]
    additional_short := by decide }

theorem craftRedirectResponse_wellFormed_iff_plain :
    ∃ resp, craftRedirectResponse plainQuery.encode 15 ["10.0.0.5".toList] = .ok (some resp) ∧
      IsRedirectReply plainQuery [⟨10, 0, 0, 5⟩] resp :=
  (craftRedirectResponse_wellFormed_iff plainQuery (by decide)
    (by decide : parseDomain .ascii plainQuery.encode 12 = .ok (some (['a'], 15)))
    (by decide) (by decide) (by decide)).mpr (by decide)

/-- With EDNS the answer is unreadable and the OPT record is gone. -/
theorem craftRedirectResponse_edns :
    parseDomain .ascii ednsQuery.encode 12 = .ok (some (['a'], 15)) ∧
      ∃ resp, craftRedirectResponse ednsQuery.encode 15 ["10.0.0.5".toList] = .ok (some resp) ∧
        parseARecords resp = .ok [] ∧ findOptRecord resp = .ok none ∧
        findOptRecord ednsQuery.encode ≠ .ok none ∧
        ¬ IsRedirectReply ednsQuery [⟨10, 0, 0, 5⟩] resp := by
  have unreadable : parseARecords (redirectBytes ednsQuery [⟨10, 0, 0, 5⟩]) = .ok [] := by
    decide +kernel
  refine ⟨by decide, redirectBytes ednsQuery [⟨10, 0, 0, 5⟩], by decide, unreadable,
    by decide +kernel, by decide +kernel, ?_⟩
  rintro ⟨_, _, _, _, _, addresses, _⟩
  rw [unreadable] at addresses
  contradiction

/-! ## The type of the answers -/

/-- A record with an IPv4 address: its type is A, and its data are four octets. -/
def IsAddressRecord (record : Record) : Prop :=
  record.rtype = 1 ∧ record.rdata.length = 4

/-- The records that stand behind the query in the response. -/
def Appended (query : Query) (resp : Bytes) (added : List Record) : Prop :=
  resp.drop query.encode.length = encodeRecords added

theorem appended_redirectBytes (query : Query) (ips : List Ipv4Addr) :
    Appended query (redirectBytes query ips) (ips.map (redirectRecord query.question)) := by
  rw [Appended, redirectBytes, encodeRecords_append, ← List.append_assoc query.question.encode,
    ← List.append_assoc]
  apply List.drop_left'
  simp only [Query.encode, Message.encode, Query.toMessage, Message.records, List.length_append,
    Message.length_header, length_u16ToBeBytes, List.length_cons, List.length_nil,
    List.nil_append]

theorem isAddressRecord_redirectRecord {question : Question} {ip : Ipv4Addr} :
    IsAddressRecord (redirectRecord question ip) ↔ question.qtype = 1 :=
  and_iff_left ip.length_octets

/-- The response to a query of any type has a record for each address behind it, and
these are address records exactly if the query asks for addresses. -/
theorem redirect_records_typed_iff {ucd : UnicodeData} (query : Query) {domain : Text}
    {qnameEnd : Nat} (parsed : parseDomain ucd query.encode 12 = .ok (some (domain, qnameEnd)))
    {literals : List Text} {ips : List Ipv4Addr}
    (areAddresses : literals.map parseIpv4 = ips.map some) (nonempty : literals ≠ []) :
    ∃ resp, craftRedirectResponse query.encode qnameEnd literals = .ok (some resp) ∧
      (∃ added, Appended query resp added ∧ added.length = ips.length) ∧
      ((∀ added, Appended query resp added → ∀ record ∈ added, IsAddressRecord record) ↔
        query.question.qtype = 1) := by
  have crafted := craftRedirectResponse_literals areAddresses query parsed nonempty
  have appended := appended_redirectBytes query ips
  refine ⟨_, crafted, ⟨_, appended, List.length_map _⟩, ?_⟩
  constructor
  · intro all
    obtain ⟨ip, mem⟩ := List.exists_mem_of_ne_nil ips (ips_ne_nil areAddresses nonempty)
    exact isAddressRecord_redirectRecord.mp (all _ appended _ (List.mem_map_of_mem mem))
  · intro isA added same record mem
    rw [Appended, appended] at same
    rw [← encodeRecords_injective same] at mem
    obtain ⟨ip, _, rfl⟩ := List.mem_map.mp mem
    exact isAddressRecord_redirectRecord.mpr isA

/-- A query for the IPv6 addresses of `a`. -/
def aaaaQuery : Query :=
  Query.standard 0x1234 ⟨[labelA], 28, 1⟩

theorem redirect_records_typed_iff_plain :
    ∃ resp, craftRedirectResponse plainQuery.encode 15 ["10.0.0.5".toList] = .ok (some resp) ∧
      (∃ added, Appended plainQuery resp added ∧ added.length = [(⟨10, 0, 0, 5⟩ : Ipv4Addr)].length) ∧
      ((∀ added, Appended plainQuery resp added → ∀ record ∈ added, IsAddressRecord record) ↔
        plainQuery.question.qtype = 1) :=
  redirect_records_typed_iff plainQuery
    (by decide : parseDomain .ascii plainQuery.encode 12 = .ok (some (['a'], 15)))
    (by decide) (by decide)

/-- The answer to the query for IPv6 addresses has type AAAA and four octets. -/
theorem aaaa_of_four_octets :
    parseDomain .ascii aaaaQuery.encode 12 = .ok (some (['a'], 15)) ∧
      ∃ resp added, craftRedirectResponse aaaaQuery.encode 15 ["10.0.0.5".toList] =
        .ok (some resp) ∧ Appended aaaaQuery resp added ∧
        ∃ record ∈ added, record.rtype = 28 ∧ record.rdata.length = 4 ∧
          ¬ IsAddressRecord record := by
  refine ⟨by decide, redirectBytes aaaaQuery [⟨10, 0, 0, 5⟩], _, by decide,
    appended_redirectBytes _ _, _, List.mem_cons_self, rfl, rfl, ?_⟩
  rintro ⟨isA, _⟩
  contradiction

end DnsHijacker.Shared.Dns
