import DnsHijacker.Shared.Dns.Ecs
import DnsHijacker.Shared.Dns.MessageSpec

/-!
# What the client subnet option changes

The first OPT record of a packet is replaced by one with the same fields and the
new options, in the same place; without one, a record with default fields is
appended.
-/

namespace DnsHijacker.Shared.Dns

open DnsHijacker.Rust
open DnsHijacker.Wire

/-! ## Options -/

/-- `parse_options` reads back the options that were written. -/
theorem parseOptionsFrom_eq {buf : Bytes} {pos : Nat} {options : List EdnsOption}
    (occurs : Occurs buf pos (encodeOptions options))
    (exact : pos + (encodeOptions options).length = buf.length) (short : buf.length < 65536) :
    parseOptionsFrom buf pos = .ok options := by
  induction options generalizing pos with
  | nil =>
      rw [parseOptionsFrom, if_neg]
      · rfl
      · simp only [encodeOptions, List.flatMap_nil, List.length_nil] at exact
        omega
  | cons option options ih =>
      rw [encodeOptions_cons, occurs_append] at occurs
      rw [encodeOptions_cons, List.length_append] at exact
      have length : option.encode.length = 4 + option.data.length := by
        simp only [EdnsOption.encode, List.length_append, length_u16ToBeBytes]
        omega
      obtain ⟨code, lengthAt, data⟩ : Occurs buf pos (u16ToBeBytes option.code) ∧
          Occurs buf (pos + 2) (u16ToBeBytes (UInt16.ofNat option.data.length)) ∧
          Occurs buf (pos + 4) option.data := by
        rcases occurs_append.mp occurs.1 with ⟨code, afterCode⟩
        exact ⟨code, occurs_append.mp afterCode⟩
      have counted : (UInt16.ofNat option.data.length).toNat = option.data.length :=
        toNat_ofNat_of_short (by omega)
      have rest := ih (length ▸ occurs.2) (by omega)
      rw [parseOptionsFrom, if_pos (by omega), code.readU16_eq, lengthAt.readU16_eq]
      simp only [bind, Except.bind, pure, Except.pure, counted]
      rw [if_neg (by omega), data.slice_eq (by omega)]
      simp only [rest]

theorem parseOptions_encodeOptions {options : List EdnsOption}
    (short : (encodeOptions options).length < 65536) :
    parseOptions (encodeOptions options) = .ok options :=
  parseOptionsFrom_eq (occurs_self _) (Nat.zero_add _) short

/-! ## The record that is written -/

def isOpt (record : Record) : Bool :=
  record.rtype = 41

/-- The first OPT record of a packet. -/
def firstOpt (packet : Packet) : Option Record :=
  packet.additional.find? isOpt

/-- The additional records before the first OPT record. -/
def beforeOpt (packet : Packet) : List Record :=
  packet.additional.takeWhile (!isOpt ·)

/-- The offset of the first OPT record, or the end of the packet. -/
def optStart (packet : Packet) : Nat :=
  packet.additionalStart + (encodeRecords (beforeOpt packet)).length

/-- The offset just past the first OPT record, or the end of the packet. -/
def optEnd (packet : Packet) : Nat :=
  optStart packet + ((firstOpt packet).map Record.encode).elim 0 List.length

/-- An OPT record with default fields and no options. -/
def syntheticOpt : Record where
  owner := NameForm.root
  rtype := 41
  rclass := 4096
  ttl := 0
  rdata := []
  short := Nat.zero_lt_succ 65535

/-- The OPT record whose fields the new one has. -/
def optTemplate (packet : Packet) : Record :=
  (firstOpt packet).getD syntheticOpt

/-- The OPT record with other options and the root as its name. -/
def withOptions (opt : Record) (options : Bytes) (short : options.length < 65536) : Record where
  owner := NameForm.root
  rtype := 41
  rclass := opt.rclass
  ttl := opt.ttl
  rdata := options
  short := short

/-- The Client Subnet option for a client: family 1, source prefix 24, scope 0
and the first three octets of its address. -/
def subnetOption (client : Ipv4Addr) : EdnsOption :=
  ⟨8, [0, 1, 24, 0, client.a, client.b, client.c]⟩

/-- The options without the subnet options there are, and then the new one. -/
def replaceSubnet (client : Ipv4Addr) (options : List EdnsOption) : List EdnsOption :=
  options.filter (·.code ≠ 8) ++ [subnetOption client]

/-- The fields of an OPT record make up its TTL again. -/
theorem optFields_ttl (record : Record) :
    [(optFields record).extendedRcode] ++ [(optFields record).version] ++
      u16ToBeBytes (optFields record).flags = u32ToBeBytes record.ttl := by
  rw [optFields, u16ToBeBytes_fromBeBytes]
  rfl

theorem encode_withOptions (opt : Record) (options : Bytes) (short : options.length < 65536) :
    (withOptions opt options short).encode =
      [0x00] ++ u16ToBeBytes 41 ++ u16ToBeBytes (optFields opt).udpPayloadSize ++
        [(optFields opt).extendedRcode] ++ [(optFields opt).version] ++
        u16ToBeBytes (optFields opt).flags ++ u16ToBeBytes (UInt16.ofNat options.length) ++
        options := by
  have root : NameForm.root.encode = [0] := rfl
  simp only [Record.encode, withOptions, Record.fixed, root, ← optFields_ttl opt,
    List.append_assoc]
  rfl

/-! ## Where the first OPT record stands -/

theorem optRecord_append {offset : Nat} {before rest : List Record}
    (noOpt : ∀ record ∈ before, isOpt record = false) :
    optRecord offset (before ++ rest) =
      optRecord (offset + (encodeRecords before).length) rest := by
  induction before generalizing offset with
  | nil => rfl
  | cons record before ih =>
      rw [List.forall_mem_cons] at noOpt
      have other : record.rtype ≠ 41 := of_decide_eq_false noOpt.1
      rw [List.cons_append, optRecord, if_neg other, ih noOpt.2, encodeRecords_cons,
        List.length_append, Nat.add_assoc]

/-- There is no OPT record, or the additional section is split at the first. -/
theorem firstOpt_cases (packet : Packet) :
    (firstOpt packet = none ∧ beforeOpt packet = packet.additional ∧
      ∀ record ∈ packet.additional, isOpt record = false) ∨
    ∃ opt after, firstOpt packet = some opt ∧ opt.rtype = 41 ∧
      packet.additional = beforeOpt packet ++ opt :: after ∧
      ∀ record ∈ beforeOpt packet, isOpt record = false := by
  cases found : firstOpt packet with
  | none =>
      left
      have noOpt : ∀ record ∈ packet.additional, isOpt record = false := by
        intro record mem
        simpa using List.find?_eq_none.mp found record mem
      refine ⟨rfl, ?_, noOpt⟩
      rw [beforeOpt, List.takeWhile_eq_self_iff]
      intro record mem
      rw [noOpt record mem]
      rfl
  | some opt =>
      right
      rcases List.find?_eq_some_iff_append.mp found with ⟨here, before, after, split, noOpt⟩
      have same : beforeOpt packet = before := by
        rw [beforeOpt, split, List.takeWhile_append_of_pos noOpt, List.takeWhile_cons_of_neg]
        · exact List.append_nil before
        · simp [here]
      refine ⟨opt, after, rfl, of_decide_eq_true here, same ▸ split, fun record mem => ?_⟩
      rw [same] at mem
      simpa using noOpt record mem

/-! ## Rebuilding -/

theorem slice_front (front rest : Bytes) : slice (front ++ rest) 0 front.length = .ok front := by
  rw [slice_eq_ok (Nat.zero_le _) (by simp)]
  simp

theorem slice_rest (front rest : Bytes) :
    slice (front ++ rest) front.length (front ++ rest).length = .ok rest := by
  rw [slice_eq_ok (by simp) (Nat.le_refl _), List.take_length, List.drop_left]

/-- `rebuild_with_new_opt` on a packet with the record in the middle. -/
theorem rebuildWithNewOpt_replace {front old rest newOptions : Bytes} {opt : Record}
    (present : old ≠ []) (short : newOptions.length < 65536) :
    rebuildWithNewOpt (front ++ (old ++ rest))
        ⟨front.length, front.length + old.length, optFields opt⟩ newOptions =
      .ok (some (front ++ ((withOptions opt newOptions short).encode ++ rest))) := by
  have positive := List.length_pos_of_ne_nil present
  have after := slice_rest (front ++ old) rest
  rw [List.length_append, List.append_assoc] at after
  rw [rebuildWithNewOpt, slice_front]
  simp only [bind, Except.bind, pure, Except.pure, after]
  rw [if_neg (by omega), encode_withOptions]
  simp only [List.append_assoc]

theorem set_arcount (packet : Packet) (high low : UInt8) (rest : Bytes) :
    ((packet.headerFront ++ (packet.arcount ++ rest)).set 10 high).set 11 low =
      packet.headerFront ++ ([high, low] ++ rest) :=
  rfl

/-- `rebuild_with_new_opt` at the end of a packet: the last count of the header
goes up by one. -/
theorem rebuildWithNewOpt_append {packet : Packet} {before : List Record} {opt : Record}
    {newOptions : Bytes} (all : before = packet.additional) (short : newOptions.length < 65536)
    (more : (before ++ [withOptions opt newOptions short]).length < 65536) :
    rebuildWithNewOpt packet.encode
        ⟨packet.encode.length, packet.encode.length, optFields opt⟩ newOptions =
      .ok (some (packet.withAdditional _ more).encode) := by
  subst all
  have long := packet.twelve_le_length
  have whole := slice_front packet.encode []
  have nothing := slice_rest packet.encode []
  rw [List.append_nil] at whole nothing
  have counted : readU16 (packet.encode ++ (withOptions opt newOptions short).encode) 10 =
      .ok (UInt16.ofNat packet.additional.length) := Occurs.readU16_eq ⟨_, rfl⟩
  have next : UInt16.ofNat packet.additional.length + 1 =
      UInt16.ofNat (packet.additional ++ [withOptions opt newOptions short]).length := by
    rw [List.length_append, UInt16.ofNat_add]
    rfl
  rw [rebuildWithNewOpt, whole]
  simp only [bind, Except.bind, pure, Except.pure, nothing]
  have built : packet.encode ++ [0x00] ++ u16ToBeBytes 41 ++
      u16ToBeBytes (optFields opt).udpPayloadSize ++
      [(optFields opt).extendedRcode] ++ [(optFields opt).version] ++
      u16ToBeBytes (optFields opt).flags ++
      u16ToBeBytes (UInt16.ofNat newOptions.length) ++ newOptions ++ [] =
      packet.encode ++ (withOptions opt newOptions short).encode := by
    rw [encode_withOptions]
    simp only [List.append_assoc, List.append_nil]
  rw [built, if_pos ⟨trivial, trivial⟩, if_neg (by rw [List.length_append]; omega), counted]
  simp only [next, toUInt8_shiftRight, toUInt8_and]
  have appended : encodeRecords
      (packet.additional ++ [withOptions opt newOptions short]) =
      encodeRecords packet.additional ++ (withOptions opt newOptions short).encode := by
    simp
  rw [Packet.encode, List.append_assoc, List.append_assoc, List.append_assoc, set_arcount,
    Packet.encode, Packet.additional_withAdditional, appended]
  rfl

/-! ## `set_ecs_option` -/

theorem encodeOptions_replaceSubnet (client : Ipv4Addr) (options : List EdnsOption) :
    encodeOptions (replaceSubnet client options) =
      encodeOptions (options.filter (·.code ≠ 8)) ++ (subnetOption client).encode := by
  simp [replaceSubnet, encodeOptions]

/-- A packet in front of its first OPT record. -/
def frontOf (packet : Packet) : Bytes :=
  packet.headerFront ++ (packet.arcount ++ (packet.middle ++ encodeRecords (beforeOpt packet)))

theorem length_frontOf (packet : Packet) : (frontOf packet).length = optStart packet := by
  simp only [frontOf, optStart, Packet.additionalStart, List.length_append,
    Packet.length_headerFront, Packet.length_arcount]
  omega

theorem encode_eq_frontOf {packet : Packet} {rest : List Record}
    (split : packet.additional = beforeOpt packet ++ rest) :
    packet.encode = frontOf packet ++ encodeRecords rest := by
  have records := congrArg encodeRecords split
  rw [encodeRecords_append] at records
  rw [Packet.encode, records, frontOf]
  simp only [List.append_assoc]

theorem setEcs_replace {packet : Packet} {opt : Record} {after : List Record}
    {options : List EdnsOption} {client : Ipv4Addr}
    (split : packet.additional = beforeOpt packet ++ opt :: after)
    (noOpt : ∀ record ∈ beforeOpt packet, isOpt record = false) (present : opt.rtype = 41)
    (parsed : parseOptions opt.rdata = .ok options)
    (short : (encodeOptions (replaceSubnet client options)).length < 65536)
    (more : (beforeOpt packet ++ withOptions opt (encodeOptions (replaceSubnet client options))
      short :: after).length < 65536) :
    setEcs packet.encode client = .ok (some (packet.withAdditional _ more).encode) := by
  have found : findOptRecord packet.encode =
      .ok (some ⟨optStart packet, optStart packet + opt.encode.length, optFields opt⟩) := by
    rw [findOptRecord_packet, split, optRecord_append noOpt, optRecord, if_pos present]
    rfl
  have parsedOptions : parseOptions (optFields opt).options = .ok options := parsed
  have encoded := encode_eq_frontOf split
  rw [encodeRecords_cons] at encoded
  have sameCount : (packet.withAdditional _ more).arcount = packet.arcount := by
    rw [Packet.arcount, Packet.arcount, Packet.additional_withAdditional, split,
      List.length_append, List.length_append, List.length_cons, List.length_cons]
  have changed : (packet.withAdditional _ more).encode = frontOf packet ++
      ((withOptions opt (encodeOptions (replaceSubnet client options)) short).encode ++
        encodeRecords after) := by
    rw [Packet.encode, sameCount, Packet.additional_withAdditional, encodeRecords_append,
      encodeRecords_cons, frontOf]
    simp only [List.append_assoc]
    rfl
  have rebuilt := @rebuildWithNewOpt_replace (frontOf packet) opt.encode (encodeRecords after) _ opt
    opt.encode_ne_nil short
  rw [length_frontOf, ← encoded, ← changed] at rebuilt
  rw [setEcs, found]
  simp only [bind, Except.bind, parsedOptions]
  rw [← rebuilt, encodeOptions_replaceSubnet]
  rfl

theorem setEcs_append {packet : Packet} {before : List Record} {opt : Record} {client : Ipv4Addr}
    (all : before = packet.additional) (noOpt : ∀ record ∈ before, isOpt record = false)
    (synthetic : opt = syntheticOpt) (short : (encodeOptions (replaceSubnet client [])).length < 65536)
    (more : (before ++ [withOptions opt (encodeOptions (replaceSubnet client [])) short]).length <
      65536) :
    setEcs packet.encode client = .ok (some (packet.withAdditional _ more).encode) := by
  have found : findOptRecord packet.encode = .ok none := by
    have nothing : optRecord packet.additionalStart (before ++ []) = none := optRecord_append noOpt
    rw [List.append_nil, all] at nothing
    rw [findOptRecord_packet, nothing]
  subst synthetic
  rw [setEcs, found]
  simp only [bind, Except.bind]
  exact rebuildWithNewOpt_append all short more

/-- The bytes are the packet's with a subnet option for the client: the first OPT
record, or one at the end, has the packet's other options and the new one, the
count of additional records fits, and nothing else has changed. -/
structure EcsSet (packet : Packet) (client : Ipv4Addr) (out : Bytes) : Prop where
  opt : ∃ options stop, (optTemplate packet).rdata = encodeOptions options ∧
    findOptRecord out = .ok (some ⟨optStart packet, stop,
      { optFields (optTemplate packet) with
        options := encodeOptions (replaceSubnet client options) }⟩) ∧
    out.drop stop = packet.encode.drop (optEnd packet)
  arcount : ∃ count, readU16 out 10 = .ok count ∧
    count.toNat = packet.additional.length + if (firstOpt packet).isSome then 0 else 1
  header : out.take 10 = packet.encode.take 10
  front : (out.take (optStart packet)).drop 12 = (packet.encode.take (optStart packet)).drop 12

/-- The parts of a buffer around the last count and an OPT record. -/
theorem take_drop_parts {header count middle old rest : Bytes} {start : Nat}
    (ten : header.length = 10) (two : count.length = 2) (starts : start = 12 + middle.length) :
    (header ++ (count ++ (middle ++ (old ++ rest)))).take 10 = header ∧
      ((header ++ (count ++ (middle ++ (old ++ rest)))).take start).drop 12 = middle ∧
      (header ++ (count ++ (middle ++ (old ++ rest)))).drop (start + old.length) = rest := by
  have twelve : (header ++ count).length = 12 := by rw [List.length_append, ten, two]
  have whole : (header ++ count ++ middle).length = start := by
    rw [List.length_append, twelve, starts]
  have past : (header ++ count ++ middle ++ old).length = start + old.length := by
    rw [List.length_append, whole]
  refine ⟨List.take_left' ten, ?_, ?_⟩
  · rw [← List.append_assoc, ← List.append_assoc, List.take_left' whole, List.drop_left' twelve]
  · rw [← List.append_assoc, ← List.append_assoc, ← List.append_assoc, List.drop_left' past]

/-- A packet with the new record after the records before the first OPT record. -/
theorem ecsSet_encode {packet : Packet} {client : Ipv4Addr} {old : Bytes} {after : List Record}
    {options : List EdnsOption}
    (encoded : packet.encode = frontOf packet ++ (old ++ encodeRecords after))
    (stop : optEnd packet = optStart packet + old.length)
    (noOpt : ∀ record ∈ beforeOpt packet, isOpt record = false)
    (written : (optTemplate packet).rdata = encodeOptions options)
    (short : (encodeOptions (replaceSubnet client options)).length < 65536)
    (more : (beforeOpt packet ++ withOptions (optTemplate packet)
      (encodeOptions (replaceSubnet client options)) short :: after).length < 65536)
    (counted : (beforeOpt packet ++ withOptions (optTemplate packet)
      (encodeOptions (replaceSubnet client options)) short :: after).length =
      packet.additional.length + if (firstOpt packet).isSome then 0 else 1) :
    EcsSet packet client (packet.withAdditional _ more).encode := by
  have starts : optStart packet =
      12 + (packet.middle ++ encodeRecords (beforeOpt packet)).length := by
    rw [optStart, Packet.additionalStart, List.length_append, Nat.add_assoc]
  have before : packet.encode = packet.headerFront ++ (packet.arcount ++
      ((packet.middle ++ encodeRecords (beforeOpt packet)) ++ (old ++ encodeRecords after))) := by
    rw [encoded, frontOf]
    simp only [List.append_assoc]
  have now : (packet.withAdditional _ more).encode = packet.headerFront ++
      ((packet.withAdditional _ more).arcount ++
        ((packet.middle ++ encodeRecords (beforeOpt packet)) ++
          ((withOptions (optTemplate packet) (encodeOptions (replaceSubnet client options))
            short).encode ++ encodeRecords after))) := by
    rw [Packet.encode, Packet.additional_withAdditional, encodeRecords_append, encodeRecords_cons]
    simp only [List.append_assoc]
    rfl
  have partsBefore := @take_drop_parts packet.headerFront packet.arcount _ old
    (encodeRecords after) _ packet.length_headerFront packet.length_arcount starts
  have partsNow := @take_drop_parts packet.headerFront (packet.withAdditional _ more).arcount _
    (withOptions (optTemplate packet) (encodeOptions (replaceSubnet client options)) short).encode
    (encodeRecords after) _ packet.length_headerFront rfl starts
  rw [← before] at partsBefore
  rw [← now] at partsNow
  constructor
  case opt =>
    refine ⟨options, _, written, ?_, partsNow.2.2.trans (stop ▸ partsBefore.2.2).symm⟩
    rw [findOptRecord_packet, Packet.additional_withAdditional, optRecord_append noOpt, optRecord]
    rfl
  case arcount =>
    refine ⟨_, (readU16_counts _).2.2.2, ?_⟩
    rw [toNat_ofNat_of_short (Packet.additional_short _), Packet.additional_withAdditional,
      counted]
  case header => exact partsNow.1.trans partsBefore.1.symm
  case front => exact partsNow.2.1.trans partsBefore.2.1.symm

/-- The new options take eleven octets more than the old ones at most. -/
theorem length_replaceSubnet_le (client : Ipv4Addr) (options : List EdnsOption) :
    (encodeOptions (replaceSubnet client options)).length ≤ (encodeOptions options).length + 11 := by
  have fewer : (encodeOptions (options.filter (·.code ≠ 8))).length ≤
      (encodeOptions options).length :=
    (List.filter_sublist.flatMap EdnsOption.encode).length_le
  rw [encodeOptions_replaceSubnet, List.length_append]
  exact Nat.add_le_add_right fewer 11

theorem exists_ecsSet_append {packet : Packet} (client : Ipv4Addr) (absent : firstOpt packet = none)
    (all : beforeOpt packet = packet.additional)
    (noOpt : ∀ record ∈ packet.additional, isOpt record = false)
    (more : packet.additional.length + 1 < 65536) :
    ∃ out, setEcs packet.encode client = .ok (some out) ∧ EcsSet packet client out := by
  have template : optTemplate packet = syntheticOpt := by
    rw [optTemplate, absent]
    rfl
  have short : (encodeOptions (replaceSubnet client [])).length < 65536 :=
    (length_replaceSubnet_le client []).trans_lt (by decide)
  have counted : (beforeOpt packet ++ [withOptions (optTemplate packet)
      (encodeOptions (replaceSubnet client [])) short]).length = packet.additional.length + 1 := by
    rw [List.length_append, all]
    rfl
  rw [← all] at noOpt
  refine ⟨_, setEcs_append all noOpt template short (counted ▸ more), ?_⟩
  have encoded := encode_eq_frontOf ((List.append_nil _).trans all).symm
  apply @ecsSet_encode packet client [] [] [] encoded _ noOpt _ short (counted ▸ more)
  · rw [counted, absent]
    rfl
  · rw [optEnd, absent]
    rfl
  · rw [template]
    rfl

theorem exists_ecsSet_replace {packet : Packet} (client : Ipv4Addr) {opt : Record}
    {after : List Record} {options : List EdnsOption} (first : firstOpt packet = some opt)
    (present : opt.rtype = 41) (split : packet.additional = beforeOpt packet ++ opt :: after)
    (noOpt : ∀ record ∈ beforeOpt packet, isOpt record = false)
    (written : opt.rdata = encodeOptions options) (fits : opt.rdata.length + 11 < 65536) :
    ∃ out, setEcs packet.encode client = .ok (some out) ∧ EcsSet packet client out := by
  have template : optTemplate packet = opt := by
    rw [optTemplate, first]
    rfl
  have short : (encodeOptions (replaceSubnet client options)).length < 65536 := by
    rw [written] at fits
    exact (length_replaceSubnet_le client options).trans_lt fits
  have counted : (beforeOpt packet ++ withOptions opt
      (encodeOptions (replaceSubnet client options)) short :: after).length =
      packet.additional.length := by
    rw [split, List.length_append, List.length_append, List.length_cons, List.length_cons]
  have more := packet.additional_short
  rw [← counted] at more
  have parsed : parseOptions opt.rdata = .ok options := by
    have rdataShort := opt.short
    rw [written] at rdataShort ⊢
    exact parseOptions_encodeOptions rdataShort
  refine ⟨_, setEcs_replace split noOpt present parsed short more, ?_⟩
  subst template
  have encoded := encode_eq_frontOf split
  rw [encodeRecords_cons] at encoded
  apply ecsSet_encode encoded _ noOpt written short more
  · rw [counted, first]
    rfl
  · rw [optEnd, first]
    rfl

theorem setEcsOption_of_not_loopback {payload : Bytes} {client : Ipv4Addr}
    (notLoopback : client.a ≠ 127) (fabricate : Option Ipv4Addr) :
    setEcsOption payload (.v4 client) fabricate = setEcs payload client :=
  if_neg notLoopback

/-- A query that fits the receive buffer leaves with a subnet option for its
client. -/
theorem setEcsOption_packet (packet : Packet) (fits : packet.encode.length ≤ 1310)
    (wellFormed : ∀ record ∈ packet.additional, record.rtype = 41 →
      ∃ options, record.rdata = encodeOptions options)
    (client : Ipv4Addr) (notLoopback : client.a ≠ 127) (fabricate : Option Ipv4Addr) :
    ∃ out, setEcsOption packet.encode (.v4 client) fabricate = .ok (some out) ∧
      EcsSet packet client out := by
  rw [setEcsOption_of_not_loopback notLoopback]
  rcases firstOpt_cases packet with ⟨absent, all, noOpt⟩ | ⟨opt, after, first, present, split, noOpt⟩
  · have few := packet.additional_length_le
    exact exists_ecsSet_append client absent all noOpt (by omega)
  · have mem : opt ∈ packet.additional := split ▸ List.mem_append_right _ List.mem_cons_self
    rcases wellFormed opt mem present with ⟨options, written⟩
    have inside := congrArg List.length (encode_eq_frontOf split)
    rw [encodeRecords_cons, List.length_append, List.length_append, opt.length_encode] at inside
    exact exists_ecsSet_replace client first present split noOpt written (by omega)

/-- A subnet option for another client and a cookie. -/
def storedOptions : List EdnsOption :=
  [⟨8, [0, 1, 24, 0, 10, 0, 0]⟩, ⟨10, [1, 2, 3, 4, 5, 6, 7, 8]⟩]

theorem storedOptions_short : (encodeOptions storedOptions).length < 65536 := by
  decide

/-- An empty TXT record of the root name. -/
def emptyTxt : Record where
  owner := NameForm.root
  rtype := 16
  rclass := 1
  ttl := 0
  rdata := []
  short := Nat.zero_lt_succ 65535

theorem three_short (first second third : Record) : [first, second, third].length < 65536 := by
  simp

/-- A query whose OPT record stands between two others. -/
def ecsQuery : Packet where
  txid := 7
  flagsHigh := 1
  flagsLow := 0
  questions := [⟨⟨[labelA], none⟩, 1, 1⟩]
  answers := []
  authority := []
  additional := [emptyTxt, ⟨NameForm.root, 41, 1232, 32768, encodeOptions storedOptions,
    storedOptions_short⟩, emptyTxt]
  questions_short := singleton_short _
  answers_short := nil_short
  authority_short := nil_short
  additional_short := three_short _ _ _

theorem setEcsOption_packet_replaced :
    ∃ out, setEcsOption ecsQuery.encode (.v4 ⟨198, 51, 100, 42⟩) none = .ok (some out) ∧
      EcsSet ecsQuery ⟨198, 51, 100, 42⟩ out := by
  apply setEcsOption_packet ecsQuery (by decide) _ _ (by decide)
  intro record mem isOpt
  have here : record ∈ [emptyTxt, _, emptyTxt] := mem
  simp only [List.mem_cons, List.not_mem_nil, or_false] at here
  rcases here with rfl | rfl | rfl
  · contradiction
  · exact ⟨storedOptions, rfl⟩
  · contradiction

end DnsHijacker.Shared.Dns
