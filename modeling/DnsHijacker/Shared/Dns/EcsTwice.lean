import DnsHijacker.Shared.Dns.EcsSpec

/-!
# Setting the client subnet twice

A query that comes through the proxy or another relay has a subnet option already.
The second `set_ecs_option` finds the OPT record the first one has written and
replaces its subnet option.
-/

namespace DnsHijacker.Shared.Dns

open DnsHijacker.Rust
open DnsHijacker.Wire

/-! ## Any options -/

/-- `parse_options` reads as many options as there are whole ones. -/
theorem exists_parseOptionsFrom {buf : Bytes} {pos : Nat} (inside : pos ≤ buf.length) :
    ∃ options, parseOptionsFrom buf pos = .ok options ∧
      pos + (encodeOptions options).length ≤ buf.length := by
  have nothing : pos + (encodeOptions []).length ≤ buf.length := inside
  rw [parseOptionsFrom]
  by_cases more : pos + 4 ≤ buf.length
  · obtain ⟨code, codeRead⟩ := readU16_returns (by omega : pos + 2 ≤ buf.length)
    obtain ⟨len, lenRead⟩ := readU16_returns (by omega : pos + 2 + 2 ≤ buf.length)
    rw [if_pos more, codeRead, lenRead]
    simp only [bind, Except.bind, pure, Except.pure]
    by_cases cut : pos + 4 + len.toNat > buf.length
    · rw [if_pos cut]
      exact ⟨[], rfl, nothing⟩
    · obtain ⟨options, parsed, fits⟩ :=
        exists_parseOptionsFrom (by omega : pos + (4 + len.toNat) ≤ buf.length)
      rw [if_neg cut, slice_eq_ok (by omega) (by omega)]
      simp only [parsed]
      refine ⟨_, rfl, ?_⟩
      have length : ((buf.take (pos + 4 + len.toNat)).drop (pos + 4)).length = len.toNat := by
        rw [List.length_drop, List.length_take]
        omega
      simp only [encodeOptions_cons, EdnsOption.encode, List.length_append, length_u16ToBeBytes,
        length]
      omega
  · rw [if_neg more]
    exact ⟨[], rfl, nothing⟩
termination_by buf.length - pos

theorem exists_parseOptions (rdata : Bytes) :
    ∃ options, parseOptions rdata = .ok options ∧
      (encodeOptions options).length ≤ rdata.length := by
  obtain ⟨options, parsed, fits⟩ := exists_parseOptionsFrom (Nat.zero_le rdata.length)
  exact ⟨options, parsed, by omega⟩

/-- The last subnet stays. -/
theorem replaceSubnet_replaceSubnet (first second : Ipv4Addr) (options : List EdnsOption) :
    replaceSubnet second (replaceSubnet first options) = replaceSubnet second options := by
  simp [replaceSubnet, subnetOption, List.filter_append]

/-- One of the options is a subnet. -/
theorem countP_replaceSubnet (client : Ipv4Addr) (options : List EdnsOption) :
    (replaceSubnet client options).countP (·.code = 8) = 1 := by
  have others : (options.filter (·.code ≠ 8)).countP (·.code = 8) = 0 := by
    rw [List.countP_eq_zero]
    intro option mem
    simpa using (List.mem_filter.mp mem).2
  rw [replaceSubnet, List.countP_append, others]
  rfl

/-! ## The packet with the option -/

/-- The additional records behind the first OPT record. -/
def afterOpt (packet : Packet) : List Record :=
  packet.additional.drop ((beforeOpt packet).length + 1)

theorem afterOpt_eq_nil {packet : Packet} (all : beforeOpt packet = packet.additional) :
    afterOpt packet = [] := by
  rw [afterOpt, all]
  exact List.drop_eq_nil_of_le (Nat.le_succ _)

theorem afterOpt_eq_of_split {packet : Packet} {opt : Record} {after : List Record}
    (split : packet.additional = beforeOpt packet ++ opt :: after) : afterOpt packet = after := by
  rw [afterOpt, split]
  simp

/-- The additional section with new options in the first OPT record. -/
def additionalWith (packet : Packet) (options : Bytes) (short : options.length < 65536) :
    List Record :=
  beforeOpt packet ++ withOptions (optTemplate packet) options short :: afterOpt packet

theorem beforeOpt_noOpt (packet : Packet) : ∀ record ∈ beforeOpt packet, isOpt record = false := by
  intro record mem
  simpa using List.mem_takeWhile_imp mem

/-- `set_ecs_option` replaces the subnet among the options that `parse_options` finds. -/
theorem setEcs_packet {packet : Packet} {client : Ipv4Addr} {options : List EdnsOption}
    (parsed : parseOptions (optTemplate packet).rdata = .ok options)
    (short : (encodeOptions (replaceSubnet client options)).length < 65536)
    (more : (additionalWith packet (encodeOptions (replaceSubnet client options)) short).length <
      65536) :
    setEcs packet.encode client = .ok (some (packet.withAdditional _ more).encode) := by
  rcases firstOpt_cases packet with ⟨absent, all, noOpt⟩ | ⟨opt, after, first, present, split, noOpt⟩
  · have template : optTemplate packet = syntheticOpt := by
      rw [optTemplate, absent]
      rfl
    have none := afterOpt_eq_nil all
    have empty : parseOptions (encodeOptions []) = .ok [] := parseOptions_encodeOptions (by decide)
    rw [template] at parsed
    cases empty.symm.trans parsed
    have appended := setEcs_append all (beforeOpt_noOpt packet) template short
      (by simpa only [additionalWith, none] using more)
    simpa only [additionalWith, none] using appended
  · have template : optTemplate packet = opt := by
      rw [optTemplate, first]
      rfl
    have behind := afterOpt_eq_of_split split
    have replaced := setEcs_replace split noOpt present (template ▸ parsed) short
      (by simpa only [additionalWith, behind, template] using more)
    simpa only [additionalWith, behind, template] using replaced

/-- The first OPT record is replaced by another one. -/
theorem firstOpt_withAdditional {packet : Packet} {options : Bytes} {short : options.length < 65536}
    (more : (additionalWith packet options short).length < 65536) :
    firstOpt (packet.withAdditional _ more) = some (withOptions (optTemplate packet) options short) := by
  rw [firstOpt, Packet.additional_withAdditional, additionalWith, List.find?_append,
    List.find?_eq_none.mpr, Option.none_or, List.find?_cons_of_pos]
  · rfl
  · intro record mem
    simp [beforeOpt_noOpt packet record mem]

theorem beforeOpt_withAdditional {packet : Packet} {options : Bytes}
    {short : options.length < 65536} (more : (additionalWith packet options short).length < 65536) :
    beforeOpt (packet.withAdditional _ more) = beforeOpt packet := by
  have stops : (!isOpt (withOptions (optTemplate packet) options short)) = false := rfl
  rw [beforeOpt, Packet.additional_withAdditional, additionalWith, List.takeWhile_append_of_pos,
    List.takeWhile_cons_of_neg (by simp [stops]), List.append_nil]
  intro record mem
  rw [beforeOpt_noOpt packet record mem]
  rfl

theorem additionalWith_withAdditional {packet : Packet} {options other : Bytes}
    {short : options.length < 65536} {otherShort : other.length < 65536}
    (more : (additionalWith packet options short).length < 65536) :
    additionalWith (packet.withAdditional _ more) other otherShort =
      additionalWith packet other otherShort := by
  have template : withOptions (optTemplate (packet.withAdditional _ more)) other otherShort =
      withOptions (optTemplate packet) other otherShort := by
    rw [optTemplate, firstOpt_withAdditional]
    rfl
  have behind : afterOpt (packet.withAdditional _ more) = afterOpt packet := by
    rw [afterOpt, beforeOpt_withAdditional, Packet.additional_withAdditional, additionalWith]
    simp
  rw [additionalWith, beforeOpt_withAdditional, behind, template, additionalWith]

/-! ## Both calls -/

theorem withAdditional_congr {packet : Packet} {first second : List Record}
    (same : first = second) (firstShort : first.length < 65536) (secondShort : second.length < 65536) :
    packet.withAdditional first firstShort = packet.withAdditional second secondShort := by
  subst same
  rfl

/-- The parts of the additional section around the first OPT record. -/
theorem additional_eq (packet : Packet) :
    packet.additional = beforeOpt packet ++ ((firstOpt packet).toList ++ afterOpt packet) := by
  rcases firstOpt_cases packet with ⟨absent, all, _⟩ | ⟨opt, after, first, _, split, _⟩
  · rw [afterOpt_eq_nil all, absent, all]
    simp
  · rw [afterOpt_eq_of_split split, first]
    exact split

theorem length_additionalWith_le (packet : Packet) {options : Bytes}
    (short : options.length < 65536) :
    (additionalWith packet options short).length ≤ packet.additional.length + 1 := by
  rw [additional_eq packet, additionalWith]
  simp only [List.length_append, List.length_cons]
  omega

/-- The data of the first OPT record are part of the packet. -/
theorem length_optTemplate_le (packet : Packet) :
    (optTemplate packet).rdata.length ≤ packet.encode.length := by
  rw [optTemplate]
  cases first : firstOpt packet with
  | none => exact Nat.zero_le _
  | some opt =>
      have lengths := congrArg (fun records => (encodeRecords records).length) (additional_eq packet)
      simp only [first, Option.toList_some, encodeRecords_append, encodeRecords_cons,
        List.length_append, opt.length_encode] at lengths
      rw [packet.length_encode, Option.getD_some]
      omega

/-- What holds of the packet after `set_ecs_option`: it has one OPT record more if it had
none, and the first OPT record has one subnet option. -/
structure SingleSubnet (packet after : Packet) : Prop where
  opts : after.additional.countP isOpt = max 1 (packet.additional.countP isOpt)
  subnets : ∃ opt options, firstOpt after = some opt ∧ opt.rdata = encodeOptions options ∧
    options.countP (·.code = 8) = 1

theorem singleSubnet_withAdditional {packet : Packet} {client : Ipv4Addr}
    {options : List EdnsOption}
    {short : (encodeOptions (replaceSubnet client options)).length < 65536}
    (more : (additionalWith packet (encodeOptions (replaceSubnet client options)) short).length <
      65536) : SingleSubnet packet (packet.withAdditional _ more) where
  opts := by
    have before : (beforeOpt packet).countP isOpt = 0 := by
      rw [List.countP_eq_zero]
      intro record mem
      rw [beforeOpt_noOpt packet record mem]
      exact Bool.false_ne_true
    have old := congrArg (List.countP isOpt) (additional_eq packet)
    rw [List.countP_append, List.countP_append, before] at old
    have new : isOpt (withOptions (optTemplate packet) (encodeOptions (replaceSubnet client options))
        short) = true := rfl
    rw [Packet.additional_withAdditional, additionalWith, List.countP_append, before,
      List.countP_cons_of_pos new, old]
    rcases firstOpt_cases packet with ⟨absent, all, _⟩ | ⟨opt, after, first, present, _⟩
    · simp [absent, afterOpt_eq_nil all]
    · have isOpt : isOpt opt = true := decide_eq_true present
      simp [first, isOpt]
      omega
  subnets :=
    ⟨_, _, firstOpt_withAdditional more, rfl, countP_replaceSubnet client options⟩

theorem exists_setEcs_twice (packet : Packet) (fits : packet.encode.length ≤ 1310)
    (first : Ipv4Addr) :
    ∃ after : Packet, setEcs packet.encode first = .ok (some after.encode) ∧
      SingleSubnet packet after ∧
      ∀ second, setEcs after.encode second = setEcs packet.encode second := by
  obtain ⟨options, parsed, whole⟩ := exists_parseOptions (optTemplate packet).rdata
  have small := length_optTemplate_le packet
  have few := packet.additional_length_le
  have short : ∀ client, (encodeOptions (replaceSubnet client options)).length < 65536 := by
    intro client
    have longer := length_replaceSubnet_le client options
    omega
  have more : ∀ client, (additionalWith packet _ (short client)).length < 65536 := by
    intro client
    have longer := length_additionalWith_le packet (short client)
    omega
  have set := fun client => setEcs_packet parsed (short client) (more client)
  refine ⟨_, set first, singleSubnet_withAdditional (more first), fun second => ?_⟩
  -- The options the second call reads are those the first has written.
  have reread : parseOptions (optTemplate (packet.withAdditional _ (more first))).rdata =
      .ok (replaceSubnet first options) := by
    rw [optTemplate, firstOpt_withAdditional, Option.getD_some]
    exact parseOptions_encodeOptions (short first)
  have again : (encodeOptions (replaceSubnet second (replaceSubnet first options))).length < 65536 := by
    rw [replaceSubnet_replaceSubnet]
    exact short second
  have same : additionalWith (packet.withAdditional _ (more first)) _ again =
      additionalWith packet _ (short second) := by
    rw [additionalWith_withAdditional]
    simp only [replaceSubnet_replaceSubnet]
  rw [setEcs_packet reread again (same ▸ more second), set second]
  have written : (packet.withAdditional _ (same ▸ more second)) =
      packet.withAdditional _ (more second) :=
    withAdditional_congr same _ _
  exact congrArg (fun other : Packet => (Except.ok (some other.encode) : Exec (Option Bytes)))
    written

/-- The last client wins.  A query of at most 1310 bytes with the option set for two
clients is the query with the option set for the second, and setting it for the same
client again changes nothing. -/
theorem setEcsOption_last_wins (packet : Packet) (fits : packet.encode.length ≤ 1310)
    (first second : Ipv4Addr) (firstPublic : first.a ≠ 127) (secondPublic : second.a ≠ 127)
    (fabricate : Option Ipv4Addr) :
    ∃ after : Packet, setEcsOption packet.encode (.v4 first) fabricate = .ok (some after.encode) ∧
      setEcsOption after.encode (.v4 second) fabricate =
        setEcsOption packet.encode (.v4 second) fabricate ∧
      setEcsOption after.encode (.v4 first) fabricate = .ok (some after.encode) ∧
      SingleSubnet packet after := by
  obtain ⟨after, set, single, twice⟩ := exists_setEcs_twice packet fits first
  simp only [setEcsOption_of_not_loopback firstPublic, setEcsOption_of_not_loopback secondPublic]
  exact ⟨after, set, twice second, (twice first).trans set, single⟩

theorem setEcsOption_last_wins_replaced :
    ∃ after : Packet,
      setEcsOption ecsQuery.encode (.v4 ⟨198, 51, 100, 42⟩) none = .ok (some after.encode) ∧
      setEcsOption after.encode (.v4 ⟨203, 0, 113, 7⟩) none =
        setEcsOption ecsQuery.encode (.v4 ⟨203, 0, 113, 7⟩) none ∧
      setEcsOption after.encode (.v4 ⟨198, 51, 100, 42⟩) none = .ok (some after.encode) ∧
      SingleSubnet ecsQuery after :=
  setEcsOption_last_wins ecsQuery (by decide) _ _ (by decide) (by decide) none

end DnsHijacker.Shared.Dns
