import DnsHijacker.Shared.Dns.EcsTwice
import DnsHijacker.Shared.Dns.Returns

/-!
# Where the readers look

A name may seem to end behind the buffer, so what stands behind a name is read only after
a check.  Whatever the octets are, no reader indexes outside the buffer, and an OPT record that
is found lies inside it.
-/

namespace DnsHijacker.Shared.Dns

open DnsHijacker.Rust

/-! ## Names and records -/

/-- A record that is skipped has a name and ten octets, and lies inside the buffer. -/
theorem exists_skipRr (buf : Bytes) (pos : Nat) :
    ∃ next, skipRr buf pos = .ok next ∧
      ∀ stop ∈ next, pos + 11 ≤ stop ∧ stop ≤ buf.length := by
  rw [skipRr]
  cases skipped : skipName buf pos with
  | none => exact ⟨none, rfl, by simp⟩
  | some nameEnd =>
      have later := (skipName_bounds skipped).1
      dsimp only
      by_cases cut : nameEnd + 10 > buf.length
      · rw [if_pos cut]
        exact ⟨none, rfl, by simp⟩
      obtain ⟨rdlength, lengthRead⟩ := readU16_returns (by omega : nameEnd + 8 + 2 ≤ buf.length)
      rw [if_neg cut, lengthRead]
      simp only [bind, Except.bind, pure, Except.pure]
      by_cases short : nameEnd + 10 + rdlength.toNat > buf.length
      · rw [if_pos short]
        exact ⟨none, rfl, by simp⟩
      · rw [if_neg short]
        refine ⟨_, rfl, ?_⟩
        rintro stop ⟨⟩
        omega

theorem exists_skipRrs (buf : Bytes) (count pos : Nat) :
    ∃ next, skipRrs buf count pos = .ok next ∧ ∀ stop ∈ next, pos ≤ stop := by
  induction count generalizing pos with
  | zero =>
      refine ⟨some pos, rfl, ?_⟩
      rintro stop ⟨⟩
      exact Nat.le_refl pos
  | succ count ih =>
      obtain ⟨first, skipped, bounds⟩ := exists_skipRr buf pos
      rw [skipRrs, skipped]
      cases first with
      | none => exact ⟨none, rfl, by simp⟩
      | some next =>
          obtain ⟨result, rest, later⟩ := ih next
          refine ⟨result, rest, fun stop isStop => ?_⟩
          have first := bounds next rfl
          have last := later stop isStop
          omega

/-! ## The OPT record -/

/-- The place of a record in a buffer: behind the header, with room for a name and the ten
octets behind it. -/
structure InBounds (buf : Bytes) (opt : EdnsOpt) : Prop where
  header : 12 ≤ opt.rrStart
  room : opt.rrStart + 11 ≤ opt.rrEnd
  inside : opt.rrEnd ≤ buf.length
  options_lt : opt.fields.options.length < 65536

theorem exists_searchOpt (buf : Bytes) (count : Nat) {pos : Nat} (header : 12 ≤ pos) :
    ∃ result, searchOpt buf count pos = .ok result ∧ ∀ opt ∈ result, InBounds buf opt := by
  induction count generalizing pos with
  | zero => exact ⟨none, rfl, by simp⟩
  | succ count ih =>
      rw [searchOpt]
      cases skipped : skipName buf pos with
      | none => exact ⟨none, rfl, by simp⟩
      | some nameEnd =>
          have later := (skipName_bounds skipped).1
          dsimp only
          by_cases cut : nameEnd + 10 > buf.length
          · rw [if_pos cut]
            exact ⟨none, rfl, by simp⟩
          obtain ⟨rtype, typeRead⟩ := readU16_returns (by omega : nameEnd + 2 ≤ buf.length)
          obtain ⟨rclass, classRead⟩ := readU16_returns (by omega : nameEnd + 2 + 2 ≤ buf.length)
          obtain ⟨rdlength, lengthRead⟩ :=
            readU16_returns (by omega : nameEnd + 8 + 2 ≤ buf.length)
          rw [if_neg cut, typeRead, classRead, lengthRead, slice_eq_ok (by omega) (by omega)]
          simp only [bind, Except.bind, pure, Except.pure]
          by_cases short : nameEnd + 10 + rdlength.toNat > buf.length
          · rw [if_pos short]
            exact ⟨none, rfl, by simp⟩
          rw [if_neg short, slice_eq_ok (by omega) (by omega)]
          by_cases found : rtype = 41
          · have four : ((buf.take (nameEnd + 8)).drop (nameEnd + 4)).length = 4 := by
              rw [List.length_drop, List.length_take]
              omega
            obtain ⟨flags, flagsRead⟩ :=
              readU16_returns (by omega : 2 + 2 ≤ ((buf.take (nameEnd + 8)).drop (nameEnd + 4)).length)
            rw [if_pos found, index_of_lt (by omega), index_of_lt (by omega), flagsRead]
            refine ⟨_, rfl, ?_⟩
            rintro opt ⟨⟩
            constructor
            case header => exact header
            case room =>
              dsimp only
              omega
            case inside => exact Nat.le_of_not_lt short
            case options_lt =>
              have bound := rdlength.toNat_lt
              rw [List.length_drop, List.length_take]
              omega
          · rw [if_neg found]
            exact ih (by omega)

/-- `find_opt_record` returns, and what it finds lies inside the buffer. -/
theorem exists_findOptRecord (buf : Bytes) :
    ∃ result, findOptRecord buf = .ok result ∧ ∀ opt ∈ result, InBounds buf opt := by
  rw [findOptRecord]
  by_cases short : buf.length < 12
  · rw [if_pos short]
    exact ⟨none, rfl, by simp⟩
  obtain ⟨qdcount, qdRead⟩ := readU16_returns (by omega : 4 + 2 ≤ buf.length)
  obtain ⟨ancount, anRead⟩ := readU16_returns (by omega : 6 + 2 ≤ buf.length)
  obtain ⟨nscount, nsRead⟩ := readU16_returns (by omega : 8 + 2 ≤ buf.length)
  obtain ⟨arcount, arRead⟩ := readU16_returns (by omega : 10 + 2 ≤ buf.length)
  rw [if_neg short, qdRead, anRead, nsRead, arRead]
  simp only [bind, Except.bind]
  cases questions : skipQuestions buf qdcount.toNat 12 with
  | none => exact ⟨none, rfl, by simp⟩
  | some pos =>
      have behind := le_of_skipQuestions questions
      obtain ⟨next, skipped, later⟩ := exists_skipRrs buf (ancount.toNat + nscount.toNat) pos
      simp only [skipped]
      cases next with
      | none => exact ⟨none, rfl, by simp⟩
      | some next => exact exists_searchOpt buf arcount.toNat (behind.trans (later next rfl))

/-! ## The option that is put in -/

/-- Both slices of `rebuild_with_new_opt` lie inside the packet. -/
theorem rebuildWithNewOpt_returns {payload : Bytes} {existing : EdnsOpt} (newOptions : Bytes)
    (start : existing.rrStart ≤ payload.length) (stop : existing.rrEnd ≤ payload.length) :
    Returns (rebuildWithNewOpt payload existing newOptions) := by
  rw [rebuildWithNewOpt, slice_eq_ok (Nat.zero_le _) start, slice_eq_ok stop (Nat.le_refl _)]
  simp only [bind, Except.bind, pure, Except.pure]
  generalize ((payload.take existing.rrStart).drop 0 ++ [0x00] ++ u16ToBeBytes 41 ++
    u16ToBeBytes existing.fields.udpPayloadSize ++ [existing.fields.extendedRcode] ++
    [existing.fields.version] ++ u16ToBeBytes existing.fields.flags ++
    u16ToBeBytes (UInt16.ofNat newOptions.length) ++ newOptions ++
    (payload.take payload.length).drop existing.rrEnd) = out
  split
  · split
    · exact returns_ok none
    · rename_i long
      obtain ⟨arcount, read⟩ := readU16_returns (by omega : 10 + 2 ≤ out.length)
      rw [read]
      exact returns_ok _
  · exact returns_ok _

/-- The record that `set_ecs_option` hands on: the one that is found, or a new one behind the
packet. -/
theorem setEcs_eq_rebuild {payload : Bytes} {result : Option EdnsOpt}
    (searched : findOptRecord payload = .ok result) (ip : Ipv4Addr) :
    ∃ existing newOptions, setEcs payload ip = rebuildWithNewOpt payload existing newOptions ∧
      (result = some existing ∨
        result = none ∧ existing.rrStart = payload.length ∧ existing.rrEnd = payload.length) := by
  rw [setEcs, searched]
  simp only [bind, Except.bind]
  cases result with
  | none => exact ⟨_, _, rfl, .inr ⟨rfl, rfl, rfl⟩⟩
  | some existing =>
      obtain ⟨options, parsed, _⟩ := exists_parseOptions existing.fields.options
      simp only [parsed]
      exact ⟨existing, _, rfl, .inl rfl⟩

/-! ## The readers of names -/

section

variable {ucd : UnicodeData}

/-- `parse_domain` may not come back, but it does not index outside the buffer. -/
theorem parseDomainFrom_ne_panic {payload : Bytes} (fuel offset : Nat) (domain : Text) :
    parseDomainFrom ucd payload fuel offset domain ≠ .error .panic := by
  induction fuel generalizing offset domain with
  | zero => simp [parseDomainFrom]
  | succ fuel ih =>
      rw [parseDomainFrom_succ]
      cases nameToken payload offset with
      | malformed => simp
      | root => simp
      | label text next => exact ih next _
      | pointer target =>
          have behind := ih target []
          cases inner : parseDomainFrom ucd payload fuel target [] with
          | ok value =>
              dsimp only
              rw [inner]
              simp [Except.map]
          | error fault =>
              dsimp only
              rw [inner] at behind ⊢
              intro panics
              cases panics
              contradiction

theorem parseDomain_ne_panic (payload : Bytes) (offset : Nat) :
    parseDomain ucd payload offset ≠ .error .panic :=
  parseDomainFrom_ne_panic _ offset []

theorem minTtlFrom_ne_panic (packet : Bytes) (count offset : Nat) (minTtl : UInt32) :
    minTtlFrom ucd packet count offset minTtl ≠ .error .panic := by
  induction count generalizing offset minTtl with
  | zero => simp [minTtlFrom, pure, Except.pure]
  | succ count ih =>
      rw [minTtlFrom]
      have name : parseDomain ucd packet offset ≠ .error .panic :=
        parseDomain_ne_panic packet offset
      cases parsed : parseDomain ucd packet offset with
      | error fault =>
          rw [parsed] at name
          intro panics
          cases panics
          contradiction
      | ok result =>
          cases result with
          | none => simp [bind, Except.bind, pure, Except.pure]
          | some found =>
              obtain ⟨domain, nameEnd⟩ := found
              simp only [bind, Except.bind, pure, Except.pure]
              by_cases cut : nameEnd + 10 > packet.length
              · rw [if_pos cut]
                simp
              obtain ⟨ttl, ttlRead⟩ := readU32_returns (by omega : nameEnd + 4 + 4 ≤ packet.length)
              obtain ⟨rdlength, lengthRead⟩ :=
                readU16_returns (by omega : nameEnd + 8 + 2 ≤ packet.length)
              rw [if_neg cut, ttlRead, lengthRead]
              dsimp only
              split
              · simp
              · exact ih _ _

end

/-! ## All readers -/

/-- No reader looks outside its buffer.  The OPT record that `find_opt_record` finds has its place
in the packet, so both slices of `rebuild_with_new_opt` do too; the record counts as a new one
exactly if none was found. -/
theorem readers_in_bounds (ucd : UnicodeData) (buf : Bytes) :
    Returns (parseARecords buf) ∧ (∀ offset, Returns (skipRr buf offset)) ∧
      Returns (parseOptions buf) ∧
      (∀ count offset minTtl, minTtlFrom ucd buf count offset minTtl ≠ .error .panic) ∧
      ∃ result, findOptRecord buf = .ok result ∧
        (∀ opt ∈ result, 12 ≤ opt.rrStart ∧ opt.rrStart + 11 ≤ opt.rrEnd ∧
          opt.rrEnd ≤ buf.length ∧ ∀ newOptions, Returns (rebuildWithNewOpt buf opt newOptions)) ∧
        ∀ ip, ∃ existing newOptions,
          setEcs buf ip = rebuildWithNewOpt buf existing newOptions ∧
            Returns (rebuildWithNewOpt buf existing newOptions) ∧
            (¬ (existing.rrStart = existing.rrEnd ∧ existing.rrStart = buf.length) ↔
              result = some existing) := by
  obtain ⟨options, parsed, _⟩ := exists_parseOptions buf
  obtain ⟨result, searched, bounds⟩ := exists_findOptRecord buf
  refine ⟨parseARecords_returns buf, fun offset => ?_, ⟨options, parsed⟩,
    minTtlFrom_ne_panic buf, result, searched, fun opt found => ?_, fun ip => ?_⟩
  · obtain ⟨next, skipped, _⟩ := exists_skipRr buf offset
    exact ⟨next, skipped⟩
  · have within := bounds opt found
    have room := within.room
    have inside := within.inside
    exact ⟨within.header, room, inside, fun newOptions =>
      rebuildWithNewOpt_returns newOptions (by omega) inside⟩
  · obtain ⟨existing, newOptions, same, found | ⟨absent, start, stop⟩⟩ :=
      setEcs_eq_rebuild searched ip
    · have within := bounds existing found
      have room := within.room
      have inside := within.inside
      refine ⟨existing, newOptions, same,
        rebuildWithNewOpt_returns newOptions (by omega) inside, iff_of_true ?_ found⟩
      rintro ⟨empty, _⟩
      omega
    · refine ⟨existing, newOptions, same,
        rebuildWithNewOpt_returns newOptions start.le stop.le, iff_of_false ?_ ?_⟩
      · exact not_not_intro ⟨start.trans stop.symm, start⟩
      · rw [absent]
        simp

end DnsHijacker.Shared.Dns
