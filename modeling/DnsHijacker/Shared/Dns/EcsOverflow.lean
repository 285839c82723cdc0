import DnsHijacker.Shared.Dns.Bounds

/-!
# The arithmetic of the client subnet option

A release build wraps a sum that is too large, a debug build stops there.  The
functions below are `set_ecs_option` and what it calls as a debug build runs them: every
sum of the source is a checked one.  They come to the results of the release build, up to
the one sum that can be too large.
-/

namespace DnsHijacker.Shared.Dns

open DnsHijacker.Rust

/-! ## Checked sums -/

/-- Why a debug build does not return a value. -/
inductive Stop where
  | overflow
  | fault (fault : Fault)
  deriving DecidableEq, Repr

abbrev Debug := Except Stop

/-- A call without sums is the same in both builds. -/
def ofExec {α : Type} (result : Exec α) : Debug α :=
  result.mapError .fault

/-- A sum of two `usize` values. -/
def usizeAdd (a b : Nat) : Debug { sum : Nat // sum = a + b } :=
  if a + b < 2 ^ 64 then .ok ⟨a + b, rfl⟩ else .error .overflow

/-- A sum of two `u16` values. -/
def u16Add (a b : UInt16) : Debug UInt16 :=
  if a.toNat + b.toNat < 2 ^ 16 then .ok (a + b) else .error .overflow

/-! ## The debug build -/

/-- `u16::from_be_bytes([buf[base + i], buf[base + (i + 1)]])` -/
def readU16Debug (buf : Bytes) (base i : Nat) : Debug UInt16 := do
  let high ← ofExec (index buf (← usizeAdd base i))
  let low ← ofExec (index buf (← usizeAdd base (i + 1)))
  return u16FromBeBytes high low

/-- `skip_name` -/
def skipNameDebug (buf : Bytes) (pos : Nat) : Debug (Option Nat) :=
  if inside : pos ≥ buf.length then return none
  else do
    let len := (buf.get ⟨pos, Nat.lt_of_not_ge inside⟩).toNat
    if len = 0 then return some (← usizeAdd pos 1)
    else if len &&& 0xC0 = 0xC0 then return some (← usizeAdd pos 2)
    else
      let step ← usizeAdd 1 len
      let next ← usizeAdd pos step
      skipNameDebug buf next
termination_by buf.length - pos
decreasing_by
  rw [next.property, step.property]
  omega

/-- The loop over the question section. -/
def skipQuestionsDebug (buf : Bytes) : Nat → Nat → Debug (Option Nat)
  | 0, pos => return some pos
  | count + 1, pos => do
      match ← skipNameDebug buf pos with
      | none => return none
      | some nameEnd => skipQuestionsDebug buf count (← usizeAdd nameEnd 4)

/-- `skip_rr` -/
def skipRrDebug (buf : Bytes) (offset : Nat) : Debug (Option Nat) := do
  match ← skipNameDebug buf offset with
  | none => return none
  | some nameEnd =>
      let fixed ← usizeAdd nameEnd 10
      if fixed.val > buf.length then return none
      let rdlength := (← readU16Debug buf nameEnd 8).toNat
      let stop ← usizeAdd (← usizeAdd nameEnd 10) rdlength
      if stop.val > buf.length then return none
      return some stop

/-- The loop that skips answer and authority records. -/
def skipRrsDebug (buf : Bytes) : Nat → Nat → Debug (Option Nat)
  | 0, pos => return some pos
  | count + 1, pos => do
      match ← skipRrDebug buf pos with
      | none => return none
      | some next => skipRrsDebug buf count next

/-- The loop over the additional section. -/
def searchOptDebug (buf : Bytes) : Nat → Nat → Debug (Option EdnsOpt)
  | 0, _ => return none
  | count + 1, pos => do
      match ← skipNameDebug buf pos with
      | none => return none
      | some nameEnd =>
          let fixed ← usizeAdd nameEnd 10
          if fixed.val > buf.length then return none
          let rtype ← readU16Debug buf nameEnd 0
          let rclass ← readU16Debug buf nameEnd 2
          let ttlBytes ← ofExec (slice buf (← usizeAdd nameEnd 4) (← usizeAdd nameEnd 8))
          let rdlength := (← readU16Debug buf nameEnd 8).toNat
          let rdataStart ← usizeAdd nameEnd 10
          let stop ← usizeAdd rdataStart rdlength
          if stop.val > buf.length then return none
          if rtype = 41 then
            return some {
              rrStart := pos
              rrEnd := ← usizeAdd rdataStart rdlength
              fields := {
                udpPayloadSize := rclass
                extendedRcode := ← ofExec (index ttlBytes 0)
                version := ← ofExec (index ttlBytes 1)
                flags := ← ofExec (readU16 ttlBytes 2)
                options := ← ofExec (slice buf rdataStart (← usizeAdd rdataStart rdlength)) } }
          searchOptDebug buf count (← usizeAdd rdataStart rdlength)

/-- `find_opt_record` -/
def findOptRecordDebug (buf : Bytes) : Debug (Option EdnsOpt) := do
  if buf.length < 12 then return none
  let qdcount := (← ofExec (readU16 buf 4)).toNat
  let ancount := (← ofExec (readU16 buf 6)).toNat
  let nscount := (← ofExec (readU16 buf 8)).toNat
  let arcount := (← ofExec (readU16 buf 10)).toNat
  match ← skipQuestionsDebug buf qdcount 12 with
  | none => return none
  | some pos =>
      match ← skipRrsDebug buf (← usizeAdd ancount nscount) pos with
      | none => return none
      | some pos => searchOptDebug buf arcount pos

/-- The loop of `parse_options` from `pos` on. -/
def parseOptionsFromDebug (options : Bytes) (pos : Nat) : Debug (List EdnsOption) := do
  let fixed ← usizeAdd pos 4
  if fixed.val ≤ options.length then
    let code ← readU16Debug options pos 0
    let len := (← readU16Debug options pos 2).toNat
    let stop ← usizeAdd (← usizeAdd pos 4) len
    if stop.val > options.length then return []
    let data ← ofExec (slice options (← usizeAdd pos 4) stop)
    let step ← usizeAdd 4 len
    let next ← usizeAdd pos step
    return ⟨code, data⟩ :: (← parseOptionsFromDebug options next)
  else return []
termination_by options.length - pos
decreasing_by
  have : fixed.val = pos + 4 := fixed.property
  rw [next.property, step.property]
  omega

/-- `parse_options` -/
def parseOptionsDebug (options : Bytes) : Debug (List EdnsOption) :=
  parseOptionsFromDebug options 0

/-- `rebuild_with_new_opt`.  The first two sums are the capacity of the new buffer. -/
def rebuildWithNewOptDebug (payload : Bytes) (existing : EdnsOpt) (newOptions : Bytes) :
    Debug (Option Bytes) := do
  let _ ← usizeAdd (← usizeAdd payload.length newOptions.length) 16
  let front ← ofExec (slice payload 0 existing.rrStart)
  let rest ← ofExec (slice payload existing.rrEnd payload.length)
  let out := front ++ [0x00] ++ u16ToBeBytes 41 ++
    u16ToBeBytes existing.fields.udpPayloadSize ++ [existing.fields.extendedRcode] ++
    [existing.fields.version] ++ u16ToBeBytes existing.fields.flags ++
    u16ToBeBytes (UInt16.ofNat newOptions.length) ++ newOptions ++ rest
  if existing.rrStart = existing.rrEnd ∧ existing.rrStart = payload.length then
    if out.length < 12 then return none
    let newArcount ← u16Add (← ofExec (readU16 out 10)) 1
    return some ((out.set 10 (newArcount >>> 8).toUInt8).set 11 (newArcount &&& 0xFF).toUInt8)
  return some out

/-- The end of `set_ecs_option`, with the octets to send. -/
def setEcsDebug (payload : Bytes) (ip : Ipv4Addr) : Debug (Option Bytes) := do
  let ecs : EdnsOption := ⟨optCodeEcs, ecsData ip⟩
  match ← findOptRecordDebug payload with
  | some existing =>
      let options := (← parseOptionsDebug existing.fields.options).filter (·.code ≠ optCodeEcs)
      rebuildWithNewOptDebug payload existing (encodeOptions options ++ ecs.encode)
  | none =>
      let synthetic : EdnsOpt := {
        rrStart := payload.length
        rrEnd := payload.length
        fields := {
          udpPayloadSize := 4096
          extendedRcode := 0
          version := 0
          flags := 0
          options := [] } }
      rebuildWithNewOptDebug payload synthetic ecs.encode

/-- `set_ecs_option` -/
def setEcsOptionDebug (payload : Bytes) (clientAddr : ClientIp)
    (fabricatePublicIpForLoopback : Option Ipv4Addr) : Debug (Option Bytes) :=
  match clientAddr with
  | .v4 ipv4 =>
      if ipv4.a = 127 then
        match fabricatePublicIpForLoopback with
        | some fake => setEcsDebug payload fake
        | none => return some payload
      else setEcsDebug payload ipv4
  | .v6 => return none

/-! ## Where no sum is too large -/

theorem usizeAdd_eq {a b : Nat} (small : a + b < 2 ^ 64) : usizeAdd a b = .ok ⟨a + b, rfl⟩ :=
  if_pos small

theorem readU16Debug_eq (buf : Bytes) {base i : Nat} (small : base + (i + 1) < 2 ^ 64) :
    readU16Debug buf base i = ofExec (readU16 buf (base + i)) := by
  rw [readU16Debug, usizeAdd_eq (by omega : base + i < 2 ^ 64), usizeAdd_eq small, readU16]
  simp only [bind, Except.bind, Nat.add_assoc]
  cases index buf (base + i) with
  | error fault => rfl
  | ok high => cases index buf (base + (i + 1)) <;> rfl

theorem skipNameDebug_of_byte {buf : Bytes} {pos : Nat} {byte : UInt8}
    (found : buf[pos]? = some byte) :
    skipNameDebug buf pos =
      if byte.toNat = 0 then do return some (← usizeAdd pos 1)
      else if byte.toNat &&& 0xC0 = 0xC0 then do return some (← usizeAdd pos 2)
      else (do
        let step ← usizeAdd 1 byte.toNat
        let next ← usizeAdd pos step
        skipNameDebug buf next) := by
  obtain ⟨inside, rfl⟩ := List.getElem?_eq_some_iff.mp found
  rw [skipNameDebug, dif_neg (Nat.not_le_of_lt inside)]
  rfl

section

variable {buf : Bytes} (size : buf.length < 2 ^ 63)
include size

theorem skipNameDebug_eq (pos : Nat) : skipNameDebug buf pos = .ok (skipName buf pos) := by
  induction pos using skipName.induct buf with
  | case1 pos outside =>
      rw [skipNameDebug, skipName, dif_pos outside, dif_pos outside]
      rfl
  | case2 pos inside len root =>
      have byte := List.getElem?_eq_getElem (Nat.lt_of_not_ge inside)
      rw [skipNameDebug_of_byte byte, skipName_eq byte, if_pos root, if_pos root,
        usizeAdd_eq (by omega)]
      rfl
  | case3 pos inside len label pointer =>
      have byte := List.getElem?_eq_getElem (Nat.lt_of_not_ge inside)
      rw [skipNameDebug_of_byte byte, skipName_eq byte, if_neg label, if_neg label,
        if_pos pointer, if_pos pointer, usizeAdd_eq (by omega)]
      rfl
  | case4 pos inside len label plain ih =>
      have byte := List.getElem?_eq_getElem (Nat.lt_of_not_ge inside)
      have short : len < 256 := buf[pos].toNat_lt
      rw [skipNameDebug_of_byte byte, skipName_eq byte, if_neg label, if_neg label,
        if_neg plain, if_neg plain, usizeAdd_eq (by omega)]
      simp only [bind, Except.bind]
      rw [usizeAdd_eq (by omega)]
      exact ih

theorem skipQuestionsDebug_eq (count pos : Nat) :
    skipQuestionsDebug buf count pos = .ok (skipQuestions buf count pos) := by
  induction count generalizing pos with
  | zero => rfl
  | succ count ih =>
      rw [skipQuestionsDebug, skipQuestions, skipNameDebug_eq size]
      simp only [bind, Except.bind]
      cases skipped : skipName buf pos with
      | none => rfl
      | some nameEnd =>
          have near := (skipName_bounds skipped).2
          simp only [usizeAdd_eq (by omega : nameEnd + 4 < 2 ^ 64)]
          exact ih _

theorem skipRrDebug_eq (pos : Nat) : skipRrDebug buf pos = ofExec (skipRr buf pos) := by
  rw [skipRrDebug, skipRr, skipNameDebug_eq size]
  simp only [bind, Except.bind]
  cases skipped : skipName buf pos with
  | none => rfl
  | some nameEnd =>
      have near := (skipName_bounds skipped).2
      simp only [usizeAdd_eq (by omega : nameEnd + 10 < 2 ^ 64),
        readU16Debug_eq buf (by omega : nameEnd + (8 + 1) < 2 ^ 64)]
      by_cases cut : nameEnd + 10 > buf.length
      · rw [if_pos cut, if_pos cut]
        rfl
      rw [if_neg cut, if_neg cut]
      cases readU16 buf (nameEnd + 8) with
      | error fault => rfl
      | ok rdlength =>
          have bound := rdlength.toNat_lt
          simp only [ofExec, Except.mapError]
          rw [usizeAdd_eq (by omega)]
          dsimp only
          split <;> rfl

theorem skipRrsDebug_eq (count pos : Nat) :
    skipRrsDebug buf count pos = ofExec (skipRrs buf count pos) := by
  induction count generalizing pos with
  | zero => rfl
  | succ count ih =>
      rw [skipRrsDebug, skipRrs, skipRrDebug_eq size]
      cases skipRr buf pos with
      | error fault => rfl
      | ok next =>
          cases next with
          | none => rfl
          | some next => exact ih next

theorem searchOptDebug_eq (count pos : Nat) :
    searchOptDebug buf count pos = ofExec (searchOpt buf count pos) := by
  induction count generalizing pos with
  | zero => rfl
  | succ count ih =>
      rw [searchOptDebug, searchOpt, skipNameDebug_eq size]
      simp only [bind, Except.bind]
      cases skipped : skipName buf pos with
      | none => rfl
      | some nameEnd =>
          have near := (skipName_bounds skipped).2
          simp only [usizeAdd_eq (by omega : nameEnd + 10 < 2 ^ 64),
            usizeAdd_eq (by omega : nameEnd + 4 < 2 ^ 64),
            usizeAdd_eq (by omega : nameEnd + 8 < 2 ^ 64),
            readU16Debug_eq buf (by omega : nameEnd + (0 + 1) < 2 ^ 64),
            readU16Debug_eq buf (by omega : nameEnd + (2 + 1) < 2 ^ 64),
            readU16Debug_eq buf (by omega : nameEnd + (8 + 1) < 2 ^ 64), Nat.add_zero]
          by_cases cut : nameEnd + 10 > buf.length
          · rw [if_pos cut, if_pos cut]
            rfl
          obtain ⟨rtype, typeRead⟩ := readU16_returns (by omega : nameEnd + 2 ≤ buf.length)
          obtain ⟨rclass, classRead⟩ := readU16_returns (by omega : nameEnd + 2 + 2 ≤ buf.length)
          obtain ⟨rdlength, lengthRead⟩ :=
            readU16_returns (by omega : nameEnd + 8 + 2 ≤ buf.length)
          have bound := rdlength.toNat_lt
          rw [if_neg cut, if_neg cut, typeRead, classRead, lengthRead,
            slice_eq_ok (by omega) (by omega)]
          simp only [ofExec, Except.mapError,
            usizeAdd_eq (by omega : nameEnd + 10 + rdlength.toNat < 2 ^ 64)]
          by_cases short : nameEnd + 10 + rdlength.toNat > buf.length
          · rw [if_pos short, if_pos short]
            rfl
          rw [if_neg short, if_neg short, slice_eq_ok (by omega) (by omega)]
          by_cases found : rtype = 41
          · rw [if_pos found, if_pos found]
            generalize (buf.take (nameEnd + 8)).drop (nameEnd + 4) = ttlBytes
            cases index ttlBytes 0 with
            | error fault => rfl
            | ok extended =>
                cases index ttlBytes 1 with
                | error fault => rfl
                | ok version => cases readU16 ttlBytes 2 <;> rfl
          · rw [if_neg found, if_neg found]
            exact ih _

theorem findOptRecordDebug_eq : findOptRecordDebug buf = ofExec (findOptRecord buf) := by
  rw [findOptRecordDebug, findOptRecord]
  by_cases short : buf.length < 12
  · rw [if_pos short, if_pos short]
    rfl
  obtain ⟨qdcount, qdRead⟩ := readU16_returns (by omega : 4 + 2 ≤ buf.length)
  obtain ⟨ancount, anRead⟩ := readU16_returns (by omega : 6 + 2 ≤ buf.length)
  obtain ⟨nscount, nsRead⟩ := readU16_returns (by omega : 8 + 2 ≤ buf.length)
  obtain ⟨arcount, arRead⟩ := readU16_returns (by omega : 10 + 2 ≤ buf.length)
  have anBound := ancount.toNat_lt
  have nsBound := nscount.toNat_lt
  rw [if_neg short, if_neg short, qdRead, anRead, nsRead, arRead]
  simp only [bind, Except.bind, ofExec, Except.mapError, skipQuestionsDebug_eq size,
    usizeAdd_eq (by omega : ancount.toNat + nscount.toNat < 2 ^ 64)]
  cases skipQuestions buf qdcount.toNat 12 with
  | none => rfl
  | some pos =>
      dsimp only
      rw [skipRrsDebug_eq size]
      cases skipRrs buf (ancount.toNat + nscount.toNat) pos with
      | error fault => rfl
      | ok next =>
          cases next with
          | none => rfl
          | some next => exact searchOptDebug_eq size _ _

theorem parseOptionsFromDebug_eq (pos : Nat) (inside : pos ≤ buf.length) :
    parseOptionsFromDebug buf pos = ofExec (parseOptionsFrom buf pos) := by
  rw [parseOptionsFromDebug, parseOptionsFrom, usizeAdd_eq (by omega)]
  simp only [bind, Except.bind]
  by_cases more : pos + 4 ≤ buf.length
  · obtain ⟨code, codeRead⟩ := readU16_returns (by omega : pos + 2 ≤ buf.length)
    obtain ⟨len, lenRead⟩ := readU16_returns (by omega : pos + 2 + 2 ≤ buf.length)
    have bound := len.toNat_lt
    rw [if_pos more, if_pos more, readU16Debug_eq buf (by omega), readU16Debug_eq buf (by omega),
      Nat.add_zero, codeRead, lenRead]
    simp only [ofExec, Except.mapError,
      usizeAdd_eq (by omega : pos + 4 + len.toNat < 2 ^ 64)]
    by_cases cut : pos + 4 + len.toNat > buf.length
    · rw [if_pos cut, if_pos cut]
      rfl
    · rw [if_neg cut, if_neg cut, slice_eq_ok (by omega) (by omega),
        usizeAdd_eq (by omega : 4 + len.toNat < 2 ^ 64)]
      simp only [usizeAdd_eq (by omega : pos + (4 + len.toNat) < 2 ^ 64)]
      rw [parseOptionsFromDebug_eq _ (by omega)]
      cases parseOptionsFrom buf (pos + (4 + len.toNat)) <;> rfl
  · rw [if_neg more, if_neg more]
    rfl
termination_by buf.length - pos

end

/-! ## The record that is found -/

/-- The record is not empty, and its data are as long as two octets can say. -/
structure Found (opt : EdnsOpt) : Prop where
  start_lt : opt.rrStart < opt.rrEnd
  options_lt : opt.fields.options.length < 65536

theorem InBounds.found {buf : Bytes} {opt : EdnsOpt} (bounds : InBounds buf opt) : Found opt where
  start_lt := by
    have room := bounds.room
    omega
  options_lt := bounds.options_lt

/-! ## The count of the header -/

/-- ARCOUNT -/
def arcount (buf : Bytes) : UInt16 :=
  u16FromBeBytes (buf[10]?.getD 0) (buf[11]?.getD 0)

theorem readU16_arcount {payload : Bytes} (header : 12 ≤ payload.length) (rest : Bytes) :
    readU16 (payload ++ rest) 10 = .ok (arcount payload) := by
  have high : payload[10]? = some payload[10] := List.getElem?_eq_getElem (by omega)
  have low : payload[11]? = some payload[11] := List.getElem?_eq_getElem (by omega)
  rw [readU16, index_eq_ok ((List.getElem?_append_left (by omega)).trans high),
    index_eq_ok ((List.getElem?_append_left (by omega)).trans low), arcount, high, low]
  rfl

/-- The buffer with another ARCOUNT. -/
def withArcount (buf : Bytes) (count : UInt16) : Bytes :=
  (buf.set 10 (count >>> 8).toUInt8).set 11 (count &&& 0xFF).toUInt8

theorem arcount_withArcount {buf : Bytes} (header : 12 ≤ buf.length) (count : UInt16) :
    arcount (withArcount buf count) = count := by
  have low : 11 < (buf.set 10 (count >>> 8).toUInt8).length := by
    rw [List.length_set]
    omega
  rw [arcount, withArcount, List.getElem?_set_ne (by decide), List.getElem?_set_self (by omega),
    List.getElem?_set_self low, toUInt8_shiftRight, toUInt8_and]
  exact u16FromBeBytes_toBeBytes count

/-- The record that `set_ecs_option` puts behind a packet without one. -/
def newOpt (ip : Ipv4Addr) : Bytes :=
  [0x00] ++ u16ToBeBytes 41 ++ u16ToBeBytes 4096 ++ [0] ++ [0] ++ u16ToBeBytes 0 ++
    u16ToBeBytes 11 ++ EdnsOption.encode ⟨optCodeEcs, ecsData ip⟩

theorem append_newOpt (payload : Bytes) (ip : Ipv4Addr) :
    payload ++ [0x00] ++ u16ToBeBytes 41 ++ u16ToBeBytes 4096 ++ [0] ++ [0] ++ u16ToBeBytes 0 ++
      u16ToBeBytes (UInt16.ofNat (EdnsOption.encode ⟨optCodeEcs, ecsData ip⟩).length) ++
      EdnsOption.encode ⟨optCodeEcs, ecsData ip⟩ ++ [] = payload ++ newOpt ip := by
  simp only [newOpt, List.append_assoc, List.append_nil]
  rfl

section

variable {payload : Bytes} (header : 12 ≤ payload.length)
  (absent : findOptRecord payload = .ok none)
include header absent

/-- A packet without the record gets one. -/
theorem setEcs_of_absent (ip : Ipv4Addr) :
    setEcs payload ip =
      .ok (some (withArcount (payload ++ newOpt ip) (arcount payload + 1))) := by
  have whole := slice_front payload []
  have nothing := slice_rest payload []
  rw [List.append_nil] at whole nothing
  rw [setEcs, absent]
  simp only [bind, Except.bind, rebuildWithNewOpt, whole, nothing]
  rw [if_pos ⟨trivial, trivial⟩, append_newOpt, if_neg (by rw [List.length_append]; omega),
    readU16_arcount header]
  rfl

/-- A debug build stops at the count that has no successor. -/
theorem setEcsDebug_of_absent (size : payload.length < 2 ^ 63) (ip : Ipv4Addr) :
    setEcsDebug payload ip =
      if arcount payload = 65535 then .error .overflow else ofExec (setEcs payload ip) := by
  have whole := slice_front payload []
  have nothing := slice_rest payload []
  have eleven : (EdnsOption.encode ⟨optCodeEcs, ecsData ip⟩).length = 11 := rfl
  rw [List.append_nil] at whole nothing
  rw [setEcs_of_absent header absent, setEcsDebug, findOptRecordDebug_eq size, absent]
  simp only [ofExec, Except.mapError, bind, Except.bind, rebuildWithNewOptDebug, whole, nothing]
  rw [usizeAdd_eq (by omega)]
  dsimp only
  rw [usizeAdd_eq (by omega)]
  dsimp only
  rw [if_pos ⟨trivial, trivial⟩, append_newOpt, if_neg (by rw [List.length_append]; omega),
    readU16_arcount header]
  dsimp only
  have bound := (arcount payload).toNat_lt
  by_cases last : arcount payload = 65535
  · rw [if_pos last, last]
    rfl
  · have small : (arcount payload).toNat + (1 : UInt16).toNat < 2 ^ 16 := by
      have other : (arcount payload).toNat ≠ 65535 := fun eq => last (UInt16.toNat_inj.mp eq)
      have one : (1 : UInt16).toNat = 1 := rfl
      omega
    rw [if_neg last, u16Add, if_pos small]
    rfl

end

theorem rebuildWithNewOptDebug_eq {payload newOptions : Bytes} {existing : EdnsOpt}
    (size : payload.length + newOptions.length + 16 < 2 ^ 64)
    (there : existing.rrStart < existing.rrEnd) :
    rebuildWithNewOptDebug payload existing newOptions =
      ofExec (rebuildWithNewOpt payload existing newOptions) := by
  have old : ¬ (existing.rrStart = existing.rrEnd ∧ existing.rrStart = payload.length) := by
    rintro ⟨empty, _⟩
    omega
  rw [rebuildWithNewOptDebug, rebuildWithNewOpt, usizeAdd_eq (by omega)]
  simp only [bind, Except.bind, usizeAdd_eq size, if_neg old]
  cases slice payload 0 existing.rrStart with
  | error fault => rfl
  | ok front => cases slice payload existing.rrEnd payload.length <;> rfl

/-- Where a record is there, the two builds agree. -/
theorem setEcsDebug_of_found {payload : Bytes} {opt : EdnsOpt}
    (size : payload.length < 2 ^ 63) (present : findOptRecord payload = .ok (some opt))
    (found : Found opt) (ip : Ipv4Addr) :
    setEcsDebug payload ip = ofExec (setEcs payload ip) := by
  have short := found.options_lt
  obtain ⟨options, parsed, fits⟩ := exists_parseOptions opt.fields.options
  have longer : (encodeOptions (options.filter (·.code ≠ optCodeEcs)) ++
      EdnsOption.encode ⟨optCodeEcs, ecsData ip⟩).length ≤ (encodeOptions options).length + 11 := by
    have le := length_replaceSubnet_le ip options
    rw [encodeOptions_replaceSubnet] at le
    exact le
  have parsedDebug : parseOptionsDebug opt.fields.options = ofExec (parseOptions opt.fields.options) :=
    parseOptionsFromDebug_eq (by omega) 0 (Nat.zero_le _)
  rw [setEcs, setEcsDebug, findOptRecordDebug_eq size, present]
  have small : payload.length + (encodeOptions (options.filter (·.code ≠ optCodeEcs)) ++
      EdnsOption.encode ⟨optCodeEcs, ecsData ip⟩).length + 16 < 2 ^ 64 := by
    omega
  simp only [ofExec, Except.mapError, bind, Except.bind, parsedDebug, parsed]
  exact rebuildWithNewOptDebug_eq small found.start_lt

/-! ## The whole call -/

/-- The address whose octets are sent. -/
def sentFor (client : Ipv4Addr) (fabricate : Option Ipv4Addr) : Option Ipv4Addr :=
  if client.a = 127 then fabricate else some client

theorem setEcsOption_eq (payload : Bytes) (client : Ipv4Addr) (fabricate : Option Ipv4Addr) :
    setEcsOption payload (.v4 client) fabricate =
      (sentFor client fabricate).elim (.ok (some payload)) (setEcs payload) := by
  rw [sentFor]
  by_cases loopback : client.a = 127
  · cases fabricate <;> simp [setEcsOption, loopback, pure, Except.pure]
  · simp [setEcsOption, loopback]

theorem setEcsOptionDebug_eq (payload : Bytes) (client : Ipv4Addr)
    (fabricate : Option Ipv4Addr) :
    setEcsOptionDebug payload (.v4 client) fabricate =
      (sentFor client fabricate).elim (.ok (some payload)) (setEcsDebug payload) := by
  rw [sentFor]
  by_cases loopback : client.a = 127
  · cases fabricate <;> simp [setEcsOptionDebug, loopback, pure, Except.pure]
  · simp [setEcsOptionDebug, loopback]

/-- The call puts a new OPT record behind the packet. -/
def InsertsOpt (payload : Bytes) (client : Ipv4Addr) (fabricate : Option Ipv4Addr) : Prop :=
  sentFor client fabricate ≠ none ∧ findOptRecord payload = .ok none

/-- A call without a sum that is too large: a debug build does not stop at one, and a new
record is counted. -/
structure SumsFit (payload : Bytes) (client : Ipv4Addr) (fabricate : Option Ipv4Addr) : Prop where
  noOverflow : setEcsOptionDebug payload (.v4 client) fabricate ≠ .error .overflow
  counted : InsertsOpt payload client fabricate →
    ∃ out, setEcsOption payload (.v4 client) fabricate = .ok (some out) ∧
      (arcount out).toNat = (arcount payload).toNat + 1

theorem arcount_successor {count : UInt16} (more : count ≠ 65535) :
    (count + 1).toNat = count.toNat + 1 := by
  have bound := count.toNat_lt
  have other : count.toNat ≠ 65535 := fun eq => more (UInt16.toNat_inj.mp eq)
  have one : (1 : UInt16).toNat = 1 := rfl
  rw [UInt16.toNat_add, one]
  omega

section

variable {payload : Bytes} {client : Ipv4Addr} {fabricate : Option Ipv4Addr}

/-- A loopback client sends the packet as it is. -/
theorem sumsFit_of_left_out (leftOut : sentFor client fabricate = none) :
    SumsFit payload client fabricate := by
  constructor
  case noOverflow =>
    rw [setEcsOptionDebug_eq, leftOut]
    exact nofun
  case counted => exact fun inserts => absurd leftOut inserts.1

/-- A record that is there is replaced, and none is counted. -/
theorem sumsFit_of_found {opt : EdnsOpt} (size : payload.length < 2 ^ 63)
    (present : findOptRecord payload = .ok (some opt)) (found : Found opt) :
    SumsFit payload client fabricate := by
  constructor
  case noOverflow =>
    rw [setEcsOptionDebug_eq]
    cases sentFor client fabricate with
    | none => exact nofun
    | some ip =>
        rw [Option.elim_some, setEcsDebug_of_found size present found]
        cases setEcs payload ip <;> exact nofun
  case counted =>
    rintro ⟨_, absent⟩
    rw [present] at absent
    cases absent

/-- A new record is counted if there is a next count. -/
theorem sumsFit_iff_of_absent {ip : Ipv4Addr} (header : 12 ≤ payload.length)
    (size : payload.length < 2 ^ 63) (absent : findOptRecord payload = .ok none)
    (sent : sentFor client fabricate = some ip) :
    SumsFit payload client fabricate ↔ arcount payload ≠ 65535 := by
  have debug : setEcsOptionDebug payload (.v4 client) fabricate = setEcsDebug payload ip := by
    rw [setEcsOptionDebug_eq, sent, Option.elim_some]
  have release : setEcsOption payload (.v4 client) fabricate = setEcs payload ip := by
    rw [setEcsOption_eq, sent, Option.elim_some]
  rw [setEcsDebug_of_absent header absent size] at debug
  constructor
  · intro fits last
    apply fits.noOverflow
    rw [debug, if_pos last]
  · intro more
    rw [if_neg more, setEcs_of_absent header absent] at debug
    constructor
    case noOverflow =>
      rw [debug]
      exact nofun
    case counted =>
      intro _
      have longer : 12 ≤ (payload ++ newOpt ip).length := by
        rw [List.length_append]
        omega
      refine ⟨_, release.trans (setEcs_of_absent header absent ip), ?_⟩
      rw [arcount_withArcount longer, arcount_successor more]

end

/-- The sums fit exactly where the packet says it has fewer than 65535 additional records,
or no record is added. -/
theorem sumsFit_iff {payload : Bytes} (header : 12 ≤ payload.length)
    (size : payload.length < 2 ^ 63) (client : Ipv4Addr) (fabricate : Option Ipv4Addr) :
    SumsFit payload client fabricate ↔
      arcount payload ≠ 65535 ∨ sentFor client fabricate = none ∨
        ∃ opt, findOptRecord payload = .ok (some opt) := by
  obtain ⟨result, searched, bounds⟩ := exists_findOptRecord payload
  cases result with
  | some opt =>
      exact iff_of_true (sumsFit_of_found size searched (bounds opt rfl).found)
        (.inr (.inr ⟨opt, searched⟩))
  | none =>
      cases sent : sentFor client fabricate with
      | none => exact iff_of_true (sumsFit_of_left_out sent) (.inr (.inl rfl))
      | some ip =>
          rw [sumsFit_iff_of_absent header size searched sent, searched]
          simp

/-- A question for the addresses of `a` that counts 65535 additional records and has
none. -/
def manyAdditional : Bytes :=
  [0, 7, 1, 0, 0, 1, 0, 0, 0, 0, 0xFF, 0xFF, 1, 97, 0, 0, 1, 0, 1]

theorem findOptRecord_manyAdditional : findOptRecord manyAdditional = .ok none := by
  have label : skipName manyAdditional 12 = some 15 := by
    rw [skipName_eq (show manyAdditional[12]? = some 1 from rfl), if_neg (by decide),
      if_neg (by decide),
      skipName_eq (show manyAdditional[12 + (1 + UInt8.toNat 1)]? = some 0 from rfl),
      if_pos (by decide)]
    rfl
  have cut : skipName manyAdditional 19 = none := by
    rw [skipName, dif_pos (by decide)]
  have question : skipQuestions manyAdditional 1 12 = some 19 := by
    rw [skipQuestions, label]
    rfl
  have additional : searchOpt manyAdditional 65535 19 = .ok none := by
    rw [searchOpt, cut]
    rfl
  rw [findOptRecord, if_neg (by decide)]
  change (match skipQuestions manyAdditional 1 12 with
    | none => pure none
    | some pos => skipRrs manyAdditional 0 pos >>= fun
        | none => pure none
        | some pos => searchOpt manyAdditional 65535 pos) = _
  rw [question]
  exact additional

theorem sumsFit_iff_manyAdditional :
    SumsFit manyAdditional ⟨127, 0, 0, 1⟩ none ↔
      arcount manyAdditional ≠ 65535 ∨ sentFor ⟨127, 0, 0, 1⟩ none = none ∨
        ∃ opt, findOptRecord manyAdditional = .ok (some opt) :=
  sumsFit_iff (by decide) (by decide) _ _

/-- `resolve_query` passes the question on.  A debug build stops at its count, a release build
sends it with the count zero. -/
theorem arcount_wraps :
    12 ≤ manyAdditional.length ∧
      parseDomain .ascii manyAdditional 12 = .ok (some (['a'], 15)) ∧
      15 + 2 ≤ manyAdditional.length ∧
      InsertsOpt manyAdditional ⟨198, 51, 100, 42⟩ none ∧
      setEcsOptionDebug manyAdditional (.v4 ⟨198, 51, 100, 42⟩) none = .error .overflow ∧
      (arcount manyAdditional).toNat = 65535 ∧
      ∃ out, setEcsOption manyAdditional (.v4 ⟨198, 51, 100, 42⟩) none = .ok (some out) ∧
        (arcount out).toNat = 0 := by
  have absent := findOptRecord_manyAdditional
  refine ⟨by decide, by decide, by decide, ⟨by decide, absent⟩, ?debug, by decide, ?release⟩
  case debug =>
    rw [setEcsOptionDebug_eq]
    exact setEcsDebug_of_absent (by decide) absent (by decide) _
  case release =>
    rw [setEcsOption_eq]
    exact ⟨_, setEcs_of_absent (by decide) absent _, by decide⟩

end DnsHijacker.Shared.Dns
