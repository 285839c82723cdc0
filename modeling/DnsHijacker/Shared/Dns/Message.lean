import DnsHijacker.Shared.Dns.Name

/-!
# Reading and crafting messages

The functions of the program that work on whole messages: the replies it makes
itself, and its readers of answer and additional sections.  Every index and
slice goes through `index` and `slice`, so a missing bounds check would show as
`Fault.panic`.
-/

namespace DnsHijacker.Shared.Dns

open DnsHijacker.Rust

/-! ## Crafted replies -/

/-- The bytes one redirect address adds to a response: a pointer to the query
name, the type and class asked for, 60 seconds, and the address. -/
def redirectAnswer (qtype qclass : Bytes) (ip : Ipv4Addr) : Bytes :=
  [0xC0, 0x0C] ++ qtype ++ qclass ++ [0x00, 0x00, 0x00, 0x3C] ++ [0x00, 0x04] ++ ip.octets

/-- `craft_redirect_response` -/
def craftRedirectResponse (payload : Bytes) (qnameEnd : Nat) (ipsStr : List Text) :
    Exec (Option Bytes) := do
  if payload.length < 12 then return none
  let resp := (payload.set 2 0x81).set 3 0x80
  if qnameEnd + 4 > resp.length then return none
  let qtype ← slice resp qnameEnd (qnameEnd + 2)
  let qclass ← slice resp (qnameEnd + 2) (qnameEnd + 4)
  let ips := ipsStr.filterMap parseIpv4
  if ips.isEmpty then return none
  let ancount := UInt16.ofNat ips.length
  let resp := (resp.set 6 (ancount >>> 8).toUInt8).set 7 (ancount &&& 0xFF).toUInt8
  return some (resp ++ ips.flatMap (redirectAnswer qtype qclass))

/-- The query with other flags: what the two replies without records have in
common. -/
def craftFlagged (low : UInt8) (payload : Bytes) : Option Bytes :=
  if payload.length < 12 then none
  else some ((payload.set 2 0x81).set 3 low)

/-- `craft_nxdomain_response` -/
def craftNxdomainResponse : Bytes → Option Bytes :=
  craftFlagged 0x83

/-- `craft_servfail_response` -/
def craftServfailResponse : Bytes → Option Bytes :=
  craftFlagged 0x82

/-- `with_txid` -/
def withTxid (packet : Bytes) (first second : UInt8) : Bytes :=
  if packet.length ≥ 2 then (packet.set 0 first).set 1 second else packet

theorem length_withTxid (packet : Bytes) (first second : UInt8) :
    (withTxid packet first second).length = packet.length := by
  rcases packet with _ | ⟨x, _ | ⟨y, rest⟩⟩ <;> rfl

theorem withTxid_eq {packet : Bytes} (long : 2 ≤ packet.length) (first second : UInt8) :
    withTxid packet first second = first :: second :: packet.drop 2 := by
  rcases packet with _ | ⟨x, _ | ⟨y, rest⟩⟩
  · contradiction
  · exact absurd long (by simp)
  · rfl

/-- Replacing the transaction ID twice is replacing it once. -/
theorem withTxid_withTxid (packet : Bytes) (a b first second : UInt8) :
    withTxid (withTxid packet a b) first second = withTxid packet first second := by
  rcases packet with _ | ⟨x, _ | ⟨y, rest⟩⟩ <;> rfl

/-! ## Reading sections -/

/-- The loop over the question section: each question is a name and four
bytes. -/
def skipQuestions (buf : Bytes) : Nat → Nat → Option Nat
  | 0, pos => some pos
  | count + 1, pos => (skipName buf pos).bind fun nameEnd => skipQuestions buf count (nameEnd + 4)

/-- The answer loop of `parse_a_records`, from `pos` on. -/
def collectARecords (buf : Bytes) : Nat → Nat → Exec (List Ipv4Addr)
  | 0, _ => return []
  | count + 1, pos =>
      match skipName buf pos with
      | none => return []
      | some pos =>
          if pos + 10 > buf.length then return []
          else do
            let rtype ← readU16 buf pos
            let rdlength := (← readU16 buf (pos + 8)).toNat
            let rdataStart := pos + 10
            if rdataStart + rdlength > buf.length then return []
            let here ←
              if rtype = 1 ∧ rdlength = 4 then do
                let a ← index buf rdataStart
                let b ← index buf (rdataStart + 1)
                let c ← index buf (rdataStart + 2)
                let d ← index buf (rdataStart + 3)
                pure [(⟨a, b, c, d⟩ : Ipv4Addr)]
              else pure []
            return here ++ (← collectARecords buf count (rdataStart + rdlength))

/-- `parse_a_records` -/
def parseARecords (buf : Bytes) : Exec (List Ipv4Addr) := do
  if buf.length < 12 then return []
  let qdcount := (← readU16 buf 4).toNat
  let ancount := (← readU16 buf 6).toNat
  match skipQuestions buf qdcount 12 with
  | none => return []
  | some pos => collectARecords buf ancount pos

/-- The answer loop of `min_answer_ttl`. -/
def minTtlFrom (ucd : UnicodeData) (packet : Bytes) :
    Nat → Nat → UInt32 → Exec (Option UInt32)
  | 0, _, minTtl => return some minTtl
  | count + 1, offset, minTtl => do
      match ← parseDomain ucd packet offset with
      | none => return none
      | some (_, offset) =>
          if offset + 10 > packet.length then return none
          let ttl ← readU32 packet (offset + 4)
          let rdlen := (← readU16 packet (offset + 8)).toNat
          let offset := offset + (10 + rdlen)
          if offset > packet.length then return none
          minTtlFrom ucd packet count offset (if ttl > 0 then min minTtl ttl else minTtl)

/-- `u32::MAX` -/
def maxTtl : UInt32 :=
  0xFFFFFFFF

/-- `min_answer_ttl` -/
def minAnswerTtl (ucd : UnicodeData) (packet : Bytes) : Exec (Option UInt32) := do
  if packet.length < 12 then return none
  let ancount ← readU16 packet 6
  if ancount = 0 then return none
  match ← parseDomain ucd packet 12 with
  | none => return none
  | some (_, offset) =>
      match ← minTtlFrom ucd packet ancount.toNat (offset + 4) maxTtl with
      | none => return none
      | some minTtl => return if minTtl = maxTtl then none else some minTtl

/-! ## The EDNS0 record -/

/-- The fields of an EDNS0 OPT record that do not depend on its place. -/
structure OptFields where
  udpPayloadSize : UInt16
  extendedRcode : UInt8
  version : UInt8
  flags : UInt16
  options : Bytes
  deriving DecidableEq, Repr

/-- `EdnsOpt`: an OPT record and where it stands. -/
structure EdnsOpt where
  rrStart : Nat
  rrEnd : Nat
  fields : OptFields
  deriving DecidableEq, Repr

/-- `skip_rr` -/
def skipRr (buf : Bytes) (offset : Nat) : Exec (Option Nat) :=
  match skipName buf offset with
  | none => return none
  | some nameEnd =>
      if nameEnd + 10 > buf.length then return none
      else do
        let rdlength := (← readU16 buf (nameEnd + 8)).toNat
        let stop := nameEnd + 10 + rdlength
        if stop > buf.length then return none
        return some stop

/-- The loop that skips answer and authority records. -/
def skipRrs (buf : Bytes) : Nat → Nat → Exec (Option Nat)
  | 0, pos => return some pos
  | count + 1, pos => do
      match ← skipRr buf pos with
      | none => return none
      | some next => skipRrs buf count next

/-- The loop over the additional section. -/
def searchOpt (buf : Bytes) : Nat → Nat → Exec (Option EdnsOpt)
  | 0, _ => return none
  | count + 1, pos =>
      match skipName buf pos with
      | none => return none
      | some nameEnd =>
          if nameEnd + 10 > buf.length then return none
          else do
            let rtype ← readU16 buf nameEnd
            let rclass ← readU16 buf (nameEnd + 2)
            let ttlBytes ← slice buf (nameEnd + 4) (nameEnd + 8)
            let rdlength := (← readU16 buf (nameEnd + 8)).toNat
            let rdataStart := nameEnd + 10
            if rdataStart + rdlength > buf.length then return none
            if rtype = 41 then
              return some {
                rrStart := pos
                rrEnd := rdataStart + rdlength
                fields := {
                  udpPayloadSize := rclass
                  extendedRcode := ← index ttlBytes 0
                  version := ← index ttlBytes 1
                  flags := ← readU16 ttlBytes 2
                  options := ← slice buf rdataStart (rdataStart + rdlength) } }
            searchOpt buf count (rdataStart + rdlength)

/-- `find_opt_record` -/
def findOptRecord (buf : Bytes) : Exec (Option EdnsOpt) := do
  if buf.length < 12 then return none
  let qdcount := (← readU16 buf 4).toNat
  let ancount := (← readU16 buf 6).toNat
  let nscount := (← readU16 buf 8).toNat
  let arcount := (← readU16 buf 10).toNat
  match skipQuestions buf qdcount 12 with
  | none => return none
  | some pos =>
      match ← skipRrs buf (ancount + nscount) pos with
      | none => return none
      | some pos => searchOpt buf arcount pos

end DnsHijacker.Shared.Dns
