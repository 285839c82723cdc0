import DnsHijacker.Shared.Dns.NameSpec

/-!
# The packets of the worker

The worker is a script.  An index outside an array gives `undefined` there, arithmetic on it gives
`NaN`, and a `DataView` throws; so a loop over the octets of a name may never end, where a program
with bounds checks would panic.  A packet is its octets, and an address is the text the script
keeps of it.
-/

namespace DnsHijacker.Worker

open DnsHijacker.Rust

/-! ## Calls -/

/-- Why a call has no value. -/
inductive JsError where
  /-- The loop is not through after as many turns as it was given. -/
  | running
  | rangeError
  deriving DecidableEq, Repr

/-- What a call of the script comes to. -/
abbrev Js := Except JsError

/-- `view.getUint16(offset)` -/
def getUint16 (packet : Bytes) (offset : Nat) : Js Nat :=
  match packet[offset]?, packet[offset + 1]? with
  | some high, some low => .ok (high.toNat * 256 + low.toNat)
  | _, _ => .error .rangeError

/-- `view.setUint16(offset, value)`, of an array that is long enough -/
def setUint16 (packet : Bytes) (offset value : Nat) : Bytes :=
  (packet.set offset (UInt8.ofNat (value / 256))).set (offset + 1) (UInt8.ofNat (value % 256))

/-- `packet.slice(start, stop)` -/
def slice (packet : Bytes) (start stop : Nat) : Bytes :=
  (packet.take stop).drop start

/-! ## Names -/

/-- `skipName`.  The offset is a number or `NaN`, and `packet[NaN]` is `undefined` as well. -/
def skipName (packet : Bytes) : Nat → Option Nat → Js Nat
  | 0, _ => .error .running
  | budget + 1, none => skipName packet budget none
  | budget + 1, some offset =>
      match packet[offset]? with
      | none => skipName packet budget none
      | some len =>
          if len.toNat = 0 then .ok (offset + 1)
          else if len.toNat &&& 0xC0 = 0xC0 then .ok (offset + 2)
          else skipName packet budget (some (offset + (len.toNat + 1)))

/-- The loops over the questions. -/
def skipQuestions (budget : Nat) (packet : Bytes) : Nat → Nat → Js Nat
  | 0, offset => .ok offset
  | count + 1, offset => do
      let offset ← skipName packet budget (some offset)
      skipQuestions budget packet count (offset + 4)

/-! ## Addresses -/

/-- An octet as part of a text. -/
def octetText : Option UInt8 → Text
  | some octet => Nat.toDigits 10 octet.toNat
  | none => "undefined".toList

theorem octetText_some (octet : UInt8) : octetText (some octet) = Nat.toDigits 10 octet.toNat :=
  rfl

/-- The text that is kept of the address at an offset. -/
def ipText (packet : Bytes) (offset : Nat) : Text :=
  octetText packet[offset]? ++ '.' :: (octetText packet[offset + 1]? ++
    '.' :: (octetText packet[offset + 2]? ++ '.' :: octetText packet[offset + 3]?))

/-- The loop of `extractARecords` over the answers. -/
def extractFrom (budget : Nat) (packet : Bytes) : Nat → Nat → Js (List Text)
  | 0, _ => .ok []
  | count + 1, offset => do
      let offset ← skipName packet budget (some offset)
      let type ← getUint16 packet offset
      let rdlength ← getUint16 packet (offset + 8)
      let rdataOffset := offset + 10
      let here := if type = 1 ∧ rdlength = 4 then [ipText packet rdataOffset] else []
      let rest ← extractFrom budget packet count (rdataOffset + rdlength)
      return here ++ rest

/-- `extractARecords` -/
def extractARecords (budget : Nat) (packet : Bytes) : Js (List Text) := do
  let qdCount ← getUint16 packet 4
  let anCount ← getUint16 packet 6
  let offset ← skipQuestions budget packet qdCount 12
  extractFrom budget packet anCount offset

/-- `Number` of a part of an address, as it is stored in an array of octets.  A part is a decimal
number or `undefined`, which is `NaN` and stored as zero. -/
def numberOctet (part : Text) : UInt8 :=
  if part ≠ [] ∧ part.all Char.isDigit then
    UInt8.ofNat (part.foldl (fun value c => value * 10 + (c.toNat - 48)) 0)
  else 0

/-- The octets of a new record before its address. -/
def recordStart : Bytes :=
  [0xC0, 0x0C, 0x00, 0x01, 0x00, 0x01, 0, 0, 0, 60, 0x00, 0x04]

/-- `buildARecord`; `set` throws if there are too many parts. -/
def buildARecord (ip : Text) : Js Bytes :=
  let parts := (ip.splitOn '.').map numberOctet
  if parts.length > 4 then .error .rangeError
  else .ok (recordStart ++ parts ++ List.replicate (4 - parts.length) 0)

/-- `ips.map((ip) => buildARecord(ip))`, all in one array -/
def buildARecords : List Text → Js Bytes
  | [] => .ok []
  | ip :: ips => do
      let record ← buildARecord ip
      let records ← buildARecords ips
      return record ++ records

/-! ## Rewriting -/

/-- The loop of `rewriteAnswersWithIps` over the answers. -/
def skipAnswers (budget : Nat) (packet : Bytes) : Nat → Nat → Js Nat
  | 0, offset => .ok offset
  | count + 1, offset => do
      let offset ← skipName packet budget (some offset)
      let rdlength ← getUint16 packet (offset + 8)
      skipAnswers budget packet count (offset + (10 + rdlength))

/-- The header with the counts that are written into it. -/
def setCounts (header : Bytes) (anCount nsCount arCount : Nat) : Bytes :=
  setUint16 (setUint16 (setUint16 header 6 anCount) 8 nsCount) 10 arCount

/-- `rewriteAnswersWithIps` -/
def rewriteAnswersWithIps (budget : Nat) (templatePacket : Bytes) (ips : List Text) : Js Bytes := do
  let qdCount ← getUint16 templatePacket 4
  let anCount ← getUint16 templatePacket 6
  let nsCount ← getUint16 templatePacket 8
  let arCount ← getUint16 templatePacket 10
  let questionEnd ← skipQuestions budget templatePacket qdCount 12
  let answersEnd ← skipAnswers budget templatePacket anCount questionEnd
  let tail := templatePacket.drop answersEnd
  let header := slice templatePacket 0 12
  let question := slice templatePacket 12 questionEnd
  let answers ← buildARecords ips
  return setCounts header ips.length nsCount arCount ++ question ++ answers ++ tail

end DnsHijacker.Worker
