import DnsHijacker.Shared.Dns.Message

/-!
# Client subnet options

A plain query leaves the relay with an EDNS0 Client Subnet option that names the
client's /24.  The option replaces one that is there; a query without an OPT
record gets one.
-/

namespace DnsHijacker.Shared.Dns

open DnsHijacker.Rust

/-- `EdnsOption` -/
structure EdnsOption where
  code : UInt16
  data : Bytes
  deriving DecidableEq, Repr

/-- Code, length and data of an option. -/
def EdnsOption.encode (option : EdnsOption) : Bytes :=
  u16ToBeBytes option.code ++ (u16ToBeBytes (UInt16.ofNat option.data.length) ++ option.data)

def encodeOptions (options : List EdnsOption) : Bytes :=
  options.flatMap EdnsOption.encode

@[simp]
theorem encodeOptions_cons (option : EdnsOption) (options : List EdnsOption) :
    encodeOptions (option :: options) = option.encode ++ encodeOptions options :=
  rfl

/-- The loop of `parse_options` from `pos` on. -/
def parseOptionsFrom (options : Bytes) (pos : Nat) : Exec (List EdnsOption) :=
  if pos + 4 ≤ options.length then do
    let code ← readU16 options pos
    let len := (← readU16 options (pos + 2)).toNat
    if pos + 4 + len > options.length then return []
    let data ← slice options (pos + 4) (pos + 4 + len)
    return ⟨code, data⟩ :: (← parseOptionsFrom options (pos + (4 + len)))
  else return []
termination_by options.length - pos

/-- `parse_options` -/
def parseOptions (options : Bytes) : Exec (List EdnsOption) :=
  parseOptionsFrom options 0

/-- `OPT_CODE_ECS` -/
def optCodeEcs : UInt16 :=
  8

/-- The address of the client, as far as it is looked at. -/
inductive ClientIp where
  | v4 (addr : Ipv4Addr)
  | v6
  deriving DecidableEq

/-- `ecs_data`: family 1, source prefix 24, scope 0 and three octets. -/
def ecsData (ip : Ipv4Addr) : Bytes :=
  [0x00, 0x01, 24, 0, ip.a, ip.b, ip.c]

/-- `rebuild_with_new_opt`.  The count is incremented as in a release build. -/
def rebuildWithNewOpt (payload : Bytes) (existing : EdnsOpt) (newOptions : Bytes) :
    Exec (Option Bytes) := do
  let front ← slice payload 0 existing.rrStart
  let rest ← slice payload existing.rrEnd payload.length
  let out := front ++ [0x00] ++ u16ToBeBytes 41 ++
    u16ToBeBytes existing.fields.udpPayloadSize ++ [existing.fields.extendedRcode] ++
    [existing.fields.version] ++ u16ToBeBytes existing.fields.flags ++
    u16ToBeBytes (UInt16.ofNat newOptions.length) ++ newOptions ++ rest
  if existing.rrStart = existing.rrEnd ∧ existing.rrStart = payload.length then
    if out.length < 12 then return none
    let newArcount := (← readU16 out 10) + 1
    return some ((out.set 10 (newArcount >>> 8).toUInt8).set 11 (newArcount &&& 0xFF).toUInt8)
  return some out

/-- The end of `set_ecs_option`, with the octets to send. -/
def setEcs (payload : Bytes) (ip : Ipv4Addr) : Exec (Option Bytes) := do
  let ecs : EdnsOption := ⟨optCodeEcs, ecsData ip⟩
  match ← findOptRecord payload with
  | some existing =>
      let options := (← parseOptions existing.fields.options).filter (·.code ≠ optCodeEcs)
      rebuildWithNewOpt payload existing (encodeOptions options ++ ecs.encode)
  | none =>
      let synthetic : EdnsOpt := {
        rrStart := payload.length
        rrEnd := payload.length
        fields := {
          udpPayloadSize := 4096
          extendedRcode := 0
          version := 0
          flags := 0
          options := [] } }
      rebuildWithNewOpt payload synthetic ecs.encode

/-- `set_ecs_option`.  The address that may stand in for a loopback client is
given by its octets. -/
def setEcsOption (payload : Bytes) (clientAddr : ClientIp)
    (fabricatePublicIpForLoopback : Option Ipv4Addr) : Exec (Option Bytes) :=
  match clientAddr with
  | .v4 ipv4 =>
      if ipv4.a = 127 then
        match fabricatePublicIpForLoopback with
        | some fake => setEcs payload fake
        | none => return some payload
      else setEcs payload ipv4
  | .v6 => return none

end DnsHijacker.Shared.Dns
