import DnsHijacker.Shared.Pipeline

/-!
# Upstream resolvers

A plain resolver is named by its address.  The pool keeps the resolvers that
passed a health check, with the time their probe took in nanoseconds.
-/

namespace DnsHijacker.DnsRelay

open DnsHijacker.Rust
open DnsHijacker.Shared

/-- `Resolver`: address and delay. -/
abbrev Resolver := Text × Nat

/-- An IPv4 `SocketAddr`. -/
structure SocketAddr where
  ip : Ipv4Addr
  port : UInt16
  deriving DecidableEq, Repr

/-- The port of a socket address. -/
def parsePort (text : Text) : Option UInt16 :=
  if !text.isEmpty && text.all Char.isDigit then
    let value := text.foldl (fun value c => value * 10 + (c.toNat - '0'.toNat)) 0
    if value < 65536 then some (UInt16.ofNat value) else none
  else none

/-- `resolver.parse()`.  An IPv6 address gives nothing here: the socket of the
health checks is bound to an IPv4 address and cannot send to it. -/
def parseSocketAddr (resolver : Text) : Option SocketAddr := do
  let (ip, port) ← splitOnce ':' resolver
  return { ip := ← parseIpv4 ip, port := ← parsePort port }

/-- `HEALTH_CHECK_CONCURRENCY` -/
def healthCheckConcurrency : Nat :=
  100

/-- `MAX_HEALTHY_RESOLVERS` -/
def maxHealthyResolvers : Nat :=
  256

/-- Fastest first.  The program leaves the order of equal delays open. -/
def sortByLatency (results : List Resolver) : List Resolver :=
  results.mergeSort fun first second => first.2 ≤ second.2

/-- The end of `test_resolvers`, with the results of all checks. -/
def testResolvers (results : List Resolver) : Except Error (List Resolver) :=
  if results.isEmpty then .error .noHealthyResolvers else .ok (sortByLatency results)

/-- `merge_discovered_into_healthy` -/
def mergeDiscoveredIntoHealthy (healthy discovered : List Resolver) (maxLen : Nat) :
    List Resolver :=
  let prepend := discovered.filter fun resolver => resolver.1 ∉ healthy.map Prod.fst
  if prepend.isEmpty then healthy else (prepend ++ healthy).take maxLen

/-- `ResolverPicker::pick` -/
def pick : List Resolver → Exec Text
  | [] => .error .panic
  | first :: _ => .ok first.1

/-- `ResolverPicker::pick_doh_first` -/
def pickDohFirst (preferDoh : Bool) (healthy : List Resolver) : Exec Text :=
  if preferDoh then
    match healthy.find? fun resolver => "https://".toList.isPrefixOf resolver.1 with
    | some resolver => .ok resolver.1
    | none => pick healthy
  else pick healthy

theorem mem_testResolvers {results pool : List Resolver} (tested : testResolvers results = .ok pool)
    {resolver : Resolver} : resolver ∈ pool ↔ resolver ∈ results := by
  rw [testResolvers] at tested
  split at tested
  · contradiction
  · cases tested
    exact List.mem_mergeSort

/-- A merge adds no resolver but a discovered one. -/
theorem mem_mergeDiscoveredIntoHealthy {healthy discovered : List Resolver} {maxLen : Nat}
    {resolver : Resolver} (mem : resolver ∈ mergeDiscoveredIntoHealthy healthy discovered maxLen) :
    resolver ∈ healthy ∨ resolver ∈ discovered := by
  rw [mergeDiscoveredIntoHealthy] at mem
  split at mem
  · exact .inl mem
  · rcases List.mem_append.mp (List.mem_of_mem_take mem) with new | old
    · exact .inr (List.mem_of_mem_filter new)
    · exact .inl old

end DnsHijacker.DnsRelay
