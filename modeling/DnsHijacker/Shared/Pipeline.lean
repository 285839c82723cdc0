import DnsHijacker.Shared.Cache
import DnsHijacker.Shared.DomainTrie

/-!
# What the two pipelines share

The error type, the counters, and the rule outcome as the handlers of
`dns_relay` and `resolver_proxy` use them.
-/

namespace DnsHijacker.Shared

open DnsHijacker.Rust

/-- `DohError` -/
inductive DohError where
  | timeout
  | request (message : Text)
  | status (code : Nat)
  | body (message : Text)
  deriving DecidableEq, Repr

/-- `Error`; the errors of other crates are their messages. -/
inductive Error where
  | io (message : Text)
  | config (message : Text)
  | invalidResolver (resolver : Text)
  | doh (error : DohError)
  | udpTimeout
  | upstreamUnreachable
  | noHealthyResolvers
  | resolveTimeout
  | other (message : Text)
  | relayErr (message : Text)
  deriving DecidableEq, Repr

/-- `MetricWrapper`: the counters the handlers increment. -/
structure MetricWrapper where
  resolvedCount : UInt64 := 0
  failedCount : UInt64 := 0
  timeoutCount : UInt64 := 0
  redirectCount : UInt64 := 0
  dropCount : UInt64 := 0
  cachedCount : UInt64 := 0
  deriving DecidableEq, Repr

namespace MetricWrapper

def incrResolved (metrics : MetricWrapper) : MetricWrapper :=
  { metrics with resolvedCount := metrics.resolvedCount + 1 }

def incrFailed (metrics : MetricWrapper) : MetricWrapper :=
  { metrics with failedCount := metrics.failedCount + 1 }

def incrTimeout (metrics : MetricWrapper) : MetricWrapper :=
  { metrics with timeoutCount := metrics.timeoutCount + 1 }

def incrRedirect (metrics : MetricWrapper) : MetricWrapper :=
  { metrics with redirectCount := metrics.redirectCount + 1 }

def incrDrop (metrics : MetricWrapper) : MetricWrapper :=
  { metrics with dropCount := metrics.dropCount + 1 }

def incrCached (metrics : MetricWrapper) : MetricWrapper :=
  { metrics with cachedCount := metrics.cachedCount + 1 }

end MetricWrapper

end DnsHijacker.Shared
