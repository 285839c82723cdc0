import DnsHijacker.Library.Walk
import DnsHijacker.Library.Run
import DnsHijacker.Library.Lru
import DnsHijacker.Library.PathTrie
import DnsHijacker.Library.FirstSeen
import DnsHijacker.Library.Tickets
import DnsHijacker.Library.Slots
import DnsHijacker.Library.Simulation
import DnsHijacker.Library.Collect
import DnsHijacker.Rust.Bytes
import DnsHijacker.Rust.Text
import DnsHijacker.Rust.Json
import DnsHijacker.Rust.Unicode
import DnsHijacker.Rust.Base64
import DnsHijacker.Wire.Name
import DnsHijacker.Wire.Message
import DnsHijacker.Wire.Packet
import DnsHijacker.Wire.Response
import DnsHijacker.Wire.Decoding
import DnsHijacker.Wire.Relocation
import DnsHijacker.Wire.Http
import DnsHijacker.Shared.Dns.Name
import DnsHijacker.Shared.Dns.NameSpec
import DnsHijacker.Shared.Dns.Message
import DnsHijacker.Shared.Dns.MessageSpec
import DnsHijacker.Shared.Dns.Ecs
import DnsHijacker.Shared.Dns.EcsSpec
import DnsHijacker.Shared.Dns.EcsTwice
import DnsHijacker.Shared.Dns.Bounds
import DnsHijacker.Shared.Dns.EcsOverflow
import DnsHijacker.Shared.Dns.Sections
import DnsHijacker.Shared.Dns.Redirect
import DnsHijacker.Shared.Dns.Returns
import DnsHijacker.Shared.Dns.ARecords
import DnsHijacker.Shared.Dns.Walkers
import DnsHijacker.Shared.DomainTrie
import DnsHijacker.Shared.TrieReference
import DnsHijacker.Shared.Compression
import DnsHijacker.Shared.CacheKey
import DnsHijacker.Shared.Dns.Lookup
import DnsHijacker.Shared.Cache
import DnsHijacker.Shared.Purge
import DnsHijacker.Shared.CacheTrace
import DnsHijacker.Shared.CacheLifetime
import DnsHijacker.Shared.AnswerTtls
import DnsHijacker.Shared.Obfs
import DnsHijacker.Shared.ObfsCodec
import DnsHijacker.Shared.ObfsKey
import DnsHijacker.Shared.Pipeline
import DnsHijacker.Shared.MetricReport
import DnsHijacker.Shared.Verdict
import DnsHijacker.Shared.ConfWatch
import DnsHijacker.Shared.Backlog
import DnsHijacker.Shared.Netguard
import DnsHijacker.Shared.NetguardMacos
import DnsHijacker.DnsRelay.Upstream
import DnsHijacker.DnsRelay.Handler
import DnsHijacker.DnsRelay.HandlerSpec
import DnsHijacker.DnsRelay.Termination
import DnsHijacker.DnsRelay.Precedence
import DnsHijacker.DnsRelay.Server
import DnsHijacker.DnsRelay.Coherence
import DnsHijacker.DnsRelay.Answering
import DnsHijacker.DnsRelay.Traffic
import DnsHijacker.DnsRelay.Accounting
import DnsHijacker.DnsRelay.Live
import DnsHijacker.DnsRelay.Linearization
import DnsHijacker.DnsRelay.HotReload
import DnsHijacker.DnsRelay.Echo
import DnsHijacker.DnsRelay.Subnets
import DnsHijacker.DnsRelay.ServedTtls
import DnsHijacker.DnsRelay.Doq
import DnsHijacker.DnsRelay.CollectConcurrent
import DnsHijacker.DnsRelay.Resolver
import DnsHijacker.DnsRelay.ResolverList
import DnsHijacker.DnsRelay.HealthCheck
import DnsHijacker.DnsRelay.ResolverPool
import DnsHijacker.DnsRelay.DoqPool
import DnsHijacker.DnsRelay.Finder
import DnsHijacker.DnsRelay.PoolLife
import DnsHijacker.DnsRelay.AppsScript
import DnsHijacker.DnsRelay.AppsScriptSpec
import DnsHijacker.DnsRelay.Relay
import DnsHijacker.DnsRelay.ClientLookup
import DnsHijacker.DnsRelay.ObfsListener
import DnsHijacker.DnsRelay.Intake
import DnsHijacker.DnsRelay.HistoryFile
import DnsHijacker.DnsRelay.HistoryBuffer
import DnsHijacker.DnsRelay.HistoryRuns
import DnsHijacker.DnsRelay.HistoryFormat
import DnsHijacker.DnsRelay.MatchedList
import DnsHijacker.DnsRelay.HistoryFlush
import DnsHijacker.DnsRelay.HistoryFailures
import DnsHijacker.DnsRelay.HistoryTimeline
import DnsHijacker.DnsRelay.RelayPicker
import DnsHijacker.ResolverProxy.Handler
import DnsHijacker.ResolverProxy.Agreement
import DnsHijacker.ResolverProxy.Hop
import DnsHijacker.ResolverProxy.Chain
import DnsHijacker.ResolverProxy.Forward
import DnsHijacker.ResolverProxy.Failover
import DnsHijacker.ResolverProxy.Fairness
import DnsHijacker.ResolverProxy.Startup
import DnsHijacker.ResolverProxy.Forwarding
import DnsHijacker.Worker.Packet
import DnsHijacker.Worker.Termination
import DnsHijacker.Worker.Merging
import DnsHijacker.Worker.Fetch
import DnsHijacker.Worker.ReplyStatus
import DnsHijacker.Worker.Addresses
import DnsHijacker.Worker.Exchange
import DnsHijacker.Worker.Lookup
import DnsHijacker.Worker.Relayed
import DnsHijacker.DnsRelay.Reporting
import DnsHijacker.Shared.NetguardScope
