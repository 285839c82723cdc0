import DnsHijacker.DnsRelay.Resolver

/-!
# Fetched resolver lists

`parse_resolver_list` goes through a list that was fetched as text.  A line that has a colon is
kept as it is if what stands before the colon is an IPv4 address; what stands behind it is not
looked at, although the resolver is a socket address to those who use it.
-/

namespace DnsHijacker.DnsRelay

open DnsHijacker.Rust
open DnsHijacker.Shared

/-! ## The source functions -/

def httpsPrefix : Text :=
  "https://".toList

def quicPrefix : Text :=
  "quic://".toList

/-- `classify_line`.  `IpAddr::from_str` takes no IPv6 address here, as the part before the first
colon has none. -/
def classifyLine (line : Text) (keepIpv4 keepDoh : Bool) : Option Text :=
  if httpsPrefix.isPrefixOf line then
    if keepDoh then some line else none
  else
    let ipPart := (line.splitOn ':').head?.getD line
    match parseIpv4 ipPart with
    | some _ =>
        if !keepIpv4 then none
        else if line.contains ':' then some line
        else some (line ++ ":53".toList)
    | none => none

/-- One turn of the loop of `parse_resolver_list`. -/
def parseRawLine (keepIpv4 keepDoh : Bool) (rawLine : Text) : Option Text :=
  let line := trim rawLine
  if line.isEmpty || ['#'].isPrefixOf line then none else classifyLine line keepIpv4 keepDoh

/-- `parse_resolver_list` -/
def parseResolverList (body : Text) (keepIpv4 keepDoh : Bool) : List Text :=
  (lines body).filterMap (parseRawLine keepIpv4 keepDoh)

/-- How `measure_latency` reaches a resolver. -/
inductive Probe where
  | doh
  | doq
  | udp (addr : SocketAddr)
  deriving DecidableEq

/-- `measure_latency` up to the first message it sends. -/
def probeOf (resolver : Text) : Except Error Probe :=
  if httpsPrefix.isPrefixOf resolver then .ok .doh
  else if quicPrefix.isPrefixOf resolver then .ok .doq
  else
    match parseSocketAddr resolver with
    | some addr => .ok (.udp addr)
    | none => .error (.invalidResolver resolver)

/-! ## Lines with a colon -/

/-- The part before the first colon. -/
theorem head_splitOn_append {sep : Char} {before : Text} (absent : sep ∉ before) (after : Text) :
    ((before ++ sep :: after).splitOn sep).head? = some before := by
  rw [List.splitOn_append_cons_self, List.splitOn_eq_singleton absent]
  rfl

theorem head_splitOn_of_not_mem {sep : Char} {text : Text} (absent : sep ∉ text) :
    (text.splitOn sep).head? = some text := by
  rw [List.splitOn_eq_singleton absent]
  rfl

/-- An IPv4 address starts with a digit. -/
theorem exists_digit_of_parseIpv4 {text : Text} {addr : Ipv4Addr}
    (parsed : parseIpv4 text = some addr) : ∃ c rest, text = c :: rest ∧ c.isDigit := by
  rw [parseIpv4] at parsed
  split at parsed
  · next a b c d pieces =>
      cases octet : parseOctet a with
      | none =>
          rw [octet] at parsed
          cases parsed
      | some first =>
          rw [parseOctet] at octet
          split at octet
          · next conditions =>
              obtain ⟨nonempty, _, digits, _⟩ := conditions
              obtain ⟨digit, digitsLeft, rfl⟩ := List.exists_cons_of_ne_nil nonempty
              rw [List.all_cons, Bool.and_eq_true] at digits
              refine ⟨digit, digitsLeft ++ '.' :: (b ++ '.' :: (c ++ '.' :: d)), ?_, digits.1⟩
              have whole : List.intercalate ['.'] (text.splitOn '.') = text :=
                List.intercalate_splitOn '.'
              rw [← whole, pieces]
              simp [List.intercalate_cons_cons]
          · cases octet
  · cases parsed

/-- A line that starts with a digit is no comment and no URL. -/
theorem not_isPrefixOf_of_digit {c d : Char} {rest lead : Text} (digit : c.isDigit)
    (other : d.isDigit = false) : (d :: lead).isPrefixOf (c :: rest) = false := by
  rw [List.isPrefixOf_cons_cons, Bool.and_eq_false_iff, beq_eq_false_iff_ne]
  left
  rintro rfl
  rw [digit] at other
  cases other

theorem classifyLine_of_not_mem {line : Text} (absent : ':' ∉ line) (keepIpv4 keepDoh : Bool) :
    classifyLine line keepIpv4 keepDoh =
      if (parseIpv4 line).isSome ∧ keepIpv4 then some (line ++ ":53".toList) else none := by
  have noUrl : ¬ httpsPrefix.isPrefixOf line := by
    intro url
    have mem : ':' ∈ httpsPrefix := by decide
    exact absent ((List.isPrefixOf_iff_prefix.mp url).mem mem)
  rw [classifyLine, if_neg noUrl, head_splitOn_of_not_mem absent]
  dsimp only [Option.getD_some]
  cases parseIpv4 line <;> cases keepIpv4 <;> simp [absent]

theorem classifyLine_append {before : Text} (absent : ':' ∉ before) (after : Text)
    (noUrl : ¬ httpsPrefix.isPrefixOf (before ++ ':' :: after)) (keepIpv4 keepDoh : Bool) :
    classifyLine (before ++ ':' :: after) keepIpv4 keepDoh =
      if (parseIpv4 before).isSome ∧ keepIpv4 then some (before ++ ':' :: after) else none := by
  rw [classifyLine, if_neg noUrl, head_splitOn_append absent]
  dsimp only [Option.getD_some]
  cases parseIpv4 before <;> cases keepIpv4 <;> simp

/-! ## Ports -/

/-- The text is a decimal number below `65536`. -/
def IsPort (text : Text) : Prop :=
  text ≠ [] ∧ (∀ c ∈ text, c.isDigit) ∧
    text.foldl (fun value c => value * 10 + (c.toNat - '0'.toNat)) 0 < 65536

theorem parsePort_isSome_iff (text : Text) : (parsePort text).isSome ↔ IsPort text := by
  rw [parsePort, IsPort]
  by_cases digits : (!text.isEmpty && text.all Char.isDigit) = true
  · rw [if_pos digits]
    rw [Bool.and_eq_true, Bool.not_eq_true', List.isEmpty_eq_false_iff, List.all_eq_true] at digits
    rw [and_iff_right digits.1, and_iff_right digits.2]
    dsimp only
    split
    · next small => exact iff_of_true rfl small
    · next large => exact iff_of_false (by simp) large
  · rw [if_neg digits]
    rw [Bool.and_eq_true, Bool.not_eq_true', List.isEmpty_eq_false_iff, List.all_eq_true] at digits
    apply iff_of_false (by simp)
    exact fun port => digits ⟨port.1, port.2.1⟩

theorem parseSocketAddr_append {before : Text} (absent : ':' ∉ before) (after : Text) :
    (parseSocketAddr (before ++ ':' :: after)).isSome ↔
      (parseIpv4 before).isSome ∧ IsPort after := by
  rw [parseSocketAddr, splitOnce_append absent, ← parsePort_isSome_iff]
  simp only [bind, Option.bind]
  cases parseIpv4 before <;> cases parsePort after <;> simp

/-- A resolver that is no URL is reached exactly if it is a socket address. -/
theorem probeOf_eq_error_iff {resolver : Text} (noUrl : ¬ httpsPrefix.isPrefixOf resolver)
    (noQuic : ¬ quicPrefix.isPrefixOf resolver) :
    probeOf resolver = .error (.invalidResolver resolver) ↔ parseSocketAddr resolver = none := by
  rw [probeOf, if_neg noUrl, if_neg noQuic]
  cases parseSocketAddr resolver <;> simp

/-! ## Entries of a list -/

/-- Every entry that is no URL is a socket address, is kept only with `keep_ipv4`, and is not
rejected when it is measured. -/
def EntriesParse (body : Text) (keepIpv4 keepDoh : Bool) : Prop :=
  ∀ entry ∈ parseResolverList body keepIpv4 keepDoh, ¬ httpsPrefix.isPrefixOf entry →
    (parseSocketAddr entry).isSome ∧ keepIpv4 ∧
      probeOf entry ≠ .error (.invalidResolver entry)

/-- Behind the first colon of a line there is a port, if an IPv4 address is before it. -/
def PortsParse (body : Text) : Prop :=
  ∀ rawLine ∈ lines body, ∀ before after, trim rawLine = before ++ ':' :: after → ':' ∉ before →
    (parseIpv4 before).isSome → IsPort after

theorem not_quic_of_address {before : Text} (after : Text) (address : (parseIpv4 before).isSome) :
    ¬ quicPrefix.isPrefixOf (before ++ ':' :: after) := by
  obtain ⟨addr, parsed⟩ := Option.isSome_iff_exists.mp address
  obtain ⟨digit, rest, rfl, isDigit⟩ := exists_digit_of_parseIpv4 parsed
  rw [Bool.not_eq_true]
  exact not_isPrefixOf_of_digit isDigit (by decide)

/-- A line with an IPv4 address before its first colon is kept as it is. -/
theorem parseRawLine_of_address {rawLine before after : Text}
    (split : trim rawLine = before ++ ':' :: after) (absent : ':' ∉ before)
    (address : (parseIpv4 before).isSome) (keepDoh : Bool) :
    ¬ httpsPrefix.isPrefixOf (before ++ ':' :: after) ∧
      parseRawLine true keepDoh rawLine = some (before ++ ':' :: after) := by
  obtain ⟨addr, parsed⟩ := Option.isSome_iff_exists.mp address
  obtain ⟨digit, rest, rfl, isDigit⟩ := exists_digit_of_parseIpv4 parsed
  have noUrl : ¬ httpsPrefix.isPrefixOf (digit :: rest ++ ':' :: after) := by
    rw [Bool.not_eq_true]
    exact not_isPrefixOf_of_digit isDigit (by decide)
  have noComment : ['#'].isPrefixOf (digit :: rest ++ ':' :: after) = false :=
    not_isPrefixOf_of_digit isDigit (by decide)
  refine ⟨noUrl, ?_⟩
  calc
    parseRawLine true keepDoh rawLine
      = classifyLine (digit :: rest ++ ':' :: after) true keepDoh := by
        rw [parseRawLine, split, noComment]
        rfl
    _ = some (digit :: rest ++ ':' :: after) := by
        rw [classifyLine_append absent after noUrl]
        exact if_pos ⟨address, rfl⟩

/-- An entry that is no URL is an IPv4 address, a colon, and the rest of its line or the usual
port. -/
theorem exists_address_of_parseRawLine {rawLine entry : Text} {keepIpv4 keepDoh : Bool}
    (parsed : parseRawLine keepIpv4 keepDoh rawLine = some entry)
    (noUrl : ¬ httpsPrefix.isPrefixOf entry) :
    keepIpv4 = true ∧ ∃ before after, entry = before ++ ':' :: after ∧ ':' ∉ before ∧
      (parseIpv4 before).isSome ∧
        (trim rawLine = before ++ ':' :: after ∨ after = ['5', '3']) := by
  rw [parseRawLine] at parsed
  split at parsed
  · cases parsed
  by_cases colon : ':' ∈ trim rawLine
  · obtain ⟨before, after, split, absent⟩ := List.eq_append_cons_of_mem colon
    rw [split] at parsed
    by_cases url : httpsPrefix.isPrefixOf (before ++ ':' :: after)
    · rw [classifyLine, if_pos url] at parsed
      cases keepDoh <;> cases parsed
      contradiction
    rw [classifyLine_append absent after url] at parsed
    split at parsed
    · next kept =>
        cases parsed
        exact ⟨kept.2, before, after, rfl, absent, kept.1, .inl split⟩
    · cases parsed
  · rw [classifyLine_of_not_mem colon] at parsed
    split at parsed
    · next kept =>
        cases parsed
        exact ⟨kept.2, trim rawLine, ['5', '3'], rfl, colon, kept.1, .inr rfl⟩
    · cases parsed

/-- The entries of a list are all usable exactly if IPv4 resolvers are left out, or every address
is followed by nothing but a port. -/
theorem entriesParse_iff (body : Text) (keepIpv4 keepDoh : Bool) :
    EntriesParse body keepIpv4 keepDoh ↔ keepIpv4 = false ∨ PortsParse body := by
  constructor
  · intro parse
    rw [or_iff_not_imp_left]
    intro kept rawLine mem before after split absent address
    rw [Bool.not_eq_false] at kept
    obtain ⟨noUrl, entry⟩ := parseRawLine_of_address split absent address keepDoh
    rw [kept] at parse
    have entries := parse _ (List.mem_filterMap.mpr ⟨rawLine, mem, entry⟩) noUrl
    exact ((parseSocketAddr_append absent after).mp entries.1).2
  · rintro ports entry mem noUrl
    obtain ⟨rawLine, rawMem, parsed⟩ := List.mem_filterMap.mp mem
    obtain ⟨kept, before, after, rfl, absent, address, inLine⟩ :=
      exists_address_of_parseRawLine parsed noUrl
    have port : IsPort after := by
      rcases inLine with split | rfl
      · rcases ports with none | ports
        · rw [kept] at none
          cases none
        · exact ports rawLine rawMem before after split absent address
      · exact (parsePort_isSome_iff _).mp rfl
    have socket := (parseSocketAddr_append absent after).mpr ⟨address, port⟩
    refine ⟨socket, kept, ?_⟩
    intro rejected
    rw [(probeOf_eq_error_iff noUrl (not_quic_of_address after address)).mp rejected] at socket
    cases socket

/-- A resolver with a port and a remark. -/
def remarked : Text :=
  "1.1.1.1:53 # Cloudflare".toList

/-- The line is kept as it is, and the resolver is rejected when it is measured. -/
theorem remarked_kept :
    parseResolverList remarked true false = [remarked] ∧ parseSocketAddr remarked = none ∧
      probeOf remarked = .error (.invalidResolver remarked) ∧
      ¬ EntriesParse remarked true false := by
  have kept : parseResolverList remarked true false = [remarked] := by decide +kernel
  have rejected : parseSocketAddr remarked = none := by decide +kernel
  refine ⟨kept, rejected, by decide +kernel, ?_⟩
  intro parse
  have found := (parse remarked (by rw [kept]; exact List.mem_singleton_self _)
    (by decide +kernel)).1
  rw [rejected] at found
  cases found

end DnsHijacker.DnsRelay
