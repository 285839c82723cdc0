import DnsHijacker.DnsRelay.Coherence
import DnsHijacker.DnsRelay.Traffic
import DnsHijacker.Shared.Dns.Sections

/-!
# Replies that repeat the question

A rule, a SERVFAIL and an upstream that echoes the question give the client the
question section it sent.  A hit gives it the question section of the query
whose reply is in the cache, and that query had the same key: the two sections
may differ in the case of the letters, in the class and in where a dot stands.
-/

namespace DnsHijacker.DnsRelay

open DnsHijacker.Rust
open DnsHijacker.Library
open DnsHijacker.Wire
open DnsHijacker.Shared
open DnsHijacker.Shared.Dns

variable {ucd : UnicodeData} {aead : Aead}

/-! ## Replies of the relay's own -/

theorem drop_set_flags (payload : Bytes) (high low : UInt8) :
    ((payload.set 2 high).set 3 low).drop 4 = payload.drop 4 := by
  rw [List.drop_set_of_lt (by decide), List.drop_set_of_lt (by decide)]

theorem questionSection_craftFlagged {payload reply octets : Bytes} {low : UInt8}
    (crafted : craftFlagged low payload = some reply)
    (found : questionSection payload = some octets) : questionSection reply = some octets := by
  rw [craftFlagged] at crafted
  split at crafted
  · contradiction
  · cases crafted
    have same : Occurs ((payload.set 2 0x81).set 3 low) 4 (payload.drop 4) := by
      rw [Occurs, drop_set_flags]
    apply questionSection_of_occurs_drop (occurs_drop_of_le (by decide) same) _ _ found
    · rw [List.length_set, List.length_set]
    · exact fun qdcount read => readU16_of_occurs_drop same (Nat.le_refl 4) read

/-- A redirect is the query with other flags and another number of answers, and
then the answers. -/
theorem craftRedirect_eq_some {payload reply : Bytes} {qnameEnd : Nat} {ips : List Text}
    (crafted : craftRedirectResponse payload qnameEnd ips = .ok (some reply)) :
    12 ≤ payload.length ∧ ∃ high low answers,
      reply = ((((payload.set 2 0x81).set 3 0x80).set 6 high).set 7 low) ++ answers := by
  rw [craftRedirectResponse] at crafted
  split at crafted
  · cases crafted
  · rename_i long
    dsimp only at crafted
    split at crafted
    · cases crafted
    · simp only [bind_eq_ok] at crafted
      rcases crafted with ⟨qtype, _, qclass, _, rest⟩
      split at rest
      · cases rest
      · cases rest
        exact ⟨Nat.le_of_not_lt long, _, _, _, rfl⟩

theorem questionSection_craftRedirect {payload reply octets : Bytes} {qnameEnd : Nat}
    {ips : List Text} (crafted : craftRedirectResponse payload qnameEnd ips = .ok (some reply))
    (found : questionSection payload = some octets) : questionSection reply = some octets := by
  obtain ⟨long, high, low, answers, rfl⟩ := craftRedirect_eq_some crafted
  apply questionSection_of_occurs_drop _ _ _ found
  · have length : 12 ≤ ((((payload.set 2 0x81).set 3 0x80).set 6 high).set 7 low).length := by
      simpa using long
    rw [Occurs, List.drop_append_of_le_length length, List.drop_set_of_lt (by decide),
      List.drop_set_of_lt (by decide), List.drop_set_of_lt (by decide),
      List.drop_set_of_lt (by decide)]
    exact List.prefix_append _ _
  · simp
  · intro qdcount read
    simp only [readU16, index] at read ⊢
    rw [List.getElem?_append_left (by simp; omega), List.getElem?_append_left (by simp; omega)]
    simpa using read

theorem questionSection_ownReply {payload reply octets : Bytes} (own : OwnReply payload reply)
    (found : questionSection payload = some octets) : questionSection reply = some octets := by
  rcases own with crafted | ⟨qnameEnd, ips, crafted⟩ | crafted
  · exact questionSection_craftFlagged crafted found
  · exact questionSection_craftRedirect crafted found
  · exact questionSection_craftFlagged crafted found

/-! ## Runs -/

/-- The question section of the query ends inside the query. -/
def Readable (asked : Asked) : Prop :=
  (questionSection asked.payload).isSome

/-- A well-formed query is readable. -/
theorem readable_packet (client : ClientIp) (packet : Packet) :
    Readable ⟨client, packet.encode⟩ := by
  rw [Readable, questionSection_packet]
  rfl

/-- The reply has the question section of the query. -/
def Echoes (asked : Asked) (reply : Bytes) : Prop :=
  questionSection reply = questionSection asked.payload

/-- Every reply that was sent back has the question section of its query. -/
def AllEcho (traffic : Traffic) : Prop :=
  ∀ answered ∈ traffic.answered, ∀ reply, answered.reply = some reply →
    Echoes answered.asked reply

/-- A query that is answered from the cache has, octet for octet, the question
section of the query whose reply is stored under its key. -/
def SameSpelling (ucd : UnicodeData) (traffic : Traffic) : TrafficEvent → Prop
  | .query _ asked ruleTrie now =>
      ∀ key source,
        hitKey ucd ruleTrie asked.payload now traffic.server.relay.cache = some key →
          traffic.obtained key = some source →
            questionSection source.asked.payload = questionSection asked.payload
  | .deliver _ _ _ => True

theorem allEcho_cons {traffic : Traffic} {server : Server} {client : Nat → ClientIp}
    {obtained : CacheKey → Option Obtained} {answered : Answered} :
    AllEcho ⟨server, client, obtained, answered :: traffic.answered⟩ ↔
      AllEcho traffic ∧ ∀ reply, answered.reply = some reply → Echoes answered.asked reply := by
  rw [AllEcho, List.forall_mem_cons, and_comm]
  rfl

/-- A step keeps all replies echoing exactly if its hit is for the same spelling. -/
theorem allEcho_effect_iff {traffic after : Traffic} {event : TrafficEvent}
    (accounts : Accounts ucd traffic) (ofKind : OfKind Readable Echoes traffic)
    (meets : Meets aead Readable Echoes traffic event)
    (effect : Effect ucd aead traffic event after) :
    AllEcho after ↔ AllEcho traffic ∧ SameSpelling ucd traffic event := by
  have repeats : ∀ {asked : Asked}, Readable asked → ∀ {reply : Bytes},
      OwnReply asked.payload reply → Echoes asked reply := by
    intro asked readable reply own
    obtain ⟨octets, found⟩ := Option.isSome_iff_exists.mp readable
    rw [Echoes, found]
    exact questionSection_ownReply own found
  cases effect with
  | @own id now asked ruleTrie reply _ miss own entries pending served =>
      have readable : Readable asked := meets
      rw [allEcho_cons]
      apply and_congr_right
      intro _
      apply iff_of_true
      · exact fun bytes sent => repeats readable (own bytes sent)
      · intro key source found
        rw [miss] at found
        contradiction
  | @hit id now asked ruleTrie key entry bytes _ hit cached entries pending served =>
      obtain ⟨source, obtained, passesOn⟩ := accounts.passesOn_of_hit cached
      rcases passesOn.reply with ⟨first, second, _, _, rfl⟩
      have echoed := (ofKind.obtained key source obtained).2
      rw [allEcho_cons]
      apply and_congr_right
      intro _
      constructor
      · intro echoes other found otherHit otherObtained
        rw [hit] at otherHit
        cases otherHit
        rw [obtained] at otherObtained
        cases otherObtained
        have here := echoes _ rfl
        rw [Echoes, questionSection_withTxid, echoed] at here
        exact here
      · rintro spelling reply ⟨⟩
        rw [Echoes, questionSection_withTxid, echoed]
        exact spelling key source hit obtained
  | forwarded miss fresh key entries pending served =>
      apply (and_iff_left _).symm
      intro other source found
      rw [miss] at found
      contradiction
  | @resolved now query delivery received first second _ found outcome _ _ _ _ _ =>
      rw [allEcho_cons]
      apply and_congr_right
      intro _
      apply iff_of_true
      · rintro reply ⟨⟩
        rw [Echoes, questionSection_withTxid]
        exact meets query found received outcome
      · trivial
  | @failed now query delivery error reply _ found outcome crafted _ _ _ =>
      have readable := ofKind.waiting query (List.mem_of_find?_eq_some found)
      rw [allEcho_cons]
      apply and_congr_right
      intro _
      apply iff_of_true
      · intro bytes sent
        exact repeats readable (.inr (.inr (crafted.symm.trans sent)))
      · trivial

/-- In a run of readable queries with an upstream that echoes the question, all
replies echo it exactly if every hit is for the spelling that was asked first. -/
theorem allEcho_iff (ucd : UnicodeData) (aead : Aead) (metrics : Option MetricWrapper)
    (history : Option (List (Text × List Text))) (trace : List TrafficEvent) (traffic : Traffic)
    (ran : run (trafficStep ucd aead) (Traffic.start metrics history) trace = some traffic)
    (meets : Along (trafficStep ucd aead) (Meets aead Readable Echoes)
      (Traffic.start metrics history) trace) :
    AllEcho traffic ↔
      Along (trafficStep ucd aead) (SameSpelling ucd) (Traffic.start metrics history) trace := by
  apply along_iff_assuming (I := fun traffic => Accounts ucd traffic ∧ OfKind Readable Echoes traffic)
    ⟨accounts_start metrics history, ofKind_start metrics history⟩ _ _ _ meets ran
  · intro answered mem
    contradiction
  · rintro state event after ⟨accounts, ofKind⟩ meets stepped
    have effect := effect_of_trafficStep stepped
    exact ⟨accounts.preserved effect, ofKind.preserved meets effect⟩
  · rintro state event after ⟨accounts, ofKind⟩ meets stepped
    exact allEcho_effect_iff accounts ofKind meets (effect_of_trafficStep stepped)

/-- A query for the addresses of a name, from some client. -/
def addressesAsked (labels : List Label) : Asked :=
  ⟨.v6, (bareQuery labels 1).encode⟩

theorem readable_addressesAsked (labels : List Label) : Readable (addressesAsked labels) := by
  have encoded := (bareQuery labels 1).toMessage.encode_toPacket
  rw [addressesAsked, Query.encode, ← encoded]
  exact readable_packet _ _

/-- The label `A`. -/
def labelCapitalA : Label := ⟨[0x41], by decide, by decide⟩

/-- A query for `a`, its empty reply, and a query for another spelling of `a`. -/
theorem meets_respelled (label : Label) :
    Along (trafficStep .ascii Aead.transparent) (Meets Aead.transparent Readable Echoes)
      (Traffic.start none none)
      (twoQueries (addressesAsked [labelA]) (addressesAsked [label]) (.udp (emptyReply labelA))
        0) := by
  apply meets_twoQueries (readable_addressesAsked _) (readable_addressesAsked _)
  intro reply outcome
  cases outcome
  rw [Echoes]
  decide +kernel

theorem allEcho_iff_repeated : ∃ traffic,
    run (trafficStep .ascii Aead.transparent) (Traffic.start none none)
      (twoQueries (addressesAsked [labelA]) (addressesAsked [labelA]) (.udp (emptyReply labelA))
        0) = some traffic ∧
    (AllEcho traffic ↔
      Along (trafficStep .ascii Aead.transparent) (SameSpelling .ascii) (Traffic.start none none)
        (twoQueries (addressesAsked [labelA]) (addressesAsked [labelA])
          (.udp (emptyReply labelA)) 0)) := by
  have replies : repliesOf (twoQueries (addressesAsked [labelA]) (addressesAsked [labelA])
      (.udp (emptyReply labelA)) 0) =
      some [(addressesAsked [labelA], some (emptyReply labelA), 0, some 0),
        (addressesAsked [labelA], some (emptyReply labelA), 0, some 0)] := by
    decide +kernel
  obtain ⟨traffic, ran, _⟩ := exists_last_of_repliesOf replies
  exact ⟨traffic, ran, allEcho_iff .ascii Aead.transparent none none _ traffic ran
    (meets_respelled labelA)⟩

/-- A query for `A` after one for `a` gets a reply that asks for `a`. -/
theorem other_case_not_echoed : ∃ traffic,
    run (trafficStep .ascii Aead.transparent) (Traffic.start none none)
      (twoQueries (addressesAsked [labelA]) (addressesAsked [labelCapitalA])
        (.udp (emptyReply labelA)) 0) = some traffic ∧
    Along (trafficStep .ascii Aead.transparent) (Meets Aead.transparent Readable Echoes)
      (Traffic.start none none)
      (twoQueries (addressesAsked [labelA]) (addressesAsked [labelCapitalA])
        (.udp (emptyReply labelA)) 0) ∧
    ¬ AllEcho traffic := by
  have replies : repliesOf (twoQueries (addressesAsked [labelA]) (addressesAsked [labelCapitalA])
      (.udp (emptyReply labelA)) 0) =
      some [(addressesAsked [labelCapitalA], some (emptyReply labelA), 0, some 0),
        (addressesAsked [labelA], some (emptyReply labelA), 0, some 0)] := by
    decide +kernel
  obtain ⟨traffic, ran, answered, mem, asked, sent, _⟩ := exists_last_of_repliesOf replies
  refine ⟨traffic, ran, meets_respelled labelCapitalA, fun allEcho => ?_⟩
  have echoes := allEcho answered mem _ sent
  rw [Echoes, asked] at echoes
  exact absurd echoes (by decide +kernel)

end DnsHijacker.DnsRelay
