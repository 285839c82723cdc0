import DnsHijacker.DnsRelay.ObfsListener

/-!
# The obfuscated hop

`send_obfs` seals a query, sends it on a socket of its own and takes the first
datagram that comes back.  What the attacker on the path does is part of a run:
every datagram that reaches a party is an event, and the only limit is that a
datagram which decodes under a key was sealed under it by one of the parties.
-/

namespace DnsHijacker.ResolverProxy

open DnsHijacker.Rust
open DnsHijacker.Library
open DnsHijacker.Wire
open DnsHijacker.Shared
open DnsHijacker.Shared.Dns
open DnsHijacker.Shared.Obfs
open DnsHijacker.DnsRelay

/-- `PROXY_PAYLOAD_BUF_SIZE` -/
def proxyPayloadBufSize : Nat :=
  4096

variable {ObfsKey Addr : Type} (cipher : Cipher ObfsKey)

/-- The end of `send_obfs`, from the datagram its socket received. -/
def acceptObfs (addr : Text) (key : ObfsKey) (datagram : Bytes) : Except Error Bytes :=
  match decode cipher key (datagram.take proxyPayloadBufSize) with
  | some reply => .ok reply
  | none => .error (.invalidResolver ("undecodable obfs reply from ".toList ++ addr))

theorem acceptObfs_eq_ok_iff {addr : Text} {key : ObfsKey} {datagram reply : Bytes} :
    acceptObfs cipher addr key datagram = .ok reply ↔
      decode cipher key (datagram.take proxyPayloadBufSize) = some reply := by
  rw [acceptObfs]
  cases decode cipher key (datagram.take proxyPayloadBufSize) with
  | none => simp
  | some other => simp

/-! ## Sizes -/

/-- The query gets through to the relay and the reply back to the proxy, each in
one datagram that its receiver holds. -/
structure Transparent (addr : Text) (keys : List ObfsKey) (key : ObfsKey) (query reply : Bytes)
    (there back : Draw) : Prop where
  queryHeld : (encode cipher key query there).take obfsPayloadBufSize = encode cipher key query there
  queryOpened :
    openDatagram cipher keys ((encode cipher key query there).take obfsPayloadBufSize) =
      some (key, query)
  replyHeld : (encode cipher key reply back).take proxyPayloadBufSize = encode cipher key reply back
  replyAccepted : acceptObfs cipher addr key (encode cipher key reply back) = .ok reply

variable {cipher}

/-- The hop is transparent exactly if the reply fits the buffer of the proxy
together with its padding and the overhead. -/
theorem transparent_iff {keys : List ObfsKey} {key : ObfsKey} (mem : key ∈ keys)
    (separates : cipher.Separates keys) {query : Bytes} (short : query.length ≤ payloadBufSize) (addr : Text) (reply : Bytes) (there back : Draw) :
    Transparent cipher addr keys key query reply there back ↔
      reply.length + overhead + back.padding.length ≤ proxyPayloadBufSize := by
  rw [← @length_encode _ cipher key reply back, ← List.take_eq_self_iff]
  constructor
  · exact fun transparent => transparent.replyHeld
  · intro held
    have replyShort : reply.length < 65536 := by
      have fits := (List.take_eq_self_iff _).mp held
      rw [length_encode, proxyPayloadBufSize] at fits
      omega
    constructor
    · exact take_obfsPayloadBufSize key short there
    · rw [take_obfsPayloadBufSize key short there]
      apply openDatagram_encode mem (separates key mem)
      rw [payloadBufSize] at short
      omega
    · exact held
    · rw [acceptObfs_eq_ok_iff, held]
      exact decode_encode key replyShort back

/-- The reply is as long as the part of the upstream's datagram that was
received. -/
theorem length_of_finishResolve {ucd : UnicodeData} {aead : Aead} {query : Bytes} {domain : Text}
    {cacheKey : CacheKey} {upstream : Bytes} {now : Nat} {relay after : RelayState} {reply : Bytes}
    (obtained : finishResolve ucd query domain cacheKey ((Delivery.udp upstream).outcome aead) now
      relay = .ok (some reply, after)) : reply.length = min 4096 upstream.length := by
  rcases finishResolve_eq_ok obtained with ⟨replyBuf, first, second, ok, _, _, same, _⟩ |
    ⟨error, failed, _⟩
  · cases ok
    cases same
    rw [length_withTxid, List.length_take]
  · contradiction

/-- For every reply that the relay gets from a plain UDP upstream, the hop is
transparent exactly if the part of the upstream's datagram that was received
fits the buffer of the proxy together with the padding and the overhead.  Of the
cipher it is assumed that it tells the listener's keys from each other. -/
theorem hop_transparent_iff (cipher : Cipher ObfsKey) (ucd : UnicodeData) (aead : Aead)
    {keys : List ObfsKey} {key : ObfsKey} (mem : key ∈ keys) (separates : cipher.Separates keys)
    {query : Bytes} (short : query.length ≤ payloadBufSize) {domain : Text} {cacheKey : CacheKey}
    {upstream : Bytes} {now : Nat} {relay after : RelayState} {reply : Bytes}
    (obtained : finishResolve ucd query domain cacheKey ((Delivery.udp upstream).outcome aead) now
      relay = .ok (some reply, after)) (addr : Text) (there back : Draw) :
    Transparent cipher addr keys key query reply there back ↔
      min 4096 upstream.length + overhead + back.padding.length ≤ proxyPayloadBufSize := by
  rw [transparent_iff mem separates short, length_of_finishResolve obtained]

theorem singleton_short (record : Record) : [record].length < 65536 :=
  Nat.succ_lt_succ (Nat.zero_lt_succ 65534)

/-- A query for the TXT records of `a`. -/
def txtQuery : Query :=
  .standard 0 ⟨[labelA], 16, 1⟩

theorem questionOffset_small : 12 < 0x4000 := by
  decide

/-- A response with one TXT record for `a`. -/
def txtReply (rdata : Bytes) (short : rdata.length < 65536) : Message where
  txid := 0
  flagsHigh := 0x81
  flagsLow := 0x80
  question := ⟨[labelA], 16, 1⟩
  answers := [⟨⟨[], some ⟨12, questionOffset_small⟩⟩, 16, 1, 300, rdata, short⟩]
  authority := []
  additional := []
  answers_short := singleton_short _
  authority_short := nil_short
  additional_short := nil_short

theorem length_txtReply {rdata : Bytes} (short : rdata.length < 65536) :
    (txtReply rdata short).encode.length = 31 + rdata.length := by
  have tail : (encodeRecords (txtReply rdata short).records).length = 12 + rdata.length := by
    rw [Message.records]
    simp only [txtReply, List.append_nil, encodeRecords_cons, encodeRecords_nil,
      Record.length_encode]
    rfl
  rw [Message.encode, List.length_append, List.length_append, tail, Message.length_header]
  have question : (txtReply rdata short).question.encode.length = 7 := rfl
  rw [question]
  omega

theorem wellFormed_txtReply {rdata : Bytes} (short : rdata.length < 65536) :
    WellFormedResponse (txtReply rdata short).encode where
  isResponse := ⟨0x81, rfl, by decide⟩
  oneQuestion := ⟨_, rfl⟩
  sections := by
    have length := length_txtReply short
    have name : NameAt (txtReply rdata short).encode 12 [[labelA]] 15 :=
      nameAt_encodeName (txtReply rdata short).occurs_name
    have rdlength : (UInt16.ofNat rdata.length).toNat = rdata.length := toNat_ofNat_of_short short
    have pointer : Occurs (txtReply rdata short).encode 19 (pointerBytes 12) := ⟨_, rfl⟩
    have counted : Occurs (txtReply rdata short).encode 29
        (u16ToBeBytes (UInt16.ofNat rdata.length)) := ⟨_, rfl⟩
    have answer : RecordsAt (txtReply rdata short).encode 19 1 := by
      apply RecordsAt.record (.pointer pointer (by decide) name) counted
      · rw [rdlength, length]
      · exact .done
    refine ⟨1, 0, 0, _, 15, ⟨_, rfl⟩, ⟨_, rfl⟩, ⟨_, rfl⟩, name, ?_, answer⟩
    rw [length]
    omega

/-- A well-formed response that the relay gets over UDP becomes a reply. -/
theorem exists_finishResolve {ucd : UnicodeData} {aead : Aead} {query upstream : Bytes}
    (long : 12 ≤ query.length) (wellFormed : WellFormedResponse (upstream.take 4096))
    (domain : Text) (cacheKey : CacheKey) (now : Nat) (relay : RelayState) :
    ∃ reply after, finishResolve ucd query domain cacheKey ((Delivery.udp upstream).outcome aead)
      now relay = .ok (some reply, after) := by
  have returns : Returns (finishResolve ucd query domain cacheKey
      ((Delivery.udp upstream).outcome aead) now relay) := by
    rw [finishResolve_returns_iff long]
    rintro replyBuf ⟨⟩
    exact minAnswerTtl_returns_of_wellFormed wellFormed
  rcases returns with ⟨⟨reply, after⟩, finished⟩
  rcases finishResolve_eq_ok finished with ⟨replyBuf, first, second, _, _, _, rfl, _⟩ |
    ⟨error, failed, _⟩
  · exact ⟨_, after, finished⟩
  · contradiction

/-- What the relay makes of a TXT response for `a`. -/
theorem exists_txtReply {rdata : Bytes} (short : rdata.length < 65536)
    (fits : rdata.length ≤ 4065) : ∃ reply after,
    finishResolve .ascii txtQuery.encode ['a'] ⟨['a'], 16⟩
      ((Delivery.udp (txtReply rdata short).encode).outcome Aead.transparent) 0
      ⟨newCache, none, none⟩ = .ok (some reply, after) := by
  apply exists_finishResolve txtQuery.twelve_le_length
  rw [List.take_of_length_le (by rw [length_txtReply]; omega)]
  exact wellFormed_txtReply short

theorem empty_rdata : ([] : Bytes).length < 65536 :=
  Nat.zero_lt_succ 65535

theorem hop_transparent_empty_txt : ∃ reply after,
    finishResolve .ascii txtQuery.encode ['a'] ⟨['a'], 16⟩
      ((Delivery.udp (txtReply [] empty_rdata).encode).outcome Aead.transparent) 0
      ⟨newCache, none, none⟩ = .ok (some reply, after) ∧
    Transparent Cipher.tagged [] [9, 7] 7 txtQuery.encode reply Draw.zero Draw.zero := by
  rcases exists_txtReply empty_rdata (Nat.zero_le 4065) with
    ⟨reply, after, obtained⟩
  refine ⟨reply, after, obtained, ?_⟩
  apply (hop_transparent_iff Cipher.tagged .ascii Aead.transparent
    (by decide : (7 : UInt8) ∈ [9, 7]) (Cipher.separates_tagged [9, 7]) (by decide) obtained []
    Draw.zero Draw.zero).mpr
  rw [length_txtReply]
  decide

theorem long_rdata : (List.replicate 4065 (0 : UInt8)).length < 65536 := by
  rw [List.length_replicate]
  decide

/-- A response of 4096 bytes reaches the relay whole; its datagram to the proxy
does not fit the proxy's buffer, whatever its padding is. -/
theorem long_reply_truncated : ∃ reply after,
    finishResolve .ascii txtQuery.encode ['a'] ⟨['a'], 16⟩
      ((Delivery.udp (txtReply (List.replicate 4065 0) long_rdata).encode).outcome
        Aead.transparent) 0 ⟨newCache, none, none⟩ = .ok (some reply, after) ∧
    reply.length = 4096 ∧
    ∀ back, ¬ Transparent Cipher.tagged [] [7] 7 txtQuery.encode reply Draw.zero back := by
  rcases exists_txtReply long_rdata (by rw [List.length_replicate]) with ⟨reply, after, obtained⟩
  have length : reply.length = 4096 := by
    rw [length_of_finishResolve obtained, length_txtReply, List.length_replicate]
    rfl
  refine ⟨reply, after, obtained, length, ?_⟩
  intro back transparent
  have fits := (transparent_iff List.mem_cons_self (Cipher.separates_tagged [7]) (by decide) [] reply
    Draw.zero back).mp transparent
  have least := back.padMin_le
  rw [padMin] at least
  rw [length, proxyPayloadBufSize] at fits
  omega

/-! ## Runs with an attacker on the path -/

/-- A call of `send_obfs` and the datagram it sends. -/
structure ObfsCall (ObfsKey : Type) where
  id : Nat
  addr : Text
  key : ObfsKey
  query : Bytes
  datagram : Bytes
  deriving DecidableEq

/-- The calls of the proxy, the listener of the relay, and the network between
them.  `sent` and the replies of the listener are all datagrams the network has
seen. -/
structure Hop (ObfsKey Addr : Type) where
  listener : ObfsListener ObfsKey Addr
  sent : List (ObfsCall ObfsKey)
  waiting : List (ObfsCall ObfsKey)
  returned : List (ObfsCall ObfsKey × Except Error Bytes)

def Hop.start (relay : RelayState) : Hop ObfsKey Addr where
  listener := .start relay
  sent := []
  waiting := []
  returned := []

inductive HopEvent (ObfsKey Addr : Type) where
  /-- The proxy calls `send_obfs`. -/
  | send (id : Nat) (addr : Text) (key : ObfsKey) (query : Bytes) (draw : Draw)
  /-- A datagram reaches the socket of a call. -/
  | toProxy (id : Nat) (datagram : Bytes)
  /-- A call fails, by its timeout or in its socket. -/
  | failed (id : Nat) (error : Error)
  /-- A datagram reaches the listener, or one of its tasks gets further. -/
  | relay (event : ObfsEvent Addr)

/-- No UDP datagram is longer. -/
def maxDatagram : Nat :=
  65527

variable (cipher) (ucd : UnicodeData) (aead : Aead) (keys : List ObfsKey)

/-- One event.  A call has its own socket, so `id` tells them apart. -/
def hopStep (hop : Hop ObfsKey Addr) : HopEvent ObfsKey Addr → Option (Hop ObfsKey Addr)
  | .send id addr key query draw =>
      if hop.waiting.any (·.id = id) then none
      else
        let call : ObfsCall ObfsKey := ⟨id, addr, key, query, encode cipher key query draw⟩
        if call.datagram.length ≤ maxDatagram then
          some { hop with sent := call :: hop.sent, waiting := call :: hop.waiting }
        else
          some { hop with
            returned := (call, .error (.io "Message too long".toList)) :: hop.returned }
  | .toProxy id datagram =>
      match hop.waiting.find? (·.id = id) with
      | none => none
      | some call =>
          some { hop with
            waiting := hop.waiting.filter (·.id ≠ id)
            returned := (call, acceptObfs cipher call.addr call.key datagram) :: hop.returned }
  | .failed id error =>
      match hop.waiting.find? (·.id = id) with
      | none => none
      | some call =>
          some { hop with
            waiting := hop.waiting.filter (·.id ≠ id)
            returned := (call, .error error) :: hop.returned }
  | .relay event =>
      (obfsStep cipher ucd aead keys hop.listener event).map fun listener => { hop with listener }

variable {cipher ucd aead keys}

/-- A query of the proxy under the key. -/
def Asked (hop : Hop ObfsKey Addr) (key : ObfsKey) (datagram content : Bytes) : Prop :=
  ∃ call ∈ hop.sent, call.key = key ∧ call.datagram = datagram ∧ call.query = content

/-- A reply of the listener to a datagram that opened under the key. -/
def Replied (hop : Hop ObfsKey Addr) (key : ObfsKey) (datagram content : Bytes) : Prop :=
  ∃ reply ∈ hop.listener.replies, reply.task.key = key ∧ reply.datagram = datagram ∧
    datagram.length ≤ maxDatagram ∧ reply.content = content

/-- A party has sealed the content under the key and sent it as the datagram. -/
def Sealed (hop : Hop ObfsKey Addr) (key : ObfsKey) (datagram content : Bytes) : Prop :=
  Asked hop key datagram content ∨ Replied hop key datagram content

/-- If the bytes decode under a key, a party has sealed them under it. -/
def Unforged (cipher : Cipher ObfsKey) (hop : Hop ObfsKey Addr) (received : Bytes) : Prop :=
  ∀ key, (decode cipher key received).isSome → ∃ content, Sealed hop key received content

/-- The attacker delivers what it likes, but it cannot forge. -/
def NoForgery (cipher : Cipher ObfsKey) (hop : Hop ObfsKey Addr) : HopEvent ObfsKey Addr → Prop
  | .toProxy _ datagram => Unforged cipher hop (datagram.take proxyPayloadBufSize)
  | .relay (.receive datagram _ _ _) => Unforged cipher hop (datagram.take obfsPayloadBufSize)
  | _ => True

/-- What the parties have sent is encoded, and what they have accepted was sealed
by one of them under the same key. -/
structure Authentic (cipher : Cipher ObfsKey) (hop : Hop ObfsKey Addr) : Prop where
  sent : ∀ call ∈ hop.sent, call.datagram.length ≤ maxDatagram ∧
    ∃ draw, call.datagram = encode cipher call.key call.query draw
  replies : ∀ reply ∈ hop.listener.replies,
    ∃ draw, reply.datagram = encode cipher reply.task.key reply.content draw
  opened : ∀ task ∈ hop.listener.dispatched, ∃ datagram, Sealed hop task.key datagram task.query
  accepted : ∀ call reply, (call, .ok reply) ∈ hop.returned →
    ∃ datagram, Sealed hop call.key datagram reply

theorem Sealed.mono {hop after : Hop ObfsKey Addr} {key : ObfsKey} {datagram content : Bytes}
    (here : Sealed hop key datagram content) (sent : ∀ call ∈ hop.sent, call ∈ after.sent)
    (replies : ∀ reply ∈ hop.listener.replies, reply ∈ after.listener.replies) :
    Sealed after key datagram content := by
  rcases here with ⟨call, mem, asked⟩ | ⟨reply, mem, replied⟩
  · exact .inl ⟨call, sent call mem, asked⟩
  · exact .inr ⟨reply, replies reply mem, replied⟩

/-- What decodes under a key is what a party has sealed under it. -/
theorem Authentic.sealed_of_decode {hop : Hop ObfsKey Addr} (authentic : Authentic cipher hop)
    {received : Bytes} (unforged : Unforged cipher hop received) {key : ObfsKey} {content : Bytes}
    (decoded : decode cipher key received = some content) : Sealed hop key received content := by
  rcases unforged key (by rw [decoded]; rfl) with ⟨inside, here⟩
  have encoded : received.length ≤ maxDatagram ∧
      ∃ draw, received = encode cipher key inside draw := by
    rcases here with ⟨call, mem, rfl, rfl, rfl⟩ | ⟨reply, mem, rfl, rfl, short, rfl⟩
    · exact authentic.sent call mem
    · exact ⟨short, authentic.replies reply mem⟩
  rcases encoded with ⟨short, draw, rfl⟩
  rw [length_encode, maxDatagram] at short
  rw [decode_encode key (by omega) draw] at decoded
  cases decoded
  exact here

/-- A call that ends keeps what the parties have sent. -/
theorem Authentic.return {hop : Hop ObfsKey Addr} (authentic : Authentic cipher hop)
    (waiting : List (ObfsCall ObfsKey)) {call : ObfsCall ObfsKey} {result : Except Error Bytes}
    (sealed : ∀ reply, result = .ok reply → ∃ datagram, Sealed hop call.key datagram reply) :
    Authentic cipher { hop with waiting, returned := (call, result) :: hop.returned } where
  sent := authentic.sent
  replies := authentic.replies
  opened := authentic.opened
  accepted other reply mem := by
    rcases List.mem_cons.mp mem with same | before
    · cases same
      exact sealed reply rfl
    · exact authentic.accepted other reply before

theorem Authentic.send {hop after : Hop ObfsKey Addr} (authentic : Authentic cipher hop) {id : Nat}
    {addr : Text} {key : ObfsKey} {query : Bytes} {draw : Draw}
    (stepped : hopStep cipher ucd aead keys hop (.send id addr key query draw) = some after) :
    Authentic cipher after := by
  rw [hopStep] at stepped
  split at stepped
  · contradiction
  · dsimp only at stepped
    split at stepped
    · rename_i short
      cases stepped
      constructor
      · intro call mem
        rcases List.mem_cons.mp mem with rfl | before
        · exact ⟨short, draw, rfl⟩
        · exact authentic.sent call before
      · exact authentic.replies
      · intro task mem
        rcases authentic.opened task mem with ⟨datagram, here⟩
        exact ⟨datagram, here.mono (fun _ => List.mem_cons_of_mem _) (fun _ mem => mem)⟩
      · intro call reply mem
        rcases authentic.accepted call reply mem with ⟨datagram, here⟩
        exact ⟨datagram, here.mono (fun _ => List.mem_cons_of_mem _) (fun _ mem => mem)⟩
    · cases stepped
      apply authentic.return hop.waiting
      intro reply failed
      contradiction

theorem Authentic.toProxy {hop after : Hop ObfsKey Addr} (authentic : Authentic cipher hop)
    {id : Nat} {datagram : Bytes}
    (unforged : Unforged cipher hop (datagram.take proxyPayloadBufSize))
    (stepped : hopStep cipher ucd aead keys hop (.toProxy id datagram) = some after) :
    Authentic cipher after := by
  rw [hopStep] at stepped
  split at stepped
  · contradiction
  · cases stepped
    apply authentic.return
    intro reply accepted
    exact ⟨_, authentic.sealed_of_decode unforged ((acceptObfs_eq_ok_iff cipher).mp accepted)⟩

theorem Authentic.failed {hop after : Hop ObfsKey Addr} (authentic : Authentic cipher hop)
    {id : Nat} {error : Error}
    (stepped : hopStep cipher ucd aead keys hop (.failed id error) = some after) :
    Authentic cipher after := by
  rw [hopStep] at stepped
  split at stepped
  · contradiction
  · cases stepped
    apply authentic.return
    intro reply failed
    contradiction

/-- A step of the listener that adds sealed replies and opened tasks. -/
theorem Authentic.listen {hop : Hop ObfsKey Addr} (authentic : Authentic cipher hop)
    {listener : ObfsListener ObfsKey Addr}
    (kept : ∀ reply ∈ hop.listener.replies, reply ∈ listener.replies)
    (replies : ∀ reply ∈ listener.replies, reply ∈ hop.listener.replies ∨
      ∃ draw, reply.datagram = encode cipher reply.task.key reply.content draw)
    (dispatched : ∀ task ∈ listener.dispatched, task ∈ hop.listener.dispatched ∨
      ∃ datagram, Sealed hop task.key datagram task.query) :
    Authentic cipher { hop with listener } where
  sent := authentic.sent
  replies reply mem := by
    rcases replies reply mem with before | encoded
    · exact authentic.replies reply before
    · exact encoded
  opened task mem := by
    have sealed : ∃ datagram, Sealed hop task.key datagram task.query := by
      rcases dispatched task mem with before | here
      · exact authentic.opened task before
      · exact here
    rcases sealed with ⟨datagram, here⟩
    exact ⟨datagram, here.mono (fun _ => id) kept⟩
  accepted call reply mem := by
    rcases authentic.accepted call reply mem with ⟨datagram, here⟩
    exact ⟨datagram, here.mono (fun _ => id) kept⟩

theorem Authentic.advance {hop : Hop ObfsKey Addr} (authentic : Authentic cipher hop)
    {listener : ObfsListener ObfsKey Addr} (advanced : Advanced cipher hop.listener listener) :
    Authentic cipher { hop with listener } := by
  rcases replies_of_advanced advanced with same | ⟨task, content, draw, same⟩
  · apply authentic.listen
    · rw [same]
      exact fun _ => id
    · rw [same]
      exact fun _ => .inl
    · rw [dispatched_of_advanced advanced]
      exact fun _ => .inl
  · apply authentic.listen
    · rw [same]
      exact fun _ => List.mem_cons_of_mem _
    · intro reply mem
      rw [same] at mem
      rcases List.mem_cons.mp mem with rfl | before
      · exact .inr ⟨draw, rfl⟩
      · exact .inl before
    · rw [dispatched_of_advanced advanced]
      exact fun _ => .inl

theorem Authentic.receive {hop : Hop ObfsKey Addr} (authentic : Authentic cipher hop)
    {datagram : Bytes} (unforged : Unforged cipher hop (datagram.take obfsPayloadBufSize))
    (source : Addr) (ruleTrie : DomainTrie) (permit : Bool) :
    Authentic cipher
      { hop with listener := hop.listener.receive cipher keys datagram source ruleTrie permit } := by
  rcases receive_cases cipher keys hop.listener datagram source ruleTrie permit with
    ⟨_, same⟩ | ⟨task, _, opened, _, _, same⟩
  · rw [same]
    exact authentic.listen (fun _ => id) (fun _ => .inl) (fun _ => .inl)
  · rw [same]
    apply authentic.listen
    · exact fun _ => id
    · exact fun _ => .inl
    intro other mem
    rcases List.mem_cons.mp mem with rfl | before
    · exact .inr ⟨_, authentic.sealed_of_decode unforged (decode_of_openDatagram opened)⟩
    · exact .inl before

theorem Authentic.step {hop after : Hop ObfsKey Addr} {event : HopEvent ObfsKey Addr}
    (authentic : Authentic cipher hop) (noForgery : NoForgery cipher hop event)
    (stepped : hopStep cipher ucd aead keys hop event = some after) : Authentic cipher after := by
  cases event with
  | send id addr key query draw => exact authentic.send stepped
  | toProxy id datagram => exact authentic.toProxy noForgery stepped
  | failed id error => exact authentic.failed stepped
  | relay event =>
      rcases Option.map_eq_some_iff.mp stepped with ⟨listener, moved, rfl⟩
      cases event with
      | receive datagram source ruleTrie permit =>
          cases moved
          exact authentic.receive noForgery source ruleTrie permit
      | start arrival now draw => exact authentic.advance (obfsStep_start moved)
      | deliver arrival delivery now draw => exact authentic.advance (obfsStep_deliver moved)

theorem accounted_hopStep {hop after : Hop ObfsKey Addr} {event : HopEvent ObfsKey Addr}
    (accounted : Accounted hop.listener)
    (stepped : hopStep cipher ucd aead keys hop event = some after) : Accounted after.listener := by
  cases event with
  | send id addr key query draw =>
      rw [hopStep] at stepped
      split at stepped
      · contradiction
      · dsimp only at stepped
        split at stepped
        · cases stepped
          exact accounted
        · cases stepped
          exact accounted
  | toProxy id datagram =>
      rw [hopStep] at stepped
      split at stepped
      · contradiction
      · cases stepped
        exact accounted
  | failed id error =>
      rw [hopStep] at stepped
      split at stepped
      · contradiction
      · cases stepped
        exact accounted
  | relay event =>
      rcases Option.map_eq_some_iff.mp stepped with ⟨listener, moved, rfl⟩
      exact accounted.step moved

theorem authentic_start (relay : RelayState) :
    Authentic cipher (Hop.start relay : Hop ObfsKey Addr) where
  sent _ mem := nomatch mem
  replies _ mem := nomatch mem
  opened _ mem := nomatch mem
  accepted _ _ mem := nomatch mem

/-- Whatever the attacker does short of forging, a reply that `send_obfs` returns
was sealed under its key, by a query of the proxy or by a reply of the listener;
and what the listener answers was sealed under the key of the answer.  Nothing
ties the reply to the query of the call, or to its direction. -/
theorem accepted_reply_sealed (cipher : Cipher ObfsKey) (ucd : UnicodeData) (aead : Aead)
    (keys : List ObfsKey) (relay : RelayState) (trace : List (HopEvent ObfsKey Addr))
    (hop : Hop ObfsKey Addr)
    (ran : run (hopStep cipher ucd aead keys) (Hop.start relay) trace = some hop)
    (honest : Along (hopStep cipher ucd aead keys) (NoForgery cipher) (Hop.start relay) trace) :
    (∀ call reply, (call, .ok reply) ∈ hop.returned →
      ∃ datagram, Asked hop call.key datagram reply ∨ Replied hop call.key datagram reply) ∧
    ∀ answer ∈ hop.listener.replies, ∃ datagram,
      Asked hop answer.task.key datagram answer.task.query ∨
        Replied hop answer.task.key datagram answer.task.query := by
  have kept : Authentic cipher hop ∧ Accounted hop.listener := by
    apply run_invariant_along (I := fun hop => Authentic cipher hop ∧ Accounted hop.listener) _ _
      honest ran
    · exact ⟨authentic_start relay, accounted_start relay⟩
    · rintro before event after ⟨authentic, accounted⟩ noForgery stepped
      exact ⟨authentic.step noForgery stepped, accounted_hopStep accounted stepped⟩
  rcases kept with ⟨authentic, accounted⟩
  constructor
  · exact authentic.accepted
  · intro answer mem
    exact authentic.opened answer.task (accounted.replied answer mem)

/-! ## Replies to nothing -/

/-- A sealed datagram is not forged. -/
theorem unforged_of_sealed {hop : Hop UInt8 Addr} {key : UInt8} {content : Bytes} {draw : Draw}
    (here : Sealed hop key (encode Cipher.tagged key content draw) content) :
    Unforged Cipher.tagged hop (encode Cipher.tagged key content draw) := by
  intro other decodes
  by_cases same : other = key
  · subst same
    exact ⟨content, here⟩
  · rw [decode_encode_other (Cipher.rejects_tagged same)] at decodes
    contradiction

/-- A call that sends a query for the name under the key 7. -/
def callFor (id : Nat) (label : Label) : ObfsCall UInt8 where
  id := id
  addr := []
  key := 7
  query := (bareQuery [label] 1).encode
  datagram := encode Cipher.tagged 7 (bareQuery [label] 1).encode Draw.zero

/-- The reply to the query for `a`, which is dropped. -/
def contentA : Bytes :=
  ((bareQuery [labelA] 1).withFlags 0x81 0x83).encode

def replyDatagramA : Bytes :=
  encode Cipher.tagged 7 contentA Draw.zero

def sendFor (id : Nat) (label : Label) : HopEvent UInt8 Nat :=
  .send id [] 7 (bareQuery [label] 1).encode Draw.zero

/-- The proxy's own datagram comes back to it. -/
def reflected : List (HopEvent UInt8 Nat) :=
  [sendFor 1 labelA] ++ [.toProxy 1 datagramA]

/-- The relay answers the query for `a`. -/
def answered : List (HopEvent UInt8 Nat) :=
  [sendFor 1 labelA] ++
    [.relay (.receive datagramA 0 (DomainTrie.insertDrop .ascii Trie.empty "a".toList) true)] ++
    [.relay (.start 0 0 Draw.zero)]

/-- The reply to `a` is delivered, and once more to a query for `b`. -/
def replayed : List (HopEvent UInt8 Nat) :=
  answered ++ [.toProxy 1 replyDatagramA] ++ [sendFor 2 labelB] ++ [.toProxy 2 replyDatagramA]

/-- The hop these runs happen on. -/
def testStep : Hop UInt8 Nat → HopEvent UInt8 Nat → Option (Hop UInt8 Nat) :=
  hopStep Cipher.tagged .ascii Aead.transparent [7]

def testStart : Hop UInt8 Nat :=
  Hop.start ⟨newCache, none, none⟩

/-- A reply of the listener and the query it answers. -/
structure Answer where
  key : UInt8
  datagram : Bytes
  content : Bytes
  query : Bytes
  deriving DecidableEq

/-- What the parties have sent and what `send_obfs` has returned, by queries. -/
structure View where
  sent : List (ObfsCall UInt8)
  answers : List Answer
  results : List (Bytes × Option Bytes)
  deriving DecidableEq

def Hop.view (hop : Hop UInt8 Nat) : View where
  sent := hop.sent
  answers := hop.listener.replies.map fun reply =>
    ⟨reply.task.key, reply.datagram, reply.content, reply.task.query⟩
  results := hop.returned.map fun result => (result.1.query, result.2.toOption)

def viewOf (trace : List (HopEvent UInt8 Nat)) : Option View :=
  (run testStep testStart trace).map Hop.view

/-- A run goes on without a forgery if what the parties have sent allows the
event. -/
theorem noForgery_concat {trace : List (HopEvent UInt8 Nat)} {event : HopEvent UInt8 Nat}
    {view : View} (before : Along testStep (NoForgery Cipher.tagged) testStart trace)
    (viewed : viewOf trace = some view)
    (holds : ∀ hop, hop.view = view → NoForgery Cipher.tagged hop event) :
    Along testStep (NoForgery Cipher.tagged) testStart (trace ++ [event]) := by
  apply along_concat.mpr
  constructor
  · exact before
  · intro middle ran
    rcases Option.map_eq_some_iff.mp viewed with ⟨hop, same, seen⟩
    rw [ran] at same
    cases same
    exact holds middle seen

/-- The answer of the relay to the query for `a`. -/
def answerA : Answer :=
  ⟨7, replyDatagramA, contentA, (callFor 1 labelA).query⟩

/-- The datagram of a call can be delivered. -/
theorem unforged_datagramA {hop : Hop UInt8 Nat} (mem : callFor 1 labelA ∈ hop.view.sent)
    {n : Nat} (long : 1000 ≤ n) : Unforged Cipher.tagged hop (datagramA.take n) := by
  have short : datagramA.length ≤ 1000 := by decide +kernel
  rw [List.take_of_length_le (Nat.le_trans short long)]
  exact unforged_of_sealed (.inl ⟨callFor 1 labelA, mem, rfl, rfl, rfl⟩)

/-- The answer of the relay can be delivered. -/
theorem unforged_replyDatagramA {hop : Hop UInt8 Nat} (mem : answerA ∈ hop.view.answers)
    {n : Nat} (long : 1000 ≤ n) : Unforged Cipher.tagged hop (replyDatagramA.take n) := by
  have short : replyDatagramA.length ≤ 1000 := by decide +kernel
  have sendable : replyDatagramA.length ≤ maxDatagram := Nat.le_trans short (by decide)
  rcases List.mem_map.mp mem with ⟨reply, replyMem, same⟩
  simp only [answerA, Answer.mk.injEq] at same
  rcases same with ⟨key, datagram, content, _⟩
  rw [List.take_of_length_le (Nat.le_trans short long)]
  exact unforged_of_sealed (.inr ⟨reply, replyMem, key, datagram, sendable, content⟩)

theorem viewOf_asked : viewOf [sendFor 1 labelA] = some ⟨[callFor 1 labelA], [], []⟩ := by
  decide +kernel

theorem viewOf_reflected : viewOf reflected =
    some ⟨[callFor 1 labelA], [], [((callFor 1 labelA).query, some (callFor 1 labelA).query)]⟩ := by
  decide +kernel

theorem viewOf_answered : viewOf answered = some ⟨[callFor 1 labelA], [answerA], []⟩ := by
  decide +kernel

theorem viewOf_afterReply :
    viewOf (answered ++ [.toProxy 1 replyDatagramA] ++ [sendFor 2 labelB]) =
      some ⟨[callFor 2 labelB, callFor 1 labelA], [answerA],
        [((callFor 1 labelA).query, some contentA)]⟩ := by
  decide +kernel

theorem viewOf_replayed : viewOf replayed =
    some ⟨[callFor 2 labelB, callFor 1 labelA], [answerA],
      [((callFor 2 labelB).query, some contentA), ((callFor 1 labelA).query, some contentA)]⟩ := by
  decide +kernel

theorem noForgery_asked :
    Along testStep (NoForgery Cipher.tagged) testStart [sendFor 1 labelA] := by
  constructor
  · trivial
  · exact fun _ _ => trivial

theorem noForgery_reflected : Along testStep (NoForgery Cipher.tagged) testStart reflected := by
  apply noForgery_concat noForgery_asked viewOf_asked
  intro hop seen
  apply unforged_datagramA _ (by decide)
  rw [seen]
  exact List.mem_cons_self

theorem noForgery_answered : Along testStep (NoForgery Cipher.tagged) testStart answered := by
  apply along_concat.mpr
  constructor
  · apply noForgery_concat noForgery_asked viewOf_asked
    intro hop seen
    apply unforged_datagramA _ (by decide)
    rw [seen]
    exact List.mem_cons_self
  · exact fun _ _ => trivial

theorem noForgery_replayed : Along testStep (NoForgery Cipher.tagged) testStart replayed := by
  have first : Along testStep (NoForgery Cipher.tagged) testStart
      (answered ++ [.toProxy 1 replyDatagramA]) := by
    apply noForgery_concat noForgery_answered viewOf_answered
    intro hop seen
    apply unforged_replyDatagramA _ (by decide)
    rw [seen]
    exact List.mem_cons_self
  have second : Along testStep (NoForgery Cipher.tagged) testStart
      (answered ++ [.toProxy 1 replyDatagramA] ++ [sendFor 2 labelB]) :=
    along_concat.mpr ⟨first, fun _ _ => trivial⟩
  apply noForgery_concat second viewOf_afterReply
  intro hop seen
  apply unforged_replyDatagramA _ (by decide)
  rw [seen]
  exact List.mem_cons_self

theorem accepted_reply_sealed_replayed : ∃ hop, run testStep testStart replayed = some hop ∧
    hop.returned.length = 2 ∧
    ∀ call reply, (call, .ok reply) ∈ hop.returned →
      ∃ datagram, Asked hop call.key datagram reply ∨ Replied hop call.key datagram reply := by
  rcases Option.map_eq_some_iff.mp viewOf_replayed with ⟨hop, ran, seen⟩
  have two : hop.view.results.length = 2 := by rw [seen]; rfl
  rw [Hop.view, List.length_map] at two
  exact ⟨hop, ran, two, (accepted_reply_sealed Cipher.tagged .ascii Aead.transparent [7] _ replayed
    hop ran noForgery_replayed).1⟩

/-- The proxy accepts its own query as the reply to it, and the reply to a query
for `a` as the reply to a query for `b`. -/
theorem reply_not_bound :
    (∃ hop, run testStep testStart reflected = some hop ∧
      Along testStep (NoForgery Cipher.tagged) testStart reflected ∧
      ((callFor 1 labelA).query, some (callFor 1 labelA).query) ∈ hop.view.results ∧
      hop.listener.replies = []) ∧
    ∃ hop, run testStep testStart replayed = some hop ∧
      Along testStep (NoForgery Cipher.tagged) testStart replayed ∧
      ((callFor 2 labelB).query, some contentA) ∈ hop.view.results ∧
      ∀ reply ∈ hop.listener.replies, reply.task.query ≠ (callFor 2 labelB).query := by
  constructor
  · rcases Option.map_eq_some_iff.mp viewOf_reflected with ⟨hop, ran, seen⟩
    have silent : hop.view.answers = [] := by rw [seen]
    refine ⟨hop, ran, noForgery_reflected, ?_, List.map_eq_nil_iff.mp silent⟩
    rw [seen]
    exact List.mem_cons_self
  · rcases Option.map_eq_some_iff.mp viewOf_replayed with ⟨hop, ran, seen⟩
    have answers : hop.view.answers = [answerA] := by rw [seen]
    have different : (callFor 1 labelA).query ≠ (callFor 2 labelB).query := by decide +kernel
    refine ⟨hop, ran, noForgery_replayed, by rw [seen]; exact List.mem_cons_self, ?_⟩
    intro reply mem
    have answer : ⟨reply.task.key, reply.datagram, reply.content, reply.task.query⟩ ∈ [answerA] := by
      rw [← answers]
      exact List.mem_map_of_mem mem
    have query : reply.task.query = (callFor 1 labelA).query :=
      congrArg Answer.query (List.mem_singleton.mp answer)
    rw [query]
    exact different

end DnsHijacker.ResolverProxy
