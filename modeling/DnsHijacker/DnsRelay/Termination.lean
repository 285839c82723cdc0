import DnsHijacker.DnsRelay.HandlerSpec

/-!
# Which bytes bring a reader to an end

`parse_domain` follows compression pointers without remembering where it has
been.  A name whose pointers lead back to one of them keeps it going for ever,
and with it every function that reads that name.  There is no other way for a
call not to come back.
-/

namespace DnsHijacker.DnsRelay

open DnsHijacker.Rust
open DnsHijacker.Library
open DnsHijacker.Shared
open DnsHijacker.Shared.Dns

/-- No name that `min_answer_ttl` reads has a pointer loop; it reads none in a
packet that is too short or counts no answers. -/
def TtlLoopFree (ucd : UnicodeData) (packet : Bytes) : Prop :=
  packet.length < 12 ∨ readU16 packet 6 = .ok 0 ∨
    ¬ PointerLoop packet 12 ∧
      ∀ count offset, AnswersLeft ucd packet (count + 1) offset → ¬ PointerLoop packet offset

/-- A packet without pointer loops has none in the names of its answers. -/
theorem ttlLoopFree_of_loopFree {ucd : UnicodeData} {packet : Bytes}
    (loopFree : ∀ offset, ¬ PointerLoop packet offset) : TtlLoopFree ucd packet := by
  right
  right
  constructor
  · exact loopFree 12
  · intro count offset _
    exact loopFree offset

/-- A step budget for `parse_domain` that suffices exists exactly if the pointers
do not loop. -/
theorem exists_fuel_iff (ucd : UnicodeData) (payload : Bytes) (offset : Nat) :
    (∃ fuel, Returns (parseDomainFrom ucd payload fuel offset [])) ↔
      ¬ PointerLoop payload offset := by
  rw [← parseDomain_returns_iff ucd]
  constructor
  · rintro ⟨fuel, result, returned⟩
    exact ⟨result, parseDomain_eq_of_fuel returned⟩
  · intro returned
    exact ⟨payload.length + 1, returned⟩

/-- Reading a name takes finitely many steps exactly if no pointer loop is
reached from its offset.  The callers of `parse_domain` return under the same
condition on the names they read, and always on bytes without pointer loops. -/
theorem readers_return_iff (ucd : UnicodeData) (payload : Bytes) :
    (∀ offset, (∃ fuel, Returns (parseDomainFrom ucd payload fuel offset [])) ↔
      ¬ PointerLoop payload offset) ∧
    (Returns (cacheKeyFromQuery ucd payload) ↔ ¬ PointerLoop payload 12) ∧
    (Returns (minAnswerTtl ucd payload) ↔ TtlLoopFree ucd payload) ∧
    (∀ ruleTrie resolveResult now later state,
      Returns (resolveQuery ucd ruleTrie payload resolveResult now later state) ↔
        (payload.length < 12 ∨ ¬ PointerLoop payload 12) ∧
          (NeedsUpstream ucd ruleTrie payload state.cache now →
            ∀ replyBuf, resolveResult = .ok replyBuf → TtlLoopFree ucd replyBuf)) ∧
    ((∀ offset, ¬ PointerLoop payload offset) →
      Returns (cacheKeyFromQuery ucd payload) ∧ Returns (minAnswerTtl ucd payload)) := by
  refine ⟨exists_fuel_iff ucd payload, cacheKeyFromQuery_returns_iff ucd payload,
    minAnswerTtl_returns_iff ucd payload, ?_, ?_⟩
  · intro ruleTrie resolveResult now later state
    rw [resolveQuery_returns_iff_minAnswerTtl]
    simp only [minAnswerTtl_returns_iff, TtlLoopFree]
  · intro loopFree
    constructor
    · exact (cacheKeyFromQuery_returns_iff ucd payload).mpr (loopFree 12)
    · exact (minAnswerTtl_returns_iff ucd payload).mpr (ttlLoopFree_of_loopFree loopFree)

/-- A header and, as the name of the question, a pointer to itself. -/
def selfPointer : Bytes :=
  [0x12, 0x34, 0x01, 0x00, 0, 1, 0, 0, 0, 0, 0, 0] ++ [0xC0, 0x0C]

theorem pointerLoop_selfPointer : PointerLoop selfPointer 12 := by
  have token : nameToken selfPointer 12 = .pointer 12 := by decide +kernel
  exact ⟨12, ⟨12, token⟩, .refl, .single (by simp [continuesAt, token])⟩

/-- Fourteen bytes from any client keep the relay busy for ever. -/
theorem selfPointer_never_returns :
    (¬ ∃ fuel, Returns (parseDomainFrom .ascii selfPointer fuel 12 [])) ∧
      ¬ Returns (cacheKeyFromQuery .ascii selfPointer) ∧
      ∀ ruleTrie resolveResult now later state,
        ¬ Returns (resolveQuery .ascii ruleTrie selfPointer resolveResult now later state) := by
  refine ⟨?_, ?_, ?_⟩
  · rw [exists_fuel_iff, not_not]
    exact pointerLoop_selfPointer
  · rw [cacheKeyFromQuery_returns_iff, not_not]
    exact pointerLoop_selfPointer
  · intro ruleTrie resolveResult now later state returned
    rcases (resolveQuery_returns_iff_minAnswerTtl.mp returned).1 with short | loopFree
    · exact absurd short (by decide)
    · exact loopFree pointerLoop_selfPointer

end DnsHijacker.DnsRelay
