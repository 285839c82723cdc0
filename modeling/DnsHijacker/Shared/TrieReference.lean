import DnsHijacker.Shared.DomainTrie
import Mathlib.Data.List.MinMax

/-!
# The rules as a plain list

What a trie answers can be said without the trie: keep the calls that filled it
in a list, take those whose labels end the labels of the domain, and of these the
one with the fewest labels, the latest if there are several.
-/

namespace DnsHijacker.Shared.DomainTrie

open DnsHijacker.Rust
open DnsHijacker.Library

/-- A call of `insert_drop` or `insert_redirect`. -/
inductive InsertCall where
  | drop (pattern : Text)
  | redirect (pattern ipWithPort : Text)
  deriving DecidableEq, Repr

namespace InsertCall

def pattern : InsertCall → Text
  | .drop pattern => pattern
  | .redirect pattern _ => pattern

def policy : InsertCall → DomainTriePolicy
  | .drop _ => .drop
  | .redirect _ ipWithPort => .redirect (redirectIps ipWithPort)

/-- The call itself. -/
def apply (ucd : UnicodeData) (trie : DomainTrie) : InsertCall → DomainTrie
  | .drop pattern => insertDrop ucd trie pattern
  | .redirect pattern ipWithPort => insertRedirect ucd trie pattern ipWithPort

theorem policy_ne_none (call : InsertCall) : call.policy ≠ .none := by
  cases call <;> simp [policy]

end InsertCall

variable (ucd : UnicodeData)

/-- The trie after a sequence of calls. -/
def insertAll (calls : List InsertCall) : DomainTrie :=
  calls.foldl (InsertCall.apply ucd) Trie.empty

/-! ## The reference -/

/-- The labels of a pattern, in the order they are written. -/
def patternLabels (pattern : Text) : List Text :=
  let pattern := normalize ucd pattern
  ((stripPrefix ['*', '.'] pattern).getD pattern).splitOn '.'

/-- The labels of a domain, in the order they are written. -/
def domainLabels (domain : Text) : List Text :=
  (normalize ucd domain).splitOn '.'

/-- The calls whose labels end the labels of the domain. -/
def candidates (calls : List InsertCall) (domain : Text) : List InsertCall :=
  calls.filter fun call => patternLabels ucd call.pattern <:+ domainLabels ucd domain

def labelCount (call : InsertCall) : Nat :=
  (patternLabels ucd call.pattern).length

/-- The candidate with the fewest labels; `argmin` takes the first of several,
which is the latest call here. -/
def selected (calls : List InsertCall) (domain : Text) : Option InsertCall :=
  (candidates ucd calls domain).reverse.argmin (labelCount ucd)

/-- The answer of the rules about a domain. -/
def reference (calls : List InsertCall) (domain : Text) : DomainTriePolicy :=
  match selected ucd calls domain with
  | some call => call.policy
  | none => .none

/-! ## The trie against the reference -/

variable {ucd}

/-- The insertion a call makes. -/
def inserted (ucd : UnicodeData) (call : InsertCall) : List Text × DomainTriePolicy :=
  (patternPath ucd call.pattern, call.policy)

theorem insertAll_eq (calls : List InsertCall) :
    insertAll ucd calls = Trie.build (calls.map (inserted ucd)) := by
  rw [insertAll, Trie.build, List.foldl_map]
  congr 1
  funext trie call
  cases call <;> rfl

theorem isPrefix_iff (call : InsertCall) (domain : Text) :
    (inserted ucd call).1 <+: domainPath ucd domain ↔
      patternLabels ucd call.pattern <:+ domainLabels ucd domain :=
  List.reverse_prefix

theorem length_inserted (call : InsertCall) :
    (inserted ucd call).1.length = labelCount ucd call :=
  List.length_reverse

theorem mem_candidates {calls : List InsertCall} {call : InsertCall} {domain : Text} :
    call ∈ candidates ucd calls domain ↔
      call ∈ calls ∧ (inserted ucd call).1 <+: domainPath ucd domain := by
  rw [candidates, List.mem_filter, decide_eq_true_iff, isPrefix_iff]

theorem mem_of_selected {calls : List InsertCall} {call : InsertCall} {domain : Text}
    (chosen : selected ucd calls domain = some call) : call ∈ candidates ucd calls domain :=
  List.mem_reverse.mp (List.argmin_mem chosen)

/-- No candidate has fewer labels than the selected one. -/
theorem labelCount_le_of_selected {calls : List InsertCall} {call other : InsertCall}
    {domain : Text} (chosen : selected ucd calls domain = some call)
    (mem : other ∈ candidates ucd calls domain) : labelCount ucd call ≤ labelCount ucd other :=
  List.le_of_mem_argmin (List.mem_reverse.mpr mem) chosen

theorem selected_eq_none_iff {calls : List InsertCall} {domain : Text} :
    selected ucd calls domain = none ↔ candidates ucd calls domain = [] := by
  rw [selected, List.argmin_eq_none, List.reverse_eq_nil_iff]

/-- One more call is selected if it is a candidate with no more labels than the
one selected before. -/
theorem selected_concat (calls : List InsertCall) (call : InsertCall) (domain : Text) :
    selected ucd (calls ++ [call]) domain =
      if patternLabels ucd call.pattern <:+ domainLabels ucd domain then
        match selected ucd calls domain with
        | some before =>
            if labelCount ucd before < labelCount ucd call then some before else some call
        | none => some call
      else selected ucd calls domain := by
  have split : candidates ucd (calls ++ [call]) domain =
      candidates ucd calls domain ++ candidates ucd [call] domain :=
    List.filter_append _ _
  rw [selected, split, List.reverse_append]
  by_cases covers : patternLabels ucd call.pattern <:+ domainLabels ucd domain
  · have here : candidates ucd [call] domain = [call] := by simp [candidates, covers]
    rw [here, if_pos covers, List.reverse_singleton, List.singleton_append, List.argmin_cons]
    rw [selected]
    cases List.argmin (labelCount ucd) (candidates ucd calls domain).reverse <;> rfl
  · have here : candidates ucd [call] domain = [] := by simp [candidates, covers]
    rw [here, if_neg covers]
    rfl

/-- The policy of the selected call is the one last set at its node. -/
theorem latest_of_selected {calls : List InsertCall} {call : InsertCall} {domain : Text}
    (chosen : selected ucd calls domain = some call) :
    Trie.latest (calls.map (inserted ucd)) (inserted ucd call).1 = some call.policy := by
  induction calls using List.reverseRecOn with
  | nil => contradiction
  | append_singleton calls last ih =>
      -- Either the last call is selected, or it is at another node.
      have alternatives : call = last ∨
          selected ucd calls domain = some call ∧ (inserted ucd last).1 ≠ (inserted ucd call).1 := by
        rw [selected_concat] at chosen
        split at chosen
        · split at chosen
          · rename_i before found
            split at chosen
            · rename_i fewer
              cases chosen
              right
              refine ⟨found, ?_⟩
              intro same
              rw [← length_inserted, ← length_inserted, same] at fewer
              exact Nat.lt_irrefl _ fewer
            · cases chosen
              exact .inl rfl
          · cases chosen
            exact .inl rfl
        · rename_i uncovered
          right
          refine ⟨chosen, ?_⟩
          intro same
          rw [← isPrefix_iff, same] at uncovered
          exact uncovered (mem_candidates.mp (mem_of_selected chosen)).2
      rw [List.map_append, List.map_singleton, Trie.latest_concat]
      rcases alternatives with rfl | ⟨before, elsewhere⟩
      · rw [if_pos rfl]
        rfl
      · rw [if_neg elsewhere]
        exact ih before

theorem inserted_wellFormed (calls : List InsertCall) :
    ∀ entry ∈ calls.map (inserted ucd), entry.1 ≠ [] ∧ entry.2 ≠ default := by
  intro entry mem
  rcases List.mem_map.mp mem with ⟨call, _, rfl⟩
  exact ⟨patternPath_ne_nil call.pattern, call.policy_ne_none⟩

/-- After every sequence of calls the trie answers every domain as the list of
the calls does. -/
theorem lookup_insertAll (ucd : UnicodeData) (calls : List InsertCall) (domain : Text) :
    lookup ucd (insertAll ucd calls) domain = reference ucd calls domain := by
  rw [lookup, insertAll_eq, reference]
  cases chosen : selected ucd calls domain with
  | none =>
      have empty := selected_eq_none_iff.mp chosen
      apply Trie.lookup_build_eq_default
      intro entry mem isPrefix
      rcases List.mem_map.mp mem with ⟨call, callMem, rfl⟩
      have candidate : call ∈ candidates ucd calls domain :=
        mem_candidates.mpr ⟨callMem, isPrefix⟩
      rw [empty] at candidate
      contradiction
  | some call =>
      rcases mem_candidates.mp (mem_of_selected chosen) with ⟨mem, isPrefix⟩
      have answer := Trie.lookup_build (inserted_wellFormed calls) (List.mem_map_of_mem mem) isPrefix
        (by
          intro entry entryMem entryPrefix
          rcases List.mem_map.mp entryMem with ⟨other, otherMem, rfl⟩
          rw [length_inserted, length_inserted]
          exact labelCount_le_of_selected chosen (mem_candidates.mpr ⟨otherMem, entryPrefix⟩))
      rw [latest_of_selected chosen] at answer
      exact Option.some.inj answer

example : reference .ascii [.drop "*.com".toList, .redirect "ads.com.".toList "10.0.0.1:53".toList,
    .redirect "COM".toList "10.0.0.2".toList] "x.ads.com".toList =
      .redirect ["10.0.0.2".toList] := by decide +kernel

end DnsHijacker.Shared.DomainTrie
