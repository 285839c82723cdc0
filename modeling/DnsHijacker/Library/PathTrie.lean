import Mathlib.Data.List.Induction
import Mathlib.Order.WellFounded

/-!
# Tries whose closest policy wins

A trie over a label alphabet stores a policy at every node; `default` stands for
"no policy".  Inserting walks the path, creates what is missing and overwrites
the policy of the last node.  Looking a path up walks it from the root and stops
at the first node that has a policy, so an ancestor shadows its descendants.

The central fact is declarative: a trie built by a list of insertions answers a
path with the policy of the shortest inserted path that is a prefix of it, and
of several insertions at that path the latest counts.
-/

namespace DnsHijacker.Library

universe u v

/-- A trie node: its policy and its labelled children. -/
inductive Trie (α : Type u) (π : Type v) where
  | node (policy : π) (children : List (α × Trie α π))

namespace Trie

variable {α : Type u} {π : Type v}

def policy : Trie α π → π
  | node policy _ => policy

def children : Trie α π → List (α × Trie α π)
  | node _ children => children

@[simp]
theorem policy_node (policy : π) (children : List (α × Trie α π)) :
    (node policy children).policy = policy :=
  rfl

@[simp]
theorem children_node (policy : π) (children : List (α × Trie α π)) :
    (node policy children).children = children :=
  rfl

/-- The root alone, without a policy. -/
def empty [Inhabited π] : Trie α π :=
  node default []

variable [DecidableEq α]

/-- The child reached by a label. -/
def child (trie : Trie α π) (label : α) : Option (Trie α π) :=
  (trie.children.find? fun entry => entry.1 = label).map Prod.snd

/-- Replace or add the child reached by a label. -/
def setChild (trie : Trie α π) (label : α) (next : Trie α π) : Trie α π :=
  node trie.policy ((label, next) :: trie.children.filter fun entry => entry.1 ≠ label)

@[simp]
theorem policy_setChild (trie : Trie α π) (label : α) (next : Trie α π) :
    (trie.setChild label next).policy = trie.policy :=
  rfl

@[simp]
theorem child_setChild_self (trie : Trie α π) (label : α) (next : Trie α π) :
    (trie.setChild label next).child label = some next := by
  simp [setChild, child]

theorem child_setChild_ne (trie : Trie α π) {label other : α} (ne : label ≠ other)
    (next : Trie α π) : (trie.setChild label next).child other = trie.child other := by
  have skip : ∀ entries : List (α × Trie α π),
      (entries.filter fun entry => entry.1 ≠ label).find? (fun entry => entry.1 = other) =
        entries.find? fun entry => entry.1 = other := by
    intro entries
    rw [List.find?_filter]
    congr 1
    funext entry
    by_cases here : entry.1 = other <;> simp [here, ne.symm]
  simp only [child, setChild, children_node, List.find?_cons, ne, decide_false]
  rw [skip]

variable [Inhabited π]

/-- Walk the path, creating missing nodes, and set the policy of its last node. -/
def insert : List α → π → Trie α π → Trie α π
  | [], newPolicy, trie => node newPolicy trie.children
  | label :: path, newPolicy, trie =>
      trie.setChild label (insert path newPolicy ((trie.child label).getD empty))

/-- The policy of the node at a path, `default` where there is no node. -/
def policyAt : Trie α π → List α → π
  | trie, [] => trie.policy
  | trie, label :: path =>
      match trie.child label with
      | none => default
      | some next => policyAt next path

@[simp]
theorem policyAt_nil (trie : Trie α π) : trie.policyAt [] = trie.policy :=
  rfl

theorem policyAt_cons (trie : Trie α π) (label : α) (path : List α) :
    trie.policyAt (label :: path) = ((trie.child label).getD empty).policyAt path := by
  have nowhere : (empty : Trie α π).policyAt path = default := by
    cases path <;> rfl
  simp only [policyAt]
  cases trie.child label with
  | none => exact nowhere.symm
  | some next => rfl

@[simp]
theorem policyAt_empty (path : List α) : (empty : Trie α π).policyAt path = default := by
  cases path <;> rfl

/-- Insertion changes the policy at its own path only. -/
theorem policyAt_insert (path : List α) (newPolicy : π) (trie : Trie α π) (query : List α) :
    (insert path newPolicy trie).policyAt query =
      if query = path then newPolicy else trie.policyAt query := by
  induction path generalizing trie query with
  | nil => cases query <;> simp [insert, policyAt, child]
  | cons label path ih =>
      cases query with
      | nil => simp [insert]
      | cons head query =>
          rw [policyAt_cons, policyAt_cons, insert]
          by_cases same : label = head
          · subst head
            rw [child_setChild_self, Option.getD_some, ih]
            simp
          · rw [child_setChild_ne trie same]
            simp [Ne.symm same]

variable [DecidableEq π]

/-- Walk the path and return the first policy met below the root. -/
def lookup : Trie α π → List α → π
  | _, [] => default
  | trie, label :: path =>
      match trie.child label with
      | none => default
      | some next => if next.policy ≠ default then next.policy else lookup next path

theorem lookup_cons (trie : Trie α π) (label : α) (path : List α) :
    trie.lookup (label :: path) =
      if trie.policyAt [label] ≠ default then trie.policyAt [label]
      else ((trie.child label).getD empty).lookup path := by
  have nowhere : (empty : Trie α π).lookup path = default := by
    cases path <;> rfl
  cases found : trie.child label with
  | none => simp [lookup, policyAt, found, nowhere]
  | some next => simp [lookup, policyAt, found]

/-- `path` is the shortest nonempty prefix of `query` at which the trie has a
policy. -/
structure Closest (trie : Trie α π) (query path : List α) : Prop where
  nonempty : path ≠ []
  isPrefix : path <+: query
  hasPolicy : trie.policyAt path ≠ default
  shortest : ∀ other, other ≠ [] → other <+: query → trie.policyAt other ≠ default →
    path.length ≤ other.length

theorem Closest.lookup_eq {trie : Trie α π} {query path : List α}
    (closest : trie.Closest query path) : trie.lookup query = trie.policyAt path := by
  induction query generalizing trie path with
  | nil => exact absurd (List.prefix_nil.mp closest.isPrefix) closest.nonempty
  | cons label query ih =>
      obtain ⟨tail, rfl⟩ : ∃ tail, path = label :: tail := by
        cases path with
        | nil => exact absurd rfl closest.nonempty
        | cons head tail => exact ⟨tail, by rw [(List.cons_prefix_cons.mp closest.isPrefix).1]⟩
      rw [lookup_cons]
      by_cases here : trie.policyAt [label] = default
      · rw [if_neg (not_not.mpr here), policyAt_cons]
        apply ih
        have tailNonempty : tail ≠ [] := by
          rintro rfl
          exact closest.hasPolicy here
        refine ⟨tailNonempty, (List.cons_prefix_cons.mp closest.isPrefix).2, ?_, ?_⟩
        · rw [← policyAt_cons]
          exact closest.hasPolicy
        · intro other _ otherPrefix otherPolicy
          rw [← policyAt_cons] at otherPolicy
          exact Nat.le_of_succ_le_succ (closest.shortest (label :: other) (by simp)
            (List.cons_prefix_cons.mpr ⟨rfl, otherPrefix⟩) otherPolicy)
      · rw [if_pos here]
        have short := closest.shortest [label] (by simp) ⟨query, rfl⟩ here
        have tailNil : tail = [] := List.eq_nil_of_length_eq_zero (by simpa using short)
        rw [tailNil]

theorem lookup_eq_default {trie : Trie α π} {query : List α}
    (nowhere : ∀ path, path ≠ [] → path <+: query → trie.policyAt path = default) :
    trie.lookup query = default := by
  induction query generalizing trie with
  | nil => rfl
  | cons label query ih =>
      rw [lookup_cons, if_neg (not_not.mpr (nowhere [label] (by simp) ⟨query, rfl⟩))]
      apply ih
      intro path _ pathPrefix
      rw [← policyAt_cons]
      exact nowhere (label :: path) (by simp) (List.cons_prefix_cons.mpr ⟨rfl, pathPrefix⟩)

/-! ## Tries built by a list of insertions -/

omit [DecidableEq π] in
/-- Insert a list of policies, first entry first. -/
def build (inserts : List (List α × π)) : Trie α π :=
  inserts.foldl (fun trie entry => insert entry.1 entry.2 trie) empty

omit [Inhabited π] [DecidableEq π] in
/-- The policy of the latest insertion at a path. -/
def latest (inserts : List (List α × π)) (path : List α) : Option π :=
  (inserts.reverse.find? fun entry => entry.1 = path).map Prod.snd

omit [Inhabited π] [DecidableEq π] in
theorem latest_concat (inserts : List (List α × π)) (entry : List α × π) (path : List α) :
    latest (inserts ++ [entry]) path =
      if entry.1 = path then some entry.2 else latest inserts path := by
  by_cases same : entry.1 = path <;> simp [latest, same]

omit [Inhabited π] [DecidableEq π] in
theorem mem_of_latest {inserts : List (List α × π)} {path : List α} {found : π}
    (eq : latest inserts path = some found) : (path, found) ∈ inserts := by
  obtain ⟨entry, entryFound, rfl⟩ := Option.map_eq_some_iff.mp eq
  have same : entry.1 = path := by simpa using List.find?_some entryFound
  have entryMem := List.mem_reverse.mp (List.mem_of_find?_eq_some entryFound)
  rwa [← same]

omit [Inhabited π] [DecidableEq π] in
theorem latest_isSome {inserts : List (List α × π)} {entry : List α × π}
    (mem : entry ∈ inserts) : ∃ found, latest inserts entry.1 = some found := by
  have present : (inserts.reverse.find? fun other => other.1 = entry.1).isSome := by
    rw [List.find?_isSome]
    exact ⟨entry, List.mem_reverse.mpr mem, by simp⟩
  obtain ⟨other, otherFound⟩ := Option.isSome_iff_exists.mp present
  exact ⟨other.2, by rw [latest, otherFound]; rfl⟩

omit [Inhabited π] [DecidableEq π] in
/-- Later insertions at a path hide the earlier ones. -/
theorem latest_append (first second : List (List α × π)) (path : List α) :
    latest (first ++ second) path = (latest second path).or (latest first path) := by
  simp only [latest, List.reverse_append, List.find?_append]
  cases (second.reverse.find? fun entry => entry.1 = path) <;> rfl

omit [DecidableEq π] in
theorem build_concat (inserts : List (List α × π)) (entry : List α × π) :
    build (inserts ++ [entry]) = insert entry.1 entry.2 (build inserts) := by
  simp [build]

omit [DecidableEq π] in
/-- Every node of a built trie carries the policy last inserted at its path. -/
theorem policyAt_build (inserts : List (List α × π)) (path : List α) :
    (build inserts).policyAt path = (latest inserts path).getD default := by
  induction inserts using List.reverseRecOn with
  | nil => exact policyAt_empty path
  | append_singleton inserts entry ih =>
      rw [build_concat, policyAt_insert, latest_concat, ih]
      by_cases same : path = entry.1
      · simp [same]
      · simp [same, Ne.symm same]

/-- A built trie answers with the latest policy of the shortest inserted path
that is a prefix of the query. -/
theorem lookup_build {inserts : List (List α × π)}
    (wellFormed : ∀ entry ∈ inserts, entry.1 ≠ [] ∧ entry.2 ≠ default)
    {query : List α} {entry : List α × π} (mem : entry ∈ inserts)
    (isPrefix : entry.1 <+: query)
    (shortest : ∀ other ∈ inserts, other.1 <+: query → entry.1.length ≤ other.1.length) :
    some ((build inserts).lookup query) = latest inserts entry.1 := by
  obtain ⟨found, foundEq⟩ := latest_isSome mem
  have closest : (build inserts).Closest query entry.1 := by
    refine ⟨(wellFormed entry mem).1, isPrefix, ?_, ?_⟩
    · rw [policyAt_build, foundEq]
      exact (wellFormed _ (mem_of_latest foundEq)).2
    · intro other _ otherPrefix otherPolicy
      rw [policyAt_build] at otherPolicy
      cases otherEq : latest inserts other with
      | none => simp [otherEq] at otherPolicy
      | some _ => exact shortest _ (mem_of_latest otherEq) otherPrefix
  rw [closest.lookup_eq, policyAt_build, foundEq, Option.getD_some]

/-- Without an inserted prefix the answer is `default`. -/
theorem lookup_build_eq_default {inserts : List (List α × π)} {query : List α}
    (nowhere : ∀ entry ∈ inserts, ¬ entry.1 <+: query) :
    (build inserts).lookup query = default := by
  apply lookup_eq_default
  intro path _ pathPrefix
  rw [policyAt_build]
  cases found : latest inserts path with
  | none => rfl
  | some _ => exact absurd pathPrefix (nowhere _ (mem_of_latest found))

omit [DecidableEq α] [Inhabited π] [DecidableEq π] in
/-- Of the insertions that are prefixes of a path, one is shortest. -/
theorem exists_shortest {inserts : List (List α × π)} {query : List α}
    (covered : ∃ entry ∈ inserts, entry.1 <+: query) :
    ∃ entry ∈ inserts, entry.1 <+: query ∧
      ∀ other ∈ inserts, other.1 <+: query → entry.1.length ≤ other.1.length := by
  let candidates : Set (List α × π) := fun entry => entry ∈ inserts ∧ entry.1 <+: query
  have nonempty : candidates.Nonempty := covered
  rcases (measure fun entry : List α × π => entry.1.length).wf.has_min candidates nonempty with
    ⟨entry, ⟨mem, isPrefix⟩, minimal⟩
  refine ⟨entry, mem, isPrefix, ?_⟩
  intro other otherMem otherPrefix
  exact Nat.not_lt.mp (minimal other ⟨otherMem, otherPrefix⟩)

/-- A policy that only the earlier of two lists inserts is found exactly when
one of its paths is strictly shorter than every matching path of the later
list. -/
theorem lookup_build_append_eq_iff {first second : List (List α × π)}
    (wellFormed : ∀ entry ∈ first ++ second, entry.1 ≠ [] ∧ entry.2 ≠ default) {own : π}
    (own_ne : own ≠ default) (firstOwn : ∀ entry ∈ first, entry.2 = own)
    (secondOther : ∀ entry ∈ second, entry.2 ≠ own) {query : List α} :
    (build (first ++ second)).lookup query = own ↔
      ∃ entry ∈ first, entry.1 <+: query ∧
        ∀ other ∈ second, other.1 <+: query → entry.1.length < other.1.length := by
  constructor
  · intro found
    have covered : ∃ entry ∈ first ++ second, entry.1 <+: query := by
      by_contra nowhere
      push Not at nowhere
      rw [lookup_build_eq_default nowhere] at found
      exact own_ne found.symm
    rcases exists_shortest covered with ⟨entry, mem, isPrefix, shortest⟩
    have answer := lookup_build wellFormed mem isPrefix shortest
    rw [found, latest_append] at answer
    cases overwritten : latest second entry.1 with
    | some policy =>
        rw [overwritten, Option.some_or, Option.some.injEq] at answer
        exact absurd answer.symm (secondOther _ (mem_of_latest overwritten))
    | none =>
        rw [overwritten, Option.none_or] at answer
        refine ⟨(entry.1, own), mem_of_latest answer.symm, isPrefix, ?_⟩
        intro other otherMem otherPrefix
        have le := shortest other (List.mem_append_right first otherMem) otherPrefix
        apply Nat.lt_of_le_of_ne le
        intro sameLength
        have same : entry.1 = other.1 :=
          (List.prefix_of_prefix_length_le isPrefix otherPrefix le).eq_of_length sameLength
        rcases latest_isSome otherMem with ⟨policy, policyEq⟩
        rw [← same, overwritten] at policyEq
        contradiction
  · rintro ⟨entry, mem, isPrefix, below⟩
    rcases exists_shortest ⟨entry, List.mem_append_left second mem, isPrefix⟩ with
      ⟨closest, closestMem, closestPrefix, shortest⟩
    have answer := lookup_build wellFormed closestMem closestPrefix shortest
    rw [latest_append] at answer
    cases overwritten : latest second closest.1 with
    | some policy =>
        have deeper := below _ (mem_of_latest overwritten) closestPrefix
        have le := shortest entry (List.mem_append_left second mem) isPrefix
        exact absurd deeper (Nat.not_lt.mpr le)
    | none =>
        rw [overwritten, Option.none_or] at answer
        exact firstOwn _ (mem_of_latest answer.symm)

end Trie

end DnsHijacker.Library
