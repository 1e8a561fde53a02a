import Mathlib.Tactic
import UriRouting.Trie.Basic

/-!
# Edges as a table

The operations on a node go through its edges one by one, until they come to the key they look for.
This file states each of them by what `Edges.get?` finds under a key: insertion replaces one child
(`Edges.insert_eq`), and search asks at most two of them (`Edges.searchLiteral_eq`,
`Edges.searchWildcard_eq`).  Proofs about nodes then need no second induction over edges:
`Node.induction` gives the hypothesis for every child that is found under a key.
-/

namespace UriRouting

variable {H : Type}

/-! ## Induction -/

/-- Edges are met one after another. -/
@[induction_eliminator]
theorem Edges.induction {P : Edges H → Prop} (nil : P .nil)
    (cons : ∀ key child rest, P rest → P (.cons key child rest)) : ∀ edges, P edges
  | .nil => nil
  | .cons key child rest => cons key child rest (Edges.induction nil cons rest)

/-- To prove something of every node, prove it of leaves, and of a branch whose children have it. -/
@[induction_eliminator]
theorem Node.induction {P : Node H → Prop} (leaf : ∀ m, P (.leaf m))
    (branch : ∀ run size edges, (∀ key child, edges.get? key = some child → P child) →
      P (.branch run size edges)) (node : Node H) : P node := by
  refine @Node.rec H P (fun edges => ∀ key child, edges.get? key = some child → P child)
    leaf branch ?_ ?_ node
  · intro key child h
    simp [Edges.get?] at h
  · intro k first rest hfirst hrest key child h
    by_cases hk : k = key
    · simp only [Edges.get?, hk, if_true, Option.some.injEq] at h
      exact h ▸ hfirst
    · simp only [Edges.get?, hk, if_false] at h
      exact hrest key child h

namespace Edges

/-! ## What stands under a key -/

lemma get?_eq_none_iff {key : UInt8} {edges : Edges H} :
    edges.get? key = none ↔ key ∉ edges.keys := by
  induction edges with
  | nil => simp [get?, keys]
  | cons k child rest ih =>
    by_cases hk : k = key
    · simp [get?, keys, hk]
    · simp [get?, keys, hk, Ne.symm hk, ih]

lemma mem_keys_iff {key : UInt8} {edges : Edges H} :
    key ∈ edges.keys ↔ ∃ child, edges.get? key = some child := by
  rw [← not_iff_not, ← get?_eq_none_iff]
  cases edges.get? key <;> simp

lemma length_keys (edges : Edges H) : edges.keys.length = edges.length := by
  induction edges with
  | nil => rfl
  | cons k child rest ih => simp [keys, length, ih]

/-- A mapping below some edges stands below one of them. -/
lemma exists_of_mem_leaves {m : Mapping H} {edges : Edges H} (hd : edges.keys.Nodup)
    (h : m ∈ edges.leaves) : ∃ key child, edges.get? key = some child ∧ m ∈ child.leaves := by
  induction edges with
  | nil => simp [leaves] at h
  | cons k first rest ih =>
    simp only [keys, List.nodup_cons] at hd
    simp only [leaves, List.mem_append] at h
    rcases h with h | h
    · exact ⟨k, first, by simp [get?], h⟩
    · obtain ⟨key, child, hget, hm⟩ := ih hd.2 h
      have hk : k ≠ key := by
        rintro rfl
        exact hd.1 (mem_keys_iff.2 ⟨child, hget⟩)
      exact ⟨key, child, by simp [get?, hk, hget], hm⟩

lemma mem_leaves_of_get? {m : Mapping H} {edges : Edges H} {key : UInt8} {child : Node H}
    (h : edges.get? key = some child) (hm : m ∈ child.leaves) : m ∈ edges.leaves := by
  induction edges with
  | nil => simp [get?] at h
  | cons k first rest ih =>
    simp only [leaves, List.mem_append]
    by_cases hk : k = key
    · simp only [get?, hk, if_true, Option.some.injEq] at h
      exact .inl (h ▸ hm)
    · simp only [get?, hk, if_false] at h
      exact .inr (ih h)

/-! ## Replacing a child -/

/-- Put another node in the place of the one under a key. -/
def put (key : UInt8) (child : Node H) : Edges H → Edges H
  | nil => nil
  | cons k c rest => if k = key then cons k child rest else cons k c (rest.put key child)

@[simp] lemma keys_put (key : UInt8) (child : Node H) (edges : Edges H) :
    (edges.put key child).keys = edges.keys := by
  induction edges with
  | nil => rfl
  | cons k first rest ih => by_cases hk : k = key <;> simp [put, keys, hk, ih]

lemma get?_put {key : UInt8} {child old : Node H} {edges : Edges H} (h : edges.get? key = some old)
    (k : UInt8) : (edges.put key child).get? k = if k = key then some child else edges.get? k := by
  induction edges with
  | nil => simp [get?] at h
  | cons j first rest ih =>
    by_cases hj : j = key
    · subst hj
      by_cases hk : k = j
      · simp [put, get?, hk]
      · simp [put, get?, hk, Ne.symm hk]
    · simp only [get?, hj, if_false] at h
      by_cases hk : j = k
      · subst hk
        simp [put, get?, hj]
      · simp [put, get?, hj, hk, ih h]

/-- Replacing a child by one with another mapping adds this mapping to those below the edges. -/
lemma leaves_put {key : UInt8} {child old : Node H} {edges : Edges H} {m : Mapping H}
    (h : edges.get? key = some old) (hl : child.leaves.Perm (m :: old.leaves)) :
    (edges.put key child).leaves.Perm (m :: edges.leaves) := by
  induction edges with
  | nil => simp [get?] at h
  | cons k first rest ih =>
    by_cases hk : k = key
    · simp only [get?, hk, if_true, Option.some.injEq] at h
      subst h
      simpa [put, hk, leaves] using hl.append_right rest.leaves
    · simp only [get?, hk, if_false] at h
      simp only [put, hk, if_false, leaves]
      exact ((ih h).append_left first.leaves).trans List.perm_middle

/-! ## A further edge -/

@[simp] lemma keys_append (key : UInt8) (child : Node H) (edges : Edges H) :
    (edges.append key child).keys = edges.keys ++ [key] := by
  induction edges with
  | nil => rfl
  | cons k first rest ih => simp [append, keys, ih]

@[simp] lemma leaves_append (key : UInt8) (child : Node H) (edges : Edges H) :
    (edges.append key child).leaves = edges.leaves ++ child.leaves := by
  induction edges with
  | nil => simp [append, leaves]
  | cons k first rest ih => simp [append, leaves, ih]

lemma length_append (key : UInt8) (child : Node H) (edges : Edges H) :
    (edges.append key child).length = edges.length + 1 := by
  rw [← length_keys, ← length_keys, keys_append, List.length_append, List.length_singleton]

lemma get?_append {key : UInt8} {child : Node H} {edges : Edges H} (h : key ∉ edges.keys)
    (k : UInt8) :
    (edges.append key child).get? k = if k = key then some child else edges.get? k := by
  induction edges with
  | nil => simp [append, get?, eq_comm]
  | cons j first rest ih =>
    simp only [keys, List.mem_cons, not_or] at h
    by_cases hj : j = k
    · subst hj
      simp [append, get?, Ne.symm h.1]
    · simp [append, get?, hj, ih h.2]

/-! ## The operations on nodes, through the table -/

/-- Insertion below an edge replaces the child under its key. -/
theorem insert_eq (m : Mapping H) (depth : ℕ) (key : UInt8) (rest : List UInt8) (edges : Edges H) :
    edges.insert m depth key rest = (edges.get? key).map fun child =>
      (child.insert m depth rest).map fun child => edges.put key child := by
  induction edges with
  | nil => simp [Edges.insert, get?]
  | cons k first others ih =>
    by_cases hk : k = key
    · simp [Edges.insert, get?, put, hk]
    · simp only [Edges.insert, hk, if_false, get?, ih, Option.map_map, put]
      congr 1
      funext child
      simp only [Function.comp_apply]
      cases child.insert m depth rest <;> rfl

/-- The literal step of a search asks the child under the next byte. -/
theorem searchLiteral_eq (path : String) (key : UInt8) (rest : List UInt8) (edges : Edges H) :
    edges.searchLiteral path key rest =
      (edges.get? key).bind fun child => child.search path rest := by
  induction edges with
  | nil => rfl
  | cons k first others ih => by_cases hk : k = key <;> simp [searchLiteral, get?, hk, ih]

/-- The step of a search over a hole asks the child under `*`, which may be a leaf or have one right
under it. -/
theorem searchWildcard_eq (path : String) (rest : List UInt8) (edges : Edges H) :
    edges.searchWildcard path rest = (edges.get? wildcardByte).bind fun child =>
      (child.search path (rest.dropWhile (· != slashByte))) <|> child.endMatch? path := by
  induction edges with
  | nil => rfl
  | cons k first others ih =>
    by_cases hk : k = wildcardByte <;> simp [searchWildcard, get?, hk, ih]

end Edges

end UriRouting
