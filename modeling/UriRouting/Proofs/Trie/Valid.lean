import UriRouting.Proofs.Template.Key
import UriRouting.Proofs.Trie.Edges

/-!
# The invariant of the trie

`Node.Valid path node` says that `node` may stand under the bytes `path`: the bytes on the way to
a leaf are the beginning of the leaf's key, what the leaf does not spell out holds no `*`, and
every branch has the shape of a branch (`BranchShape`).  The rest of the file draws from the
invariant what the proofs about insertion and search ask for: where a mapping stands below a
branch (`Valid.exists_child`, `Valid.get?_of_key`), that the mark of the end leads to a leaf
(`Valid.leaf_of_end`), and that no key occurs twice (`Valid.eq_of_key_eq`).

`Node.valid_chain` is the first instance: the nodes that are made for a new mapping are valid.
-/

namespace UriRouting

variable {H : Type}

/-- The shape of a branch, whatever stands below it: the run holds neither of the marks, no key
occurs twice, the edges fit the size class, and there are two of them unless the only one is for a
hole. -/
structure BranchShape (run : List UInt8) (size : SizeClass) (edges : Edges H) : Prop where
  noWildcard : wildcardByte ∉ run
  noEnd : endByte ∉ run
  distinct : edges.keys.Nodup
  room : edges.length ≤ size.capacity
  forks : 2 ≤ edges.length ∨ edges.keys = [wildcardByte]

/-- The key of a mapping's template. -/
abbrev Mapping.key (m : Mapping H) : List UInt8 := m.template.key

/-- A node that may stand under the given bytes. -/
inductive Node.Valid : List UInt8 → Node H → Prop
  | leaf {path rest : List UInt8} {m : Mapping H} (ended : Ended m.key)
      (key_eq : m.key = path ++ rest)
      (noWildcard : wildcardByte ∉ rest) : Valid path (.leaf m)
  | branch {path run : List UInt8} {size : SizeClass} {edges : Edges H}
      (shape : BranchShape run size edges)
      (children : ∀ key child, edges.get? key = some child → Valid (path ++ run ++ [key]) child) :
      Valid path (.branch run size edges)

namespace Node

/-! ## Chains -/

lemma chainFrom_eq_leaf (m : Mapping H) {rest : List UInt8} (h : wildcardByte ∉ rest)
    (run : List UInt8) : chainFrom m run rest = .leaf m := by
  induction rest generalizing run with
  | nil => rfl
  | cons b bs ih =>
    simp only [List.mem_cons, not_or] at h
    rw [chainFrom, if_neg (Ne.symm h.1), ih h.2]

lemma chainFrom_append (m : Mapping H) {front : List UInt8} (h : wildcardByte ∉ front)
    (run rest : List UInt8) : chainFrom m run (front ++ wildcardByte :: rest) =
      .branch (run.reverse ++ front) .upTo4 (.cons wildcardByte (chain m rest) .nil) := by
  induction front generalizing run with
  | nil => simp [chainFrom, chain]
  | cons b bs ih =>
    simp only [List.mem_cons, not_or] at h
    rw [List.cons_append, chainFrom, if_neg (Ne.symm h.1), ih h.2]
    simp

/-- Without a hole in it, what is left of a key is not spelled out. -/
lemma chain_eq_leaf (m : Mapping H) {rest : List UInt8} (h : wildcardByte ∉ rest) :
    chain m rest = .leaf m :=
  chainFrom_eq_leaf m h []

/-- A chain spells what is left of a key up to the first hole, and goes on below it. -/
lemma chain_append (m : Mapping H) {front : List UInt8} (h : wildcardByte ∉ front)
    (rest : List UInt8) : chain m (front ++ wildcardByte :: rest) =
      .branch front .upTo4 (.cons wildcardByte (chain m rest) .nil) := by
  rw [chain, chainFrom_append m h, List.reverse_nil, List.nil_append]

/-- Induction over what is left of a key, hole by hole. -/
theorem chain_induction {P : List UInt8 → Prop} (leaf : ∀ rest, wildcardByte ∉ rest → P rest)
    (hole : ∀ front rest, wildcardByte ∉ front → P rest → P (front ++ wildcardByte :: rest))
    (rest : List UInt8) : P rest := by
  by_cases h : wildcardByte ∈ rest
  · obtain ⟨front, below, heq, hfront⟩ := List.eq_append_cons_of_mem h
    have : below.length < rest.length := by
      rw [heq, List.length_append, List.length_cons]
      omega
    rw [heq]
    exact hole front below hfront (chain_induction leaf hole below)
  · exact leaf rest h
termination_by rest.length

@[simp] lemma leaves_chain (m : Mapping H) (rest : List UInt8) : (chain m rest).leaves = [m] := by
  induction rest using chain_induction with
  | leaf rest h => rw [chain_eq_leaf m h, Node.leaves]
  | hole front rest h ih => simp [chain_append m h, Node.leaves, Edges.leaves, ih]

theorem valid_chain {m : Mapping H} (hm : Ended m.key) {path rest : List UInt8}
    (h : m.key = path ++ rest) : (chain m rest).Valid path := by
  induction rest using chain_induction generalizing path with
  | leaf rest hrest =>
    rw [chain_eq_leaf m hrest]
    exact .leaf hm h hrest
  | hole front rest hfront ih =>
    rw [chain_append m hfront]
    have hend : endByte ∉ path ++ front := by
      rw [h, ← List.append_assoc] at hm
      exact ((Ended.append_iff (by simp)).1 hm).1
    refine .branch ⟨hfront, fun hmem => hend (List.mem_append_right path hmem), ?_, ?_, ?_⟩ ?_
    · simp [Edges.keys]
    · simp [Edges.length, SizeClass.capacity]
    · exact .inr rfl
    · intro key child hget
      simp only [Edges.get?] at hget
      split at hget
      · next hkey =>
        subst hkey
        obtain rfl := Option.some.inj hget
        exact ih (by simp [h])
      · simp at hget

/-! ## Mappings below a valid node -/

namespace Valid

variable {path run : List UInt8} {size : SizeClass} {edges : Edges H} {node : Node H}
    {m n : Mapping H}

/-- Every mapping below a node has a key that starts with the bytes on the way to the node. -/
theorem key_eq (h : node.Valid path) (hm : m ∈ node.leaves) :
    Ended m.key ∧ ∃ rest, m.key = path ++ rest := by
  induction h with
  | leaf ended key_eq noWildcard =>
    simp only [leaves, List.mem_singleton] at hm
    subst hm
    exact ⟨ended, _, key_eq⟩
  | branch shape children ih =>
    obtain ⟨key, child, hget, hmem⟩ := Edges.exists_of_mem_leaves shape.distinct hm
    obtain ⟨hended, rest, hrest⟩ := ih key child hget hmem
    exact ⟨hended, _, by rw [hrest, List.append_assoc, List.append_assoc]⟩

lemma exists_leaf (h : node.Valid path) : ∃ m, m ∈ node.leaves := by
  induction h with
  | leaf => exact ⟨_, List.mem_singleton_self _⟩
  | @branch path run size edges shape children ih =>
    have hne : edges.keys ≠ [] := by
      rcases shape.forks with h2 | h1
      · intro hnil
        rw [← Edges.length_keys, hnil] at h2
        simp at h2
      · simp [h1]
    obtain ⟨key, hkey⟩ := List.exists_mem_of_ne_nil _ hne
    obtain ⟨child, hget⟩ := Edges.mem_keys_iff.1 hkey
    obtain ⟨m, hm⟩ := ih key child hget
    exact ⟨m, Edges.mem_leaves_of_get? hget hm⟩

lemma shape (h : (Node.branch run size edges).Valid path) : BranchShape run size edges := by
  cases h with
  | branch shape _ => exact shape

lemma child (h : (Node.branch run size edges).Valid path) {key : UInt8} {c : Node H}
    (hget : edges.get? key = some c) : c.Valid (path ++ run ++ [key]) := by
  cases h with
  | branch _ children => exact children key c hget

/-- A mapping below a branch stands below the edge that its key names after the run. -/
theorem exists_child (h : (Node.branch run size edges).Valid path) (hm : m ∈ edges.leaves) :
    ∃ key child rest, edges.get? key = some child ∧ m ∈ child.leaves ∧
      m.key = path ++ run ++ key :: rest := by
  obtain ⟨key, child, hget, hmem⟩ := Edges.exists_of_mem_leaves h.shape.distinct hm
  obtain ⟨-, rest, hrest⟩ := (h.child hget).key_eq hmem
  exact ⟨key, child, rest, hget, hmem, by simpa using hrest⟩

/-- The byte after the run decides below which edge of a branch a mapping stands. -/
theorem get?_of_key (h : (Node.branch run size edges).Valid path) (hm : m ∈ edges.leaves)
    {key : UInt8}
    {rest : List UInt8} (hkey : m.key = path ++ run ++ key :: rest) :
    ∃ child, edges.get? key = some child ∧ m ∈ child.leaves := by
  obtain ⟨k, child, rest', hget, hmem, hk⟩ := h.exists_child hm
  rw [hkey, List.append_cancel_left_eq, List.cons.injEq] at hk
  exact ⟨child, hk.1 ▸ hget, hmem⟩

/-- The edge above a mapping is the one that its key names after the run. -/
lemma edge_eq (h : (Node.branch run size edges).Valid path) {edge key : UInt8} {c : Node H}
    (hget : edges.get? edge = some c) (hm : m ∈ c.leaves) {rest : List UInt8}
    (hkey : m.key = path ++ run ++ key :: rest) : edge = key := by
  obtain ⟨-, t, ht⟩ := (h.child hget).key_eq hm
  rw [hkey, List.append_assoc (path ++ run), List.append_cancel_left_eq, List.singleton_append,
    List.cons.injEq] at ht
  exact ht.1.symm

/-- A branch below which all keys go on with the same byte is one for a hole. -/
theorem eq_wildcard_of_forall (h : (Node.branch run size edges).Valid path) (key : UInt8)
    (hall : ∀ n ∈ edges.leaves, ∃ rest, n.key = path ++ run ++ key :: rest) :
    key = wildcardByte := by
  have hkeys : ∀ k ∈ edges.keys, k = key := by
    intro k hk
    obtain ⟨child, hget⟩ := Edges.mem_keys_iff.1 hk
    obtain ⟨n, hn⟩ := (h.child hget).exists_leaf
    obtain ⟨-, rest, hrest⟩ := (h.child hget).key_eq hn
    obtain ⟨rest', hrest'⟩ := hall n (Edges.mem_leaves_of_get? hget hn)
    rw [hrest, List.append_assoc, List.append_cancel_left_eq, List.singleton_append,
      List.cons.injEq] at hrest'
    exact hrest'.1
  rcases h.shape.forks with h2 | h1
  · have hd := h.shape.distinct
    rw [List.eq_replicate_of_mem hkeys, List.nodup_replicate, Edges.length_keys] at hd
    omega
  · exact (hkeys wildcardByte (by simp [h1])).symm

/-- Nothing but a leaf can stand under bytes that are a whole key. -/
theorem eq_leaf_of_ended (h : node.Valid path) (hp : Ended path) :
    ∃ m, node = .leaf m ∧ m.key = path := by
  obtain ⟨m, hm⟩ := h.exists_leaf
  obtain ⟨hended, rest, hrest⟩ := h.key_eq hm
  have hnil : rest = [] := hp.append_eq_nil (hrest ▸ hended)
  cases h with
  | leaf _ _ _ =>
    simp only [leaves, List.mem_singleton] at hm
    subst hm
    exact ⟨m, rfl, by simp [hrest, hnil]⟩
  | @branch _ run size edges shape children =>
    obtain ⟨key, child, rest', -, -, hk⟩ := (Valid.branch shape children).exists_child hm
    rw [hrest, hnil, List.append_nil, List.append_assoc] at hk
    simpa using congrArg List.length hk

/-- The edge for the end of a key leads to the leaf with this key. -/
theorem leaf_of_end (h : (Node.branch run size edges).Valid path) {c : Node H}
    (hget : edges.get? endByte = some c) : ∃ m, c = .leaf m ∧ m.key = path ++ run ++ [endByte] := by
  have hc := h.child hget
  obtain ⟨m, hm⟩ := hc.exists_leaf
  obtain ⟨hended, rest, hrest⟩ := hc.key_eq hm
  refine hc.eq_leaf_of_ended ?_
  have hmark := hended
  rw [hrest, List.append_assoc, Ended.append_iff (by simp)] at hmark
  refine ⟨path ++ run, rfl, hmark.1⟩

/-- No two mappings below a node have the same key. -/
theorem eq_of_key_eq (h : node.Valid path) (hm : m ∈ node.leaves) (hn : n ∈ node.leaves)
    (hkey : m.key = n.key) : m = n := by
  induction h with
  | leaf =>
    simp only [leaves, List.mem_singleton] at hm hn
    rw [hm, hn]
  | branch shape children ih =>
    have hb := Valid.branch shape children
    obtain ⟨key, child, rest, hget, hmem, hk⟩ := hb.exists_child hm
    obtain ⟨child', hget', hmem'⟩ := hb.get?_of_key hn (hkey ▸ hk)
    obtain rfl : child = child' := by simpa [hget] using hget'
    exact ih key child hget hmem hmem'

end Valid

end Node

end UriRouting
