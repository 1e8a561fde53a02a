import UriRouting.Proofs.Trie.Valid

/-!
# What an insertion does

`Node.Inserted path m node` lists what may come of inserting `m` below a valid node.  Either the
mapping is added, and the mappings below the result are those below the node and the new one; or one
with the same key is there already; or there is no room, and then 80 different bytes already follow
some bytes in the keys below the node, and the new key goes on with another one.  `Node.insert_spec`
says that one of these is the case and that validity is kept.

The converse of the last case, that no valid trie holds keys with more than 80 continuations, is
`Node.Valid.followers_le`; together they tie the refusal to the set of keys alone.
-/

namespace UriRouting

variable {H : Type}

/-! ## Size classes -/

namespace SizeClass

lemma capacity_le (size : SizeClass) : size.capacity ≤ 80 := by
  cases size <;> decide

lemma capacity_of_next?_none {size : SizeClass} (h : size.next? = none) : size.capacity = 80 := by
  cases size <;> simp [next?] at h
  rfl

lemma capacity_lt_of_next? {size larger : SizeClass} (h : size.next? = some larger) :
    size.capacity < larger.capacity := by
  cases size <;> simp only [next?, Option.some.injEq, reduceCtorEq] at h <;> subst h <;> decide

end SizeClass

@[simp] lemma Insertion.map_map {α β γ : Type} (f : α → β) (g : β → γ) (x : Insertion α) :
    (x.map f).map g = x.map fun a => g (f a) := by
  cases x <;> rfl

/-! ## Where two lists part -/

namespace Text

/-- A list agrees to its end with one that starts with it. -/
lemma commonLength_append {α : Type} [DecidableEq α] (front rest : List α) :
    commonLength front (front ++ rest) = front.length := by
  induction front with
  | nil => simp [commonLength]
  | cons a front ih => simp [commonLength, ih]

/-- Two lists are the front of their common length, followed by what they do not share. -/
lemma exists_common {α : Type} [DecidableEq α] (as bs : List α) :
    ∃ shared xs ys, as = shared ++ xs ∧ bs = shared ++ ys ∧
      commonLength as bs = shared.length ∧
      ∀ x xs' y ys', xs = x :: xs' → ys = y :: ys' → x ≠ y := by
  induction as generalizing bs with
  | nil => exact ⟨[], [], bs, rfl, rfl, by simp [commonLength], by simp⟩
  | cons a as ih =>
    cases bs with
    | nil => exact ⟨[], a :: as, [], rfl, rfl, by simp [commonLength], by simp⟩
    | cons b bs =>
      by_cases h : a = b
      · subst h
        obtain ⟨shared, xs, ys, has, hbs, hlen, hne⟩ := ih bs
        exact ⟨a :: shared, xs, ys, by simp [has], by simp [hbs], by simp [commonLength, hlen], hne⟩
      · refine ⟨[], a :: as, b :: bs, rfl, rfl, by simp [commonLength, h], ?_⟩
        rintro x xs' y ys' hx hy rfl
        simp only [List.cons.injEq] at hx hy
        exact h (hx.1.trans hy.1.symm)

end Text

/-- Two keys that start with the same bytes part behind them, before either of the keys ends. -/
lemma Ended.exists_parting {key key' path rest rest' : List UInt8} (h : Ended key)
    (h' : Ended key') (hkey : key = path ++ rest) (hkey' : key' = path ++ rest') (hne : key ≠ key') :
    ∃ shared x xs y ys, rest = shared ++ x :: xs ∧ rest' = shared ++ y :: ys ∧
      Text.commonLength rest rest' = shared.length ∧ x ≠ y := by
  obtain ⟨shared, xs, ys, rfl, rfl, hlen, hparts⟩ := Text.exists_common rest rest'
  rw [← List.append_assoc] at hkey hkey'
  cases xs with
  | nil =>
    rw [List.append_nil] at hkey
    exact absurd (h.eq_of_front h' ⟨ys, by rw [hkey, hkey']⟩) hne
  | cons x xs =>
    cases ys with
    | nil =>
      rw [List.append_nil] at hkey'
      exact absurd (h'.eq_of_front h ⟨x :: xs, by rw [hkey, hkey']⟩).symm hne
    | cons y ys => exact ⟨shared, x, xs, y, ys, rfl, rfl, hlen, hparts x xs y ys rfl rfl⟩

/-- How many bytes lead through a run and an edge behind it. -/
lemma length_through (path run : List UInt8) (key : UInt8) :
    (path ++ run ++ [key]).length = path.length + run.length + 1 := by
  rw [List.length_append, List.length_append, List.length_singleton]

/-! ## Continuations -/

/-- The byte `b` follows `front` in the key of one of the mappings. -/
def Follows (ms : List (Mapping H)) (front : List UInt8) (b : UInt8) : Prop :=
  ∃ m ∈ ms, ∃ rest, m.key = front ++ b :: rest

/-- As many bytes as a branch can have edges follow `front` in the keys of the mappings. -/
def Crowded (ms : List (Mapping H)) (front : List UInt8) : Prop :=
  ∃ bytes : List UInt8, bytes.Nodup ∧ bytes.length = 80 ∧ ∀ b, b ∈ bytes ↔ Follows ms front b

namespace Node

namespace Valid

variable {path run : List UInt8} {size : SizeClass} {edges : Edges H} {node : Node H}
    {m : Mapping H}

/-- The keys of a branch are the bytes that follow its run. -/
theorem mem_keys_iff_follows (h : (Node.branch run size edges).Valid path) (b : UInt8) :
    b ∈ edges.keys ↔ Follows edges.leaves (path ++ run) b := by
  constructor
  · intro hb
    obtain ⟨child, hget⟩ := Edges.mem_keys_iff.1 hb
    obtain ⟨n, hn⟩ := (h.child hget).exists_leaf
    obtain ⟨-, rest, hrest⟩ := (h.child hget).key_eq hn
    exact ⟨n, Edges.mem_leaves_of_get? hget hn, rest, by simpa using hrest⟩
  · rintro ⟨n, hn, rest, hrest⟩
    obtain ⟨child, hget, -⟩ := h.get?_of_key hn hrest
    exact Edges.mem_keys_iff.2 ⟨child, hget⟩

/-- A key that leads to a branch goes on behind what it shares with the run. -/
lemma exists_onward (h : (Node.branch run size edges).Valid path) (hm : Ended m.key)
    {rest : List UInt8} (hkey : m.key = path ++ rest) :
    ∃ shared xs y ys, run = shared ++ xs ∧ rest = shared ++ y :: ys ∧
      Text.commonLength run rest = shared.length ∧ ∀ x xs', xs = x :: xs' → x ≠ y := by
  obtain ⟨shared, xs, ys, rfl, rfl, hlen, hne⟩ := Text.exists_common run rest
  cases ys with
  | nil =>
    -- the key would end where some key below the branch goes on
    obtain ⟨n, hn⟩ := h.exists_leaf
    obtain ⟨k, -, below, -, -, hbelow⟩ := h.exists_child hn
    have hended := (h.key_eq hn).1
    rw [hbelow, ← List.append_assoc, List.append_assoc] at hended
    rw [hkey, List.append_nil] at hm
    exact absurd (hm.append_eq_nil hended) (by simp)
  | cons y ys => exact ⟨shared, xs, y, ys, rfl, rfl, hlen, fun x xs' hxs => hne x xs' y ys hxs rfl⟩

/-- What follows bytes that lead into a child is decided by the child. -/
lemma follows_child_iff (h : (Node.branch run size edges).Valid path) {key : UInt8} {c : Node H}
    (hget : edges.get? key = some c) (below : List UInt8) (b : UInt8) :
    Follows c.leaves (path ++ run ++ key :: below) b ↔
      Follows edges.leaves (path ++ run ++ key :: below) b := by
  constructor
  · rintro ⟨n, hn, hkey⟩
    exact ⟨n, Edges.mem_leaves_of_get? hget hn, hkey⟩
  · rintro ⟨n, hn, rest, hrest⟩
    have hkey : n.key = path ++ run ++ key :: (below ++ b :: rest) := by rw [hrest]; simp
    obtain ⟨c', hget', hn'⟩ := h.get?_of_key hn hkey
    obtain rfl : c = c' := by simpa [hget] using hget'
    exact ⟨n, hn', rest, hrest⟩

end Valid

/-! ## The spec of an insertion -/

/-- What may come of inserting a mapping below a node. -/
inductive Inserted (path : List UInt8) (m : Mapping H) (node : Node H) : Insertion (Node H) → Prop
  | added {result : Node H} (valid : result.Valid path)
      (leaves : result.leaves.Perm (m :: node.leaves))
      (fresh : ∀ n ∈ node.leaves, n.key ≠ m.key) : Inserted path m node (.added result)
  | present {n : Mapping H} (mem : n ∈ node.leaves) (key_eq : n.key = m.key) :
      Inserted path m node .present
  | full {run below rest : List UInt8} {key : UInt8} (crowded : Crowded node.leaves (path ++ below))
      (key_eq : m.key = path ++ below ++ key :: rest)
      (fresh : ¬ Follows node.leaves (path ++ below) key) : Inserted path m node (.full run)

section

variable {path run rest : List UInt8} {size : SizeClass} {edges : Edges H} {m : Mapping H}
  {key oldKey : UInt8} {old : Node H}

/-- A fork stands where the node stood, with the new mapping beside it. -/
lemma valid_fork (hm : Ended m.key) (hkey : m.key = path ++ run ++ key :: rest)
    (hrun : wildcardByte ∉ run) (hne : oldKey ≠ key)
    (hold : old.Valid (path ++ run ++ [oldKey])) :
    (fork run key (chain m rest) oldKey old).Valid path := by
  have hend : endByte ∉ path ++ run := by
    rw [hkey] at hm
    exact ((Ended.append_iff (by simp)).1 hm).1
  refine .branch ⟨hrun, fun hmem => hend (List.mem_append_right path hmem), ?_, ?_, ?_⟩ ?_
  · simp [Edges.keys, Ne.symm hne]
  · simp [Edges.length, SizeClass.capacity]
  · simp [Edges.length]
  · intro k child hget
    simp only [Edges.get?] at hget
    split at hget
    · next hk =>
      subst hk
      obtain rfl := Option.some.inj hget
      exact valid_chain hm (by simp [hkey])
    · split at hget
      · next hk =>
        subst hk
        obtain rfl := Option.some.inj hget
        exact hold
      · simp at hget

lemma leaves_fork (run : List UInt8) (key : UInt8) (new : Node H) (oldKey : UInt8) (old : Node H) :
    (fork run key new oldKey old).leaves = new.leaves ++ old.leaves := by
  simp [fork, Node.leaves, Edges.leaves]

/-- The lower half of a run that is cut in two. -/
lemma valid_below {below : List UInt8}
    (h : (branch (run ++ oldKey :: below) size edges).Valid path) :
    (branch below size edges).Valid (path ++ run ++ [oldKey]) := by
  obtain ⟨hw, he, hd, hr, hf⟩ := h.shape
  simp only [List.mem_append, List.mem_cons, not_or] at hw he
  exact .branch ⟨hw.2.2, he.2.2, hd, hr, hf⟩ fun k c hget => by simpa using h.child hget

/-- A branch without an edge for the next byte gets one, unless it is full. -/
lemma attach_spec (hm : Ended m.key) (h : (branch run size edges).Valid path)
    (hkey : m.key = path ++ run ++ key :: rest) (hnone : key ∉ edges.keys) :
    (branch run size edges).Inserted path m (attach run size edges key (chain m rest)) := by
  have hfresh : ¬ Follows edges.leaves (path ++ run) key := fun hf =>
    hnone ((h.mem_keys_iff_follows key).2 hf)
  have hadded : ∀ larger : SizeClass, edges.length < larger.capacity →
      (branch run size edges).Inserted path m
        (.added (branch run larger (edges.append key (chain m rest)))) := by
    intro larger hroom
    obtain ⟨hw, he, hd, -, hf⟩ := h.shape
    refine .added (.branch ⟨hw, he, ?_, ?_, .inl ?_⟩ ?_) ?_ ?_
    · rw [Edges.keys_append, ← List.concat_eq_append, List.nodup_concat]
      exact ⟨hnone, hd⟩
    · rw [Edges.length_append]
      omega
    · rw [Edges.length_append, ← Edges.length_keys]
      rcases hf with h2 | h1
      · rw [Edges.length_keys]
        omega
      · simp [h1]
    · intro k child hget
      rw [Edges.get?_append hnone] at hget
      split at hget
      · next hk =>
        subst hk
        obtain rfl := Option.some.inj hget
        exact valid_chain hm (by simp [hkey])
      · exact h.child hget
    · simp [Node.leaves]
    · intro n hn hnk
      exact hfresh ⟨n, hn, rest, hnk.trans hkey⟩
  unfold attach
  have hroom := h.shape.room
  split
  · next hfull =>
    cases hnext : size.next? with
    | none =>
      have hcrowded : Crowded edges.leaves (path ++ run) := by
        refine ⟨edges.keys, h.shape.distinct, ?_, h.mem_keys_iff_follows⟩
        rw [Edges.length_keys, hfull, SizeClass.capacity_of_next?_none hnext]
      exact .full hcrowded hkey hfresh
    | some larger =>
      refine hadded larger ?_
      have := SizeClass.capacity_lt_of_next? hnext
      omega
  · exact hadded size (by omega)

/-- What comes of an insertion below a child comes of the insertion below the branch. -/
lemma inserted_put {child : Node H} {result : Insertion (Node H)}
    (h : (branch run size edges).Valid path) (hkey : m.key = path ++ run ++ key :: rest)
    (hget : edges.get? key = some child) (hi : child.Inserted (path ++ run ++ [key]) m result) :
    (branch run size edges).Inserted path m
      (result.map fun c => branch run size (edges.put key c)) := by
  cases hi with
  | added valid leaves fresh =>
    obtain ⟨hw, he, hd, hr, hf⟩ := h.shape
    refine .added (.branch ⟨hw, he, ?_, ?_, ?_⟩ ?_) (Edges.leaves_put hget leaves) ?_
    · rwa [Edges.keys_put]
    · rwa [← Edges.length_keys, Edges.keys_put, Edges.length_keys]
    · rwa [← Edges.length_keys, Edges.keys_put, Edges.length_keys]
    · intro k c hc
      rw [Edges.get?_put hget] at hc
      split at hc
      · next hk =>
        subst hk
        obtain rfl := Option.some.inj hc
        exact valid
      · exact h.child hc
    · intro n hn hnk
      obtain ⟨c, hc, hmem⟩ := h.get?_of_key hn (hnk.trans hkey)
      obtain rfl : child = c := by simpa [hget] using hc
      exact fresh n hmem hnk
  | present mem key_eq => exact .present (Edges.mem_leaves_of_get? hget mem) key_eq
  | @full _ below rest' key' crowded key_eq fresh =>
    have hassoc : path ++ run ++ [key] ++ below = path ++ run ++ key :: below := by simp
    rw [hassoc] at crowded key_eq fresh
    obtain ⟨bytes, hnodup, hlen, hiff⟩ := crowded
    have hcrowded : Crowded edges.leaves (path ++ (run ++ key :: below)) := by
      refine ⟨bytes, hnodup, hlen, fun b => ?_⟩
      rw [hiff, h.follows_child_iff hget, List.append_assoc]
    have hkey' : m.key = path ++ (run ++ key :: below) ++ key' :: rest' := by simp [key_eq]
    refine .full hcrowded hkey' fun hf => fresh ?_
    rw [← List.append_assoc] at hf
    exact (h.follows_child_iff hget below key').2 hf

end

/-- A leaf with another key becomes a branch above both. -/
lemma insert_leaf_spec {old m : Mapping H} {path stored rest : List UInt8} (hold : Ended old.key)
    (hstored : old.key = path ++ stored) (hw : wildcardByte ∉ stored) (hm : Ended m.key)
    (hkey : m.key = path ++ rest) :
    (Node.leaf old).Inserted path m ((Node.leaf old).insert m path.length rest) := by
  rw [Node.insert]
  split
  · next hsame => exact .present (List.mem_singleton_self old) hsame
  · next hdiff =>
    have hdrop : old.template.key.drop path.length = stored := by
      rw [show old.template.key = path ++ stored from hstored, List.drop_left]
    obtain ⟨shared, x, xs, y, ys, rfl, rfl, hlen, hne⟩ :=
      hold.exists_parting hm hstored hkey hdiff
    rw [← List.append_assoc] at hstored hkey
    simp only [List.mem_append, List.mem_cons, not_or] at hw
    have hleaf : (Node.leaf old).Valid (path ++ shared ++ [x]) :=
      .leaf hold (show old.key = path ++ shared ++ [x] ++ xs by simp [hstored]) hw.2.2
    simp only [hdrop, hlen, List.drop_left, List.take_left]
    refine .added (valid_fork hm hkey hw.1 hne hleaf) ?_ ?_
    · rw [leaves_fork, leaves_chain, List.singleton_append]
    · intro n hn
      rw [Node.leaves, List.mem_singleton] at hn
      rwa [hn]

/-- A branch whose run the key leaves before its end becomes a branch below another one. -/
lemma fork_run_spec {m : Mapping H} {path shared xs ys : List UInt8} {x y : UInt8}
    {size : SizeClass} {edges : Edges H} (h : (branch (shared ++ x :: xs) size edges).Valid path)
    (hm : Ended m.key) (hkey : m.key = path ++ shared ++ y :: ys) (hne : x ≠ y) :
    (branch (shared ++ x :: xs) size edges).Inserted path m
      (.added (fork shared y (chain m ys) x (branch xs size edges))) := by
  have hrun : wildcardByte ∉ shared := fun hw => h.shape.noWildcard (List.mem_append_left _ hw)
  refine .added (valid_fork hm hkey hrun hne (valid_below h)) ?_ ?_
  · rw [leaves_fork, leaves_chain, List.singleton_append, Node.leaves, Node.leaves]
  · intro n hn hnk
    obtain ⟨k, -, below, -, -, hbelow⟩ := h.exists_child hn
    rw [hnk, hkey, List.append_assoc, List.append_assoc, List.append_assoc,
      List.append_cancel_left_eq, List.append_cancel_left_eq, List.cons_append,
      List.cons.injEq] at hbelow
    exact hne hbelow.1.symm

/-- An insertion below a valid node gives a valid one with one mapping more, finds the key there, or
finds no room for it. -/
theorem insert_spec {node : Node H} {path rest : List UInt8} {m : Mapping H} (h : node.Valid path)
    (hm : Ended m.key) (hkey : m.key = path ++ rest) :
    node.Inserted path m (node.insert m path.length rest) := by
  induction h generalizing rest with
  | leaf ended key_eq noWildcard => exact insert_leaf_spec ended key_eq noWildcard hm hkey
  | @branch path run size edges shape children ih =>
    have hv := Valid.branch shape children
    obtain ⟨shared, xs, y, ys, rfl, rfl, hlen, hne⟩ := hv.exists_onward hm hkey
    rw [← List.append_assoc] at hkey
    rw [Node.insert]
    simp only [hlen, List.drop_left, List.take_left]
    cases xs with
    | cons x xs => exact fork_run_spec hv hm hkey (hne x xs rfl)
    | nil =>
      rw [List.append_nil] at hv ih ⊢
      simp only [← length_through path shared y, Edges.insert_eq]
      cases hget : edges.get? y with
      | none => exact attach_spec hm hv hkey (Edges.get?_eq_none_iff.1 hget)
      | some child =>
        have hbelow : m.key = path ++ shared ++ [y] ++ ys := by simp [hkey]
        have hchild := ih y child hget hbelow
        simp only [Option.map_some, Insertion.map_map]
        exact inserted_put hv hkey hget hchild

/-! ## No trie holds more -/

/-- Within the run of a branch, or beside it, no two bytes follow the same text. -/
lemma Valid.follows_unique {path run front : List UInt8} {size : SizeClass} {edges : Edges H}
    (h : (Node.branch run size edges).Valid path) (hfront : ¬ path ++ run <+: front) {b c : UInt8}
    (hb : Follows edges.leaves front b) (hc : Follows edges.leaves front c) : b = c := by
  have hnext : ∀ d, Follows edges.leaves front d → front ++ [d] <+: path ++ run := by
    rintro d ⟨n, hn, r, hr⟩
    obtain ⟨_, _, r', -, -, hr'⟩ := h.exists_child hn
    have hrun : path ++ run <+: n.key := ⟨_, hr'.symm⟩
    have hd : front ++ [d] <+: n.key := ⟨r, by simp [hr]⟩
    rcases List.prefix_or_prefix_of_prefix hrun hd with hshort | hlong
    · rcases List.prefix_concat_iff.1 (by simpa using hshort) with heq | hshort
      · exact ⟨[], by simp [heq]⟩
      · exact absurd hshort hfront
    · exact hlong
  have hlen : (front ++ [b]).length = (front ++ [c]).length := by simp
  have heq := (List.prefix_of_prefix_length_le (hnext b hb) (hnext c hc) hlen.le).eq_of_length hlen
  simpa using heq

/-- No more bytes follow anything in the keys below a valid node than a branch can have edges. -/
theorem Valid.followers_le {node : Node H} {path : List UInt8} (h : node.Valid path)
    {front bytes : List UInt8} (hnodup : bytes.Nodup)
    (hf : ∀ b ∈ bytes, Follows node.leaves front b) : bytes.length ≤ 80 := by
  -- where only one byte can follow, there is at most one
  have hone : (∀ b ∈ bytes, ∀ c ∈ bytes, b = c) → bytes.length ≤ 80 := by
    intro hsame
    cases bytes with
    | nil => simp
    | cons x bytes =>
      have hall : ∀ b ∈ x :: bytes, b = x := fun b hb => hsame b hb x List.mem_cons_self
      rw [List.eq_replicate_of_mem hall, List.nodup_replicate] at hnodup
      omega
  induction h generalizing front with
  | @leaf path rest m ended key_eq noWildcard =>
    refine hone fun b hb c hc => ?_
    obtain ⟨n, hn, r, hr⟩ := hf b hb
    obtain ⟨n', hn', r', hr'⟩ := hf c hc
    rw [Node.leaves, List.mem_singleton] at hn hn'
    rw [hn, ← hn', hr', List.append_cancel_left_eq, List.cons.injEq] at hr
    exact hr.1.symm
  | @branch path run size edges shape children ih =>
    have hv := Valid.branch shape children
    by_cases hpre : path ++ run <+: front
    · obtain ⟨below, rfl⟩ := hpre
      cases below with
      | nil =>
        rw [List.append_nil] at hf
        have hsub : bytes ⊆ edges.keys := fun b hb => (hv.mem_keys_iff_follows b).2 (hf b hb)
        calc bytes.length ≤ edges.keys.length := (List.subperm_of_subset hnodup hsub).length_le
          _ = edges.length := Edges.length_keys edges
          _ ≤ size.capacity := shape.room
          _ ≤ 80 := size.capacity_le
      | cons key below =>
        cases hget : edges.get? key with
        | some child =>
          exact ih key child hget fun b hb => (hv.follows_child_iff hget below b).2 (hf b hb)
        | none =>
          cases bytes with
          | nil => simp
          | cons b bytes =>
            obtain ⟨n, hn, r, hr⟩ := hf b List.mem_cons_self
            have hkey : n.key = path ++ run ++ key :: (below ++ b :: r) := by rw [hr]; simp
            obtain ⟨child, hget', -⟩ := hv.get?_of_key hn hkey
            simp [hget] at hget'
    · exact hone fun b hb c hc => hv.follows_unique hpre (hf b hb) (hf c hc)

end Node

end UriRouting
