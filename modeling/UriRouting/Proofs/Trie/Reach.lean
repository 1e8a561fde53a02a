import UriRouting.Proofs.Trie.History

/-!
# Which routes a search asks

A search does not compare a path with whole keys.  It follows the nodes, and a leaf is asked as
soon as it is reached, whatever its key goes on with.  How far a key is spelled out depends on the
other keys, so one more route can take a path away from a route that served it.

This file says which routes are asked, in terms of the stored keys alone: `Compared ms key front`
tells that of `key` the search compares no more than `front` when `ms` are stored, and
`Goes front rest` that a path goes along these bytes.  `Node.search_isSome_iff` and
`RouteTrie.lookup_isSome_iff` say that a path is served exactly if it goes along the compared part
of the key of some route whose expression accepts it.

`Aligned` is the case that depends on no other route: a path that goes along the whole key.
-/

namespace UriRouting

variable {H : Type}

/-! ## Segments in bytes -/

/-- Text within a segment has no `/` among its bytes. -/
lemma slash_not_mem_utf8 {cs : List Char} (h : '/' ∉ cs) : slashByte ∉ Text.utf8 cs := fun hmem =>
  h ((Text.mem_utf8_iff (by decide : '/'.toNat < 128) cs).1 hmem)

/-- A segment in front of a path is dropped with what is left of it. -/
lemma dropWhile_append_of_not_mem {segment : List UInt8} (h : slashByte ∉ segment)
    (path : List UInt8) :
    (segment ++ path).dropWhile (· != slashByte) = path.dropWhile (· != slashByte) := by
  refine List.dropWhile_append_of_pos fun b hb => ?_
  have hne : b ≠ slashByte := fun heq => h (heq ▸ hb)
  simpa using hne

lemma dropWhile_segment {segment : List UInt8} (h : slashByte ∉ segment) (path : List UInt8) :
    (segment ++ slashByte :: path).dropWhile (· != slashByte) = slashByte :: path := by
  rw [dropWhile_append_of_not_mem h]
  rfl

/-- Behind a segment a path ends or goes on with a `/`. -/
lemma headD_dropWhile (path : List UInt8) :
    (path.dropWhile (· != slashByte)).headD endByte = endByte ∨
      (path.dropWhile (· != slashByte)).headD endByte = slashByte := by
  induction path with
  | nil => exact .inl rfl
  | cons b path ih =>
    by_cases hb : b = slashByte
    · rw [List.dropWhile_cons_of_neg (by simp [hb])]
      exact .inr hb
    · rw [List.dropWhile_cons_of_pos (by simpa using hb)]
      exact ih

/-! ## Going along a key -/

/-- The path goes along the bytes.  A byte is met by the same byte of the path, the end of the path
counting as the mark of the end; a `*` may also be met by what is left of a segment. -/
inductive Goes : List UInt8 → List UInt8 → Prop
  | nil {path : List UInt8} : Goes [] path
  | byte {b : UInt8} {front path : List UInt8} (head : path.headD endByte = b)
      (tail : Goes front path.tail) : Goes (b :: front) path
  | segment {front path : List UInt8} (tail : Goes front (path.dropWhile (· != slashByte))) :
      Goes (wildcardByte :: front) path

lemma goes_self_append (front path : List UInt8) : Goes front (front ++ path) := by
  induction front with
  | nil => exact .nil
  | cons b front ih => exact .byte rfl ih

/-- A run is compared byte by byte. -/
lemma goes_run_append {run : List UInt8} (hw : wildcardByte ∉ run) (he : endByte ∉ run)
    {front path : List UInt8} :
    Goes (run ++ front) path ↔ ∃ rest, path = run ++ rest ∧ Goes front rest := by
  induction run generalizing path with
  | nil => simp
  | cons b run ih =>
    simp only [List.mem_cons, not_or] at hw he
    constructor
    · intro h
      cases h with
      | byte head tail =>
        obtain ⟨rest, htail, hrest⟩ := (ih hw.2 he.2).1 tail
        cases path with
        | nil => exact absurd head he.1
        | cons c path =>
          obtain rfl : c = b := head
          exact ⟨rest, by rw [List.cons_append, ← htail]; rfl, hrest⟩
      | segment tail => exact absurd rfl hw.1
    · rintro ⟨rest, rfl, hrest⟩
      exact .byte rfl ((ih hw.2 he.2).2 ⟨rest, rfl, hrest⟩)

/-! ## The compared part of a key -/

/-- While `ms` are stored, the search compares no more of `key` with a path than `front`.  Either
no other key starts so and no hole follows, or a single hole follows, and the text behind it up to
the end is shared by all keys that get this far. -/
inductive Compared (ms : List (Mapping H)) (key front : List UInt8) : Prop
  | alone {rest : List UInt8} (key_eq : key = front ++ rest) (noWildcard : wildcardByte ∉ rest)
      (only : ∀ n ∈ ms, front <+: n.key → n.key = key)
  | shared {run : List UInt8} (key_eq : key = front ++ wildcardByte :: (run ++ [endByte]))
      (noWildcard : wildcardByte ∉ run)
      (all : ∀ n ∈ ms, front ++ [wildcardByte] <+: n.key → front ++ wildcardByte :: run <+: n.key)

lemma Compared.starts {ms : List (Mapping H)} {key front : List UInt8} (h : Compared ms key front) :
    front <+: key := by
  cases h with
  | alone key_eq => exact ⟨_, key_eq.symm⟩
  | shared key_eq => exact ⟨_, key_eq.symm⟩

/-- All of a key may be compared, whatever is stored. -/
lemma compared_self {ms : List (Mapping H)} {key : List UInt8} (hkey : Ended key)
    (hms : ∀ n ∈ ms, Ended n.key) : Compared ms key key :=
  .alone (List.append_nil key).symm (by simp) fun n hn hp => (hkey.eq_of_front (hms n hn) hp).symm

/-- Only the mappings whose keys start with the bytes matter. -/
lemma Compared.anti {ms ns : List (Mapping H)} {key front : List UInt8} (hc : Compared ns key front)
    (h : ∀ n ∈ ms, front <+: n.key → n ∈ ns) : Compared ms key front := by
  cases hc with
  | alone key_eq noWildcard only =>
    exact .alone key_eq noWildcard fun n hn hp => only n (h n hn hp) hp
  | shared key_eq noWildcard all =>
    refine .shared key_eq noWildcard fun n hn hp => all n (h n hn ?_) hp
    exact (List.prefix_append front [wildcardByte]).trans hp

lemma Compared.congr {ms ns : List (Mapping H)} (h : ∀ n, n ∈ ms ↔ n ∈ ns)
    {key front : List UInt8} :
    Compared ms key front ↔ Compared ns key front :=
  ⟨fun hc => hc.anti fun n hn _ => (h n).2 hn, fun hc => hc.anti fun n hn _ => (h n).1 hn⟩

/-- One mapping more leaves the comparison of a key as short as before exactly if it would do so
alone. -/
theorem compared_cons_iff {ms : List (Mapping H)} {m : Mapping H} {key front : List UInt8} :
    Compared (m :: ms) key front ↔ Compared ms key front ∧ Compared [m] key front := by
  constructor
  · intro hc
    refine ⟨hc.anti fun n hn _ => List.mem_cons_of_mem m hn, hc.anti fun n hn _ => ?_⟩
    rw [List.mem_singleton.1 hn]
    exact List.mem_cons_self
  · rintro ⟨hms, hm⟩
    -- whether a hole follows is up to the key, so both comparisons end for the same reason
    cases hms with
    | alone key_eq noWildcard only =>
      cases hm with
      | alone _ _ only' =>
        refine .alone key_eq noWildcard fun n hn hp => ?_
        rcases List.mem_cons.1 hn with rfl | hn
        · exact only' n (List.mem_singleton_self n) hp
        · exact only n hn hp
      | shared key_eq' =>
        rw [key_eq, List.append_cancel_left_eq] at key_eq'
        exact absurd (by simp [key_eq']) noWildcard
    | shared key_eq noWildcard all =>
      cases hm with
      | alone key_eq' noWildcard' =>
        rw [key_eq, List.append_cancel_left_eq] at key_eq'
        exact absurd (by simp [← key_eq']) noWildcard'
      | shared key_eq' _ all' =>
        rw [key_eq, List.append_cancel_left_eq, List.cons.injEq, List.append_cancel_right_eq]
          at key_eq'
        obtain ⟨-, rfl⟩ := key_eq'
        refine .shared key_eq noWildcard fun n hn hp => ?_
        rcases List.mem_cons.1 hn with rfl | hn
        · exact all' n (List.mem_singleton_self n) hp
        · exact all n hn hp

/-! ## Hits -/

lemma Mapping.match?_eq_some_iff {m : Mapping H} {path : String} {r : Match H} :
    m.match? path = some r ↔ r.mapping = m ∧ m.template.capture? path = some r.params := by
  cases r
  simp only [Mapping.match?, Option.map_eq_some_iff, Match.mk.injEq, eq_comm (a := m)]
  constructor
  · rintro ⟨params, h, hm, rfl⟩
    exact ⟨hm, h⟩
  · rintro ⟨hm, h⟩
    exact ⟨_, h, hm, rfl⟩

lemma Mapping.isSome_match? (m : Mapping H) (path : String) :
    (m.match? path).isSome = (m.template.capture? path).isSome := by
  simp [Mapping.match?]

namespace Node

variable {path run : List UInt8} {size : SizeClass} {edges : Edges H} {node : Node H}
    {m : Mapping H}

/-- How much of a key is compared below a child depends on the mappings below the child alone. -/
lemma Valid.compared_child_iff (h : (Node.branch run size edges).Valid path) {key : UInt8}
    {c : Node H}
    (hget : edges.get? key = some c) {front : List UInt8} {k : List UInt8} :
    Compared c.leaves k (path ++ run ++ [key] ++ front) ↔
      Compared edges.leaves k (path ++ (run ++ key :: front)) := by
  have hassoc : path ++ run ++ [key] ++ front = path ++ (run ++ key :: front) := by simp
  rw [hassoc]
  constructor
  · intro hc
    refine hc.anti fun n hn hp => ?_
    obtain ⟨rest, hrest⟩ := hp
    have hkey : n.key = path ++ run ++ key :: (front ++ rest) := by rw [← hrest]; simp
    obtain ⟨c', hget', hmem⟩ := h.get?_of_key hn hkey
    obtain rfl : c = c' := by simpa [hget] using hget'
    exact hmem
  · exact fun hc => hc.anti fun n hn _ => Edges.mem_leaves_of_get? hget hn

/-! ## Search and the compared parts -/

lemma search_branch (p : String) (rest : List UInt8) :
    (branch run size edges).search p (run ++ rest) =
      (edges.searchLiteral p (rest.headD endByte) rest.tail <|> edges.searchWildcard p rest) := by
  have hstrip : Text.stripFront run (run ++ rest) = some rest := Text.stripFront_eq_some_iff.2 rfl
  rw [Node.search, hstrip]

lemma search_branch_eq_none {p : String} {rest : List UInt8} (h : ¬ ∃ below, rest = run ++ below) :
    (branch run size edges).search p rest = none := by
  rw [Node.search]
  cases hstrip : Text.stripFront run rest with
  | none => rfl
  | some below => exact absurd ⟨below, Text.stripFront_eq_some_iff.1 hstrip⟩ h

lemma isSome_orElse {α : Type} (x y : Option α) : (x <|> y).isSome ↔ x.isSome ∨ y.isSome := by
  cases x <;> simp

lemma orElse_eq_some_iff {α : Type} {x y : Option α} {a : α} :
    (x <|> y) = some a ↔ x = some a ∨ (x = none ∧ y = some a) := by
  cases x <;> simp

lemma endMatch?_eq_some {node : Node H} {p : String} {r : Match H} (h : node.endMatch? p = some r) :
    r.mapping ∈ node.leaves ∧ r.mapping.match? p = some r := by
  cases node with
  | leaf m => simp [Node.endMatch?] at h
  | branch run size edges =>
    rw [Node.endMatch?] at h
    split at h
    · next m hget =>
      have hm := (Mapping.match?_eq_some_iff.1 h).1
      exact ⟨Edges.mem_leaves_of_get? hget (by simp [Node.leaves, hm]), hm ▸ h⟩
    · simp at h

/-- What a branch finds, it finds below the edge that the path names behind the run, or else below
the edge for a hole. -/
lemma search_branch_eq_some {run : List UInt8} {size : SizeClass} {edges : Edges H} {p : String}
    {rest : List UInt8} {r : Match H} (h : (branch run size edges).search p rest = some r) :
    ∃ below, rest = run ++ below ∧
      ((∃ c, edges.get? (below.headD endByte) = some c ∧ c.search p below.tail = some r) ∨
      ((∀ c, edges.get? (below.headD endByte) = some c → c.search p below.tail = none) ∧
        ∃ c, edges.get? wildcardByte = some c ∧
          (c.search p (below.dropWhile (· != slashByte)) = some r ∨
            (c.search p (below.dropWhile (· != slashByte)) = none ∧ c.endMatch? p = some r)))) := by
  by_cases hrun : ∃ below, rest = run ++ below
  · obtain ⟨below, rfl⟩ := hrun
    refine ⟨below, rfl, ?_⟩
    rw [search_branch, Edges.searchLiteral_eq, Edges.searchWildcard_eq, orElse_eq_some_iff] at h
    rcases h with h | ⟨hnone, h⟩
    · exact .inl (Option.bind_eq_some_iff.1 h)
    · obtain ⟨c, hget, hc⟩ := Option.bind_eq_some_iff.1 h
      exact .inr ⟨fun c hget => Option.bind_eq_none_iff.1 hnone c hget, c, hget,
        orElse_eq_some_iff.1 hc⟩
  · rw [search_branch_eq_none hrun] at h
    simp at h

/-- What a search finds is the answer of a mapping below the node. -/
theorem search_eq_some {node : Node H} {p : String} {rest : List UInt8} {r : Match H}
    (h : node.search p rest = some r) : r.mapping ∈ node.leaves ∧ r.mapping.match? p = some r := by
  induction node generalizing rest with
  | leaf m =>
    rw [Node.search] at h
    have hm := (Mapping.match?_eq_some_iff.1 h).1
    exact ⟨by simp [Node.leaves, hm], hm ▸ h⟩
  | branch run size edges ih =>
    obtain ⟨below, rfl, ⟨c, hget, hc⟩ | ⟨-, c, hget, hc⟩⟩ := search_branch_eq_some h
    · obtain ⟨hmem, hacc⟩ := ih _ c hget hc
      exact ⟨Edges.mem_leaves_of_get? hget hmem, hacc⟩
    · obtain ⟨hmem, hacc⟩ : r.mapping ∈ c.leaves ∧ r.mapping.match? p = some r := by
        rcases hc with hc | ⟨-, hc⟩
        · exact ih _ c hget hc
        · exact endMatch?_eq_some hc
      exact ⟨Edges.mem_leaves_of_get? hget hmem, hacc⟩

/-- At a leaf nothing else is found than its mapping. -/
lemma eq_of_search_leaf {n : Mapping H} {p : String} {rest : List UInt8} {r : Match H}
    (hr : (leaf n).search p rest = some r) (hm : m ∈ (leaf n).leaves) : m = r.mapping := by
  have hmem := (search_eq_some hr).1
  rw [Node.leaves, List.mem_singleton] at hm hmem
  exact hm.trans hmem.symm

/-- What a search finds below a branch, edge by edge. -/
lemma search_branch_isSome_iff (p : String) (rest : List UInt8) :
    ((branch run size edges).search p (run ++ rest)).isSome ↔
      (∃ child, edges.get? (rest.headD endByte) = some child ∧ (child.search p rest.tail).isSome) ∨
      ∃ child, edges.get? wildcardByte = some child ∧
        ((child.search p (rest.dropWhile (· != slashByte))).isSome ∨
          (child.endMatch? p).isSome) := by
  rw [search_branch, Edges.searchLiteral_eq, Edges.searchWildcard_eq, isSome_orElse]
  refine or_congr ?_ ?_
  · cases edges.get? (rest.headD endByte) <;> simp
  · cases edges.get? wildcardByte <;> simp

/-- The mapping that ends right at a node is found there if it accepts the path. -/
lemma endMatch?_isSome_iff (h : (branch run size edges).Valid path) (p : String) :
    ((branch run size edges).endMatch? p).isSome ↔
      ∃ m ∈ edges.leaves, m.key = path ++ run ++ [endByte] ∧ (m.match? p).isSome := by
  rw [Node.endMatch?]
  constructor
  · intro hs
    split at hs
    · next m hget =>
      obtain ⟨n, hn, hkey⟩ := h.leaf_of_end hget
      obtain rfl := Node.leaf.inj hn
      exact ⟨m, Edges.mem_leaves_of_get? hget (List.mem_singleton_self m), hkey, hs⟩
    · simp at hs
  · rintro ⟨m, hm, hkey, hs⟩
    obtain ⟨child, hget, hmem⟩ := h.get?_of_key hm hkey
    obtain ⟨n, rfl, -⟩ := h.leaf_of_end hget
    rw [Node.leaves, List.mem_singleton] at hmem
    rw [hget, hmem.symm]
    exact hs

/-- What is asked at a branch has a key that ends there. -/
lemma Valid.key_of_endMatch (h : (Node.branch run size edges).Valid path) {p : String} {r : Match H}
    (hr : (Node.branch run size edges).endMatch? p = some r) :
    r.mapping.key = path ++ run ++ [endByte] := by
  rw [Node.endMatch?] at hr
  split at hr
  · next m hget =>
    obtain ⟨n, hn, hkey⟩ := h.leaf_of_end hget
    rw [(Mapping.match?_eq_some_iff.1 hr).1, Node.leaf.inj hn, hkey]
  · simp at hr

/-- The child for a hole accepts a path without following it, if the only thing left of a key is
text that all keys below the child share. -/
lemma search_or_endMatch?_of_shared {run' : List UInt8} {c : Node H} (hc : c.Valid path)
    (hm : m ∈ c.leaves) (hkey : m.key = path ++ (run' ++ [endByte])) (hw : wildcardByte ∉ run')
    (hall : ∀ n ∈ c.leaves, path ++ run' <+: n.key) {p : String} (hs : (m.match? p).isSome)
    (rest : List UInt8) : (c.search p rest).isSome ∨ (c.endMatch? p).isSome := by
  cases c with
  | leaf n =>
    rw [Node.leaves, List.mem_singleton] at hm
    subst hm
    rw [Node.search]
    exact .inl hs
  | branch run size edges =>
    right
    refine (endMatch?_isSome_iff hc p).2 ⟨m, hm, ?_, hs⟩
    obtain ⟨k, -, below, -, -, hbelow⟩ := hc.exists_child hm
    rw [hkey, List.append_assoc, List.append_cancel_left_eq] at hbelow
    -- the run is the whole text: it cannot be shorter, as all keys go on alike
    rcases List.append_eq_append_iff.1 hbelow with ⟨more, hrun, -⟩ | ⟨more, hrun', hmore⟩
    · cases more with
      | nil =>
        rw [List.append_nil] at hrun
        rw [hkey, hrun, List.append_assoc]
      | cons b more =>
        simp only [hrun, List.append_assoc, List.append_cancel_left_eq, List.cons_append,
          List.cons.injEq] at hbelow
        exact absurd (by simp [hrun, ← hbelow.1]) hc.shape.noEnd
    · cases more with
      | nil =>
        rw [List.append_nil] at hrun'
        rw [hkey, hrun', List.append_assoc]
      | cons b more =>
        have hb := hc.eq_wildcard_of_forall b fun n hn => by
          obtain ⟨t, ht⟩ := hall n hn
          exact ⟨more ++ t, by rw [← ht, hrun']; simp⟩
        exact absurd (by simp [hrun', hb]) hw

/-- The compared part of a key ends within the run of a branch only if the run is all of it, and a
hole follows. -/
lemma Valid.eq_run_of_compared (h : (Node.branch run size edges).Valid path) (hm : m ∈ edges.leaves)
    {front : List UInt8} (hrun : front <+: run) (hc : Compared edges.leaves m.key (path ++ front)) :
    front = run ∧ ∃ run', m.key = path ++ run ++ wildcardByte :: (run' ++ [endByte]) ∧
      wildcardByte ∉ run' ∧ ∀ n ∈ edges.leaves, path ++ run ++ [wildcardByte] <+: n.key →
        path ++ run ++ wildcardByte :: run' <+: n.key := by
  obtain ⟨more, rfl⟩ := hrun
  obtain ⟨key, -, below, -, -, hkey⟩ := h.exists_child hm
  cases hc with
  | alone key_eq noWildcard only =>
    -- all keys below the branch would be one, and go on with a hole
    have hwild := h.eq_wildcard_of_forall key fun n hn => by
      obtain ⟨k, -, r, -, -, hr⟩ := h.exists_child hn
      have hsame := only n hn ⟨more ++ k :: r, by rw [hr]; simp⟩
      exact ⟨below, hsame.trans hkey⟩
    simp only [hkey, List.append_assoc, List.append_cancel_left_eq] at key_eq
    exact absurd (by simp [← key_eq, hwild]) noWildcard
  | @shared run' key_eq noWildcard all =>
    cases more with
    | nil =>
      rw [List.append_nil]
      exact ⟨rfl, run', key_eq, noWildcard, all⟩
    | cons b more =>
      simp only [hkey, List.append_assoc, List.append_cancel_left_eq, List.cons_append,
        List.cons.injEq] at key_eq
      exact absurd (by simp [key_eq.1]) h.shape.noWildcard

/-- What is asked right under a hole is compared up to the hole, and the text behind it up to the
end is shared by all keys with the hole. -/
lemma Valid.compared_of_endMatch (h : (Node.branch run size edges).Valid path) {c : Node H}
    (hget : edges.get? wildcardByte = some c) {p : String} {r : Match H}
    (hr : c.endMatch? p = some r) : Compared edges.leaves r.mapping.key (path ++ run) := by
  cases c with
  | leaf n => simp [Node.endMatch?] at hr
  | branch run' size' edges' =>
    have hbelow := h.child hget
    have hkey : r.mapping.key = path ++ run ++ wildcardByte :: (run' ++ [endByte]) := by
      rw [hbelow.key_of_endMatch hr]
      simp
    refine .shared hkey hbelow.shape.noWildcard ?_
    rintro n hn ⟨t, ht⟩
    have hn' : n.key = path ++ run ++ wildcardByte :: t := by
      rw [← ht]
      simp
    obtain ⟨c', hget', hn'⟩ := h.get?_of_key hn hn'
    obtain rfl : Node.branch run' size' edges' = c' := by simpa [hget] using hget'
    obtain ⟨k, -, below, -, -, hk⟩ := hbelow.exists_child hn'
    exact ⟨k :: below, by rw [hk]; simp⟩

/-- The path goes along what is compared of the key that a search finds. -/
theorem compared_of_search (h : node.Valid path) {p : String} {rest : List UInt8} {r : Match H}
    (hr : node.search p rest = some r) :
    ∃ front, Compared node.leaves r.mapping.key (path ++ front) ∧ Goes front rest := by
  induction h generalizing rest with
  | @leaf path below m ended key_eq noWildcard =>
    have hmem := (search_eq_some hr).1
    rw [Node.leaves, List.mem_singleton] at hmem
    refine ⟨[], ?_, .nil⟩
    rw [List.append_nil, hmem, Node.leaves]
    exact .alone key_eq noWildcard fun n hn _ => by rw [List.mem_singleton.1 hn]
  | @branch path run size edges shape children ih =>
    have hv := Valid.branch shape children
    rw [Node.leaves]
    obtain ⟨rest, rfl, hfound⟩ := search_branch_eq_some hr
    have hgoes : ∀ {front}, Goes front rest → Goes (run ++ front) (run ++ rest) := fun hf =>
      (goes_run_append shape.noWildcard shape.noEnd).2 ⟨rest, rfl, hf⟩
    rcases hfound with ⟨c, hget, hc⟩ | ⟨-, c, hget, hc | ⟨-, hc⟩⟩
    · obtain ⟨front, hcomp, hf⟩ := ih _ c hget hc
      exact ⟨_, (hv.compared_child_iff hget).1 hcomp, hgoes (.byte rfl hf)⟩
    · obtain ⟨front, hcomp, hf⟩ := ih _ c hget hc
      exact ⟨_, (hv.compared_child_iff hget).1 hcomp, hgoes (.segment hf)⟩
    · have hf : Goes run (run ++ rest) := by simpa using hgoes Goes.nil
      exact ⟨run, hv.compared_of_endMatch hget hc, hf⟩

/-- A mapping whose key is compared no further than the run of a branch is asked if the path goes
along the run. -/
lemma Valid.search_of_short (h : (Node.branch run size edges).Valid path) (hm : m ∈ edges.leaves)
    {front : List UInt8} (hshort : front <+: run)
    (hcomp : Compared edges.leaves m.key (path ++ front)) {p : String} (hacc : (m.match? p).isSome)
    {rest : List UInt8} (hgoes : Goes front rest) :
    ((Node.branch run size edges).search p rest).isSome := by
  obtain ⟨rfl, run', hkey, hw, hall⟩ := h.eq_run_of_compared hm hshort hcomp
  rw [← List.append_nil front] at hgoes
  obtain ⟨rest, rfl, -⟩ := (goes_run_append h.shape.noWildcard h.shape.noEnd).1 hgoes
  obtain ⟨c, hget, hmc⟩ := h.get?_of_key hm hkey
  have hbelow : ∀ n ∈ c.leaves, path ++ front ++ [wildcardByte] ++ run' <+: n.key := by
    intro n hn
    obtain ⟨-, t, ht⟩ := (h.child hget).key_eq hn
    simpa using hall n (Edges.mem_leaves_of_get? hget hn) ⟨t, ht.symm⟩
  have hkey' : m.key = path ++ front ++ [wildcardByte] ++ (run' ++ [endByte]) := by
    rw [hkey]
    simp
  rw [search_branch_isSome_iff]
  exact .inr ⟨c, hget, search_or_endMatch?_of_shared (h.child hget) hmc hkey' hw hbelow hacc _⟩

/-- A mapping that accepts the path is asked if the path goes along what is compared of its key. -/
theorem search_of_compared (h : node.Valid path) (hm : m ∈ node.leaves) {front : List UInt8}
    (hcomp : Compared node.leaves m.key (path ++ front)) {p : String} (hacc : (m.match? p).isSome)
    {rest : List UInt8} (hgoes : Goes front rest) : (node.search p rest).isSome := by
  induction h generalizing front rest with
  | leaf =>
    rw [Node.leaves, List.mem_singleton] at hm
    rw [Node.search, ← hm]
    exact hacc
  | @branch path run size edges shape children ih =>
    have hv := Valid.branch shape children
    obtain ⟨key, c, below, hget, hmc, hkey⟩ := hv.exists_child hm
    have hfront := hcomp.starts
    rw [hkey, List.append_assoc, List.prefix_append_right_inj] at hfront
    by_cases hlong : run ++ [key] <+: front
    · -- the path gets past the edge, on which the mapping stands
      obtain ⟨front, rfl⟩ := hlong
      rw [List.append_assoc, List.singleton_append] at hcomp hgoes
      obtain ⟨rest, rfl, hstep⟩ := (goes_run_append shape.noWildcard shape.noEnd).1 hgoes
      have hc := (hv.compared_child_iff hget).2 hcomp
      rw [search_branch_isSome_iff]
      cases hstep with
      | byte head tail => exact .inl ⟨c, head ▸ hget, ih key c hget hmc hc tail⟩
      | segment tail => exact .inr ⟨c, hget, .inl (ih _ c hget hmc hc tail)⟩
    · -- the compared part ends within the run, and the mapping is asked right under its hole
      have hshort : front <+: run := by
        obtain ⟨more, hmore⟩ := hfront
        rcases List.append_eq_append_iff.1 hmore with ⟨r, hr, -⟩ | ⟨r, hr, hr'⟩
        · exact ⟨r, hr.symm⟩
        · cases r with
          | nil => exact ⟨[], by simp [hr]⟩
          | cons b r =>
            rw [List.cons_append, List.cons.injEq] at hr'
            exact absurd ⟨r, by rw [hr, hr'.1]; simp⟩ hlong
      exact hv.search_of_short hm hshort hcomp hacc hgoes

/-- Below a valid node a search finds something exactly if some mapping accepts the path and the
path goes along what is compared of its key. -/
theorem search_isSome_iff (h : node.Valid path) (p : String) (rest : List UInt8) :
    (node.search p rest).isSome ↔ ∃ m ∈ node.leaves, (m.match? p).isSome ∧
      ∃ front, Compared node.leaves m.key (path ++ front) ∧ Goes front rest := by
  constructor
  · intro hs
    obtain ⟨r, hr⟩ := Option.isSome_iff_exists.1 hs
    obtain ⟨hmem, hmatch⟩ := search_eq_some hr
    exact ⟨r.mapping, hmem, by rw [hmatch]; rfl, compared_of_search h hr⟩
  · rintro ⟨m, hm, hacc, front, hcomp, hgoes⟩
    exact search_of_compared h hm hcomp hacc hgoes

end Node

end UriRouting
