import UriRouting.Proofs.Trie.Lookup

/-!
# The order of insertion

Routes with different keys may be inserted in any order.  Two facts carry this.

* **The stored mappings decide the nodes.**  Different orders split the nodes in different places
  and leave the edges in different orders and size classes, but two valid nodes above the same
  mappings have the same runs and the same edges (`Node.Valid.alike`), and the search sees no more
  of them (`Node.Alike.search_eq`).
* **The keys decide whether there is room.**  An insertion is refused exactly if more than 80
  different bytes follow the same text in the keys, and this is no matter of their order
  (`RouteTrie.admits_iff`).
-/

namespace UriRouting

variable {H : Type}

/-! ## Nodes that are searched alike -/

/-- Two nodes with the same runs and, below every key, children that are alike again. -/
inductive Node.Alike : Node H → Node H → Prop
  | leaf (m : Mapping H) : Alike (.leaf m) (.leaf m)
  | branch {run : List UInt8} {size size' : SizeClass} {edges edges' : Edges H}
      (keys : ∀ key, edges.get? key = none ↔ edges'.get? key = none)
      (children : ∀ key c c', edges.get? key = some c → edges'.get? key = some c' → Alike c c') :
      Alike (.branch run size edges) (.branch run size' edges')

namespace Node

variable {node node' : Node H} {path run run' : List UInt8} {size size' : SizeClass}
  {edges edges' : Edges H} {m : Mapping H}

/-- What is done with the child below a key is the same on both sides if it is so for every two
children. -/
lemma bind_get?_congr {α : Type} {f : Node H → Option α} {key : UInt8}
    (keys : edges.get? key = none ↔ edges'.get? key = none)
    (h : ∀ c c', edges.get? key = some c → edges'.get? key = some c' → f c = f c') :
    (edges.get? key).bind f = (edges'.get? key).bind f := by
  cases hget : edges.get? key with
  | none => rw [keys.1 hget]
  | some c =>
    cases hget' : edges'.get? key with
    | none => simp [keys.2 hget'] at hget
    | some c' => exact h c c' hget hget'

lemma Alike.endMatch?_eq (h : node.Alike node') (p : String) :
    node.endMatch? p = node'.endMatch? p := by
  cases h with
  | leaf m => rfl
  | branch keys children =>
    simp only [Node.endMatch?]
    cases hget : Edges.get? endByte _ with
    | none => rw [(keys endByte).1 hget]
    | some c =>
      cases hget' : Edges.get? endByte _ with
      | none => simp [(keys endByte).2 hget'] at hget
      | some c' =>
        cases children endByte c c' hget hget' with
        | leaf m => rfl
        | branch _ _ => rfl

theorem Alike.search_eq (h : node.Alike node') (p : String) (rest : List UInt8) :
    node.search p rest = node'.search p rest := by
  induction h generalizing rest with
  | leaf m => rfl
  | @branch run size size' edges edges' keys children ih =>
    by_cases hrun : ∃ below, rest = run ++ below
    · obtain ⟨rest, rfl⟩ := hrun
      simp only [search_branch, Edges.searchLiteral_eq, Edges.searchWildcard_eq]
      have hliteral := bind_get?_congr (keys (rest.headD endByte)) fun c c' hc hc' =>
        ih _ c c' hc hc' rest.tail
      have hwildcard : ((edges.get? wildcardByte).bind fun child =>
            (child.search p (rest.dropWhile (· != slashByte))) <|> child.endMatch? p) =
          (edges'.get? wildcardByte).bind fun child =>
            (child.search p (rest.dropWhile (· != slashByte))) <|> child.endMatch? p :=
        bind_get?_congr (keys wildcardByte) fun c c' hc hc' => by
          rw [ih _ c c' hc hc', (children _ c c' hc hc').endMatch?_eq p]
      rw [hliteral, hwildcard]
    · rw [search_branch_eq_none hrun, search_branch_eq_none hrun]

/-! ## The stored mappings decide the nodes -/

/-- The run of a branch is as long as the keys below it go on alike, up to a hole. -/
lemma Valid.run_extends (h : (Node.branch run size edges).Valid path)
    (h' : (Node.branch run' size' edges').Valid path)
    (hleaves : ∀ m, m ∈ edges.leaves → m ∈ edges'.leaves) : run' <+: run := by
  obtain ⟨m, hm⟩ := h.exists_leaf
  obtain ⟨k, -, below, -, -, hk⟩ := h.exists_child hm
  obtain ⟨k', -, below', -, -, hk'⟩ := h'.exists_child (hleaves m hm)
  rw [hk, List.append_assoc, List.append_assoc, List.append_cancel_left_eq] at hk'
  rcases List.append_eq_append_iff.1 hk' with ⟨more, hrun', -⟩ | ⟨more, hrun, -⟩
  · cases more with
    | nil => exact ⟨[], by simp [hrun']⟩
    | cons b more =>
      -- all keys below the shorter run go on with the next byte of the longer one
      have hb := h.eq_wildcard_of_forall b fun n hn => by
        obtain ⟨j, -, rest, -, -, hj⟩ := h'.exists_child (hleaves n hn)
        exact ⟨more ++ j :: rest, by rw [hj, hrun']; simp⟩
      exact absurd (by simp [hrun', hb]) h'.shape.noWildcard
  · exact ⟨more, hrun.symm⟩

/-- Where a leaf can stand with a mapping, no branch can stand with it alone. -/
lemma Valid.leaf_ne_branch (h : (Node.leaf m).Valid path)
    (h' : (Node.branch run size edges).Valid path) :
    ∃ n ∈ edges.leaves, n ≠ m := by
  by_contra hall
  push Not at hall
  obtain ⟨n, hn⟩ := h'.exists_leaf
  obtain rfl := hall n hn
  obtain ⟨k, -, below, -, -, hk⟩ := h'.exists_child hn
  have hwild := h'.eq_wildcard_of_forall k fun n' hn' => ⟨below, by rw [hall n' hn', hk]⟩
  cases h with
  | leaf ended key_eq noWildcard =>
    rw [hk, List.append_assoc, List.append_cancel_left_eq] at key_eq
    exact noWildcard (by simp [← key_eq, hwild])

/-- A mapping below an edge stands below the edge with the same key wherever else it is stored. -/
lemma Valid.exists_child_of_mem (h : (Node.branch run size edges).Valid path)
    (h' : (Node.branch run size' edges').Valid path)
    (hleaves : ∀ m, m ∈ edges.leaves → m ∈ edges'.leaves) {key : UInt8} {c : Node H}
    (hget : edges.get? key = some c) (hm : m ∈ c.leaves) :
    ∃ c', edges'.get? key = some c' ∧ m ∈ c'.leaves := by
  obtain ⟨-, rest, hrest⟩ := (h.child hget).key_eq hm
  rw [List.append_assoc, List.singleton_append] at hrest
  exact h'.get?_of_key (hleaves m (Edges.mem_leaves_of_get? hget hm)) hrest

/-- Two valid nodes at the same place above the same mappings are alike. -/
theorem Valid.alike (h : node.Valid path) (h' : node'.Valid path)
    (hleaves : ∀ m, m ∈ node.leaves ↔ m ∈ node'.leaves) : node.Alike node' := by
  induction h generalizing node' with
  | @leaf path rest m ended key_eq noWildcard =>
    cases node' with
    | leaf n =>
      obtain rfl : m = n := by simpa [Node.leaves] using hleaves m
      exact .leaf m
    | branch run size edges =>
      obtain ⟨n, hn, hne⟩ := (Valid.leaf ended key_eq noWildcard).leaf_ne_branch h'
      exact absurd (List.mem_singleton.1 ((hleaves n).2 hn)) hne
  | @branch path run size edges shape children ih =>
    have hv := Valid.branch shape children
    cases node' with
    | leaf m =>
      obtain ⟨n, hn, hne⟩ := h'.leaf_ne_branch hv
      exact absurd (List.mem_singleton.1 ((hleaves n).1 hn)) hne
    | branch run' size' edges' =>
      have hsub : ∀ m, m ∈ edges.leaves → m ∈ edges'.leaves := fun m => (hleaves m).1
      have hsub' : ∀ m, m ∈ edges'.leaves → m ∈ edges.leaves := fun m => (hleaves m).2
      obtain rfl : run = run' :=
        (h'.run_extends hv hsub').eq_of_length_le (hv.run_extends h' hsub).length_le
      refine .branch (fun key => ?_) fun key c c' hc hc' => ?_
      · rw [← not_iff_not, ← ne_eq, ← ne_eq, Option.ne_none_iff_exists', Option.ne_none_iff_exists']
        constructor
        · rintro ⟨c, hc⟩
          obtain ⟨m, hm⟩ := (hv.child hc).exists_leaf
          obtain ⟨c', hc', -⟩ := hv.exists_child_of_mem h' hsub hc hm
          exact ⟨c', hc'⟩
        · rintro ⟨c', hc'⟩
          obtain ⟨m, hm⟩ := (h'.child hc').exists_leaf
          obtain ⟨c, hc, -⟩ := h'.exists_child_of_mem hv hsub' hc' hm
          exact ⟨c, hc⟩
      · refine ih key c hc (h'.child hc') fun m => ⟨fun hm => ?_, fun hm => ?_⟩
        · obtain ⟨d, hd, hmem⟩ := hv.exists_child_of_mem h' hsub hc hm
          obtain rfl : c' = d := by simpa [hc'] using hd
          exact hmem
        · obtain ⟨d, hd, hmem⟩ := h'.exists_child_of_mem hv hsub' hc' hm
          obtain rfl : c = d := by simpa [hc] using hd
          exact hmem

end Node

namespace RouteTrie

/-- Valid tries with the same mappings answer every lookup alike. -/
theorem Valid.lookup_eq {t t' : RouteTrie H} (h : t.Valid) (h' : t'.Valid)
    (hleaves : ∀ m, m ∈ t.leaves ↔ m ∈ t'.leaves) (path : String) :
    t.lookup path = t'.lookup path := by
  cases hroot : t.root with
  | none =>
    cases hroot' : t'.root with
    | none => simp [lookup, hroot, hroot']
    | some root' =>
      obtain ⟨m, hm⟩ := (h'.nodes root' hroot').exists_leaf
      have hmem := (hleaves m).2 (by simpa [leaves, hroot'] using hm)
      simp [leaves, hroot] at hmem
  | some root =>
    cases hroot' : t'.root with
    | none =>
      obtain ⟨m, hm⟩ := (h.nodes root hroot).exists_leaf
      have hmem := (hleaves m).1 (by simpa [leaves, hroot] using hm)
      simp [leaves, hroot'] at hmem
    | some root' =>
      simp only [leaves, hroot, hroot'] at hleaves
      have halike := (h.nodes root hroot).alike (h'.nodes root' hroot') hleaves
      simp [lookup, hroot, hroot', halike.search_eq]

/-! ## Whether there is room -/

/-- No text is followed by more different bytes in the keys than a branch can have edges. -/
def Roomy (ms : List (Mapping H)) : Prop :=
  ∀ front bytes : List UInt8, bytes.Nodup → (∀ b ∈ bytes, Follows ms front b) → bytes.length ≤ 80

/-- None of the insertions is refused. -/
def Admits (t : RouteTrie H) : List (Mapping H) → Prop
  | [] => True
  | m :: ms => (t.insert m).isFull = false ∧ (t.after m).Admits ms

lemma follows_mono {ms ns : List (Mapping H)} (h : ∀ m ∈ ms, ∃ n ∈ ns, n.key = m.key)
    {front : List UInt8} {b : UInt8} (hf : Follows ms front b) : Follows ns front b := by
  obtain ⟨m, hm, rest, hrest⟩ := hf
  obtain ⟨n, hn, hkey⟩ := h m hm
  exact ⟨n, hn, rest, hkey.trans hrest⟩

/-- Only the keys of the mappings matter, and neither their order nor how often they occur. -/
lemma Roomy.anti {ms ns : List (Mapping H)} (hr : Roomy ns)
    (h : ∀ m ∈ ms, ∃ n ∈ ns, n.key = m.key) :
    Roomy ms :=
  fun front bytes hnodup hf => hr front bytes hnodup fun b hb => follows_mono h (hf b hb)

lemma Roomy.of_subset {ms ns : List (Mapping H)} (hr : Roomy ns) (h : ms ⊆ ns) : Roomy ms :=
  hr.anti fun m hm => ⟨m, h hm, rfl⟩

lemma Valid.roomy {t : RouteTrie H} (h : t.Valid) : Roomy t.leaves := by
  intro front bytes hnodup hf
  cases hroot : t.root with
  | none =>
    cases bytes with
    | nil => simp
    | cons b bytes =>
      obtain ⟨m, hm, -⟩ := hf b List.mem_cons_self
      simp [leaves, hroot] at hm
  | some root =>
    simp only [leaves, hroot] at hf
    exact (h.nodes root hroot).followers_le hnodup hf

/-- Insertions into a valid trie are refused only for the keys that there are in the end. -/
theorem admits_iff {t : RouteTrie H} (h : t.Valid) {ms : List (Mapping H)}
    (hms : ∀ m ∈ ms, Ended m.key) : t.Admits ms ↔ Roomy (ms ++ t.leaves) := by
  induction ms generalizing t with
  | nil => exact iff_of_true trivial h.roomy
  | cons m ms ih =>
    have htail : ∀ n ∈ ms, Ended n.key := fun n hn => hms n (List.mem_cons_of_mem m hn)
    have hspec := insert_spec h (hms m List.mem_cons_self)
    cases hins : t.insert m with
    | added t' =>
      rw [hins] at hspec
      cases hspec with
      | added valid perm fresh =>
        rw [Admits, hins, after_of_added hins, ih valid htail]
        have hperm : (m :: ms ++ t.leaves).Perm (ms ++ t'.leaves) :=
          List.perm_middle.symm.trans (perm.symm.append_left ms)
        simp only [Insertion.isFull, true_and]
        exact ⟨fun hr => hr.of_subset hperm.subset, fun hr => hr.of_subset hperm.symm.subset⟩
    | present =>
      rw [hins] at hspec
      cases hspec with
      | @present n mem key_eq =>
        rw [Admits, hins, after_of_not_added (by simp [hins]), ih h htail]
        simp only [Insertion.isFull, true_and]
        refine ⟨fun hr => hr.anti fun k hk => ?_, fun hr =>
          hr.of_subset (List.subset_cons_self _ _)⟩
        rcases List.mem_cons.1 hk with rfl | hk
        · exact ⟨n, List.mem_append_right ms mem, key_eq⟩
        · exact ⟨k, hk, rfl⟩
    | full run =>
      rw [hins] at hspec
      cases hspec with
      | @full _ front rest key crowded key_eq fresh =>
        rw [Admits, hins]
        simp only [Insertion.isFull, Bool.true_eq_false, false_and, false_iff]
        intro hr
        obtain ⟨bytes, hnodup, hlen, hiff⟩ := crowded
        have hnew : key ∉ bytes := fun hmem => fresh ((hiff key).1 hmem)
        have hle := hr front (key :: bytes) (List.nodup_cons.2 ⟨hnew, hnodup⟩) fun b hb => by
          rcases List.mem_cons.1 hb with rfl | hb
          · exact ⟨m, List.mem_cons_self, rest, key_eq⟩
          · refine follows_mono (fun n hn => ⟨n, ?_, rfl⟩) ((hiff b).1 hb)
            exact List.mem_append_right _ hn
        rw [List.length_cons, hlen] at hle
        omega

/-! ## Routes with different keys -/

/-- Where no insertion is refused and no key occurs twice, every mapping is stored. -/
lemma leaves_insertAll_of_admits {t : RouteTrie H} (h : t.Valid) {ms : List (Mapping H)}
    (hms : ∀ m ∈ ms, Ended m.key) (ha : t.Admits ms)
    (hd : ((ms ++ t.leaves).map Mapping.key).Nodup) :
    (t.insertAll ms).leaves.Perm (ms ++ t.leaves) := by
  induction ms generalizing t with
  | nil => exact List.Perm.refl _
  | cons m ms ih =>
    have htail : ∀ n ∈ ms, Ended n.key := fun n hn => hms n (List.mem_cons_of_mem m hn)
    have hspec := insert_spec h (hms m List.mem_cons_self)
    obtain ⟨hroom, ha⟩ := ha
    rw [insertAll_cons]
    cases hins : t.insert m with
    | added t' =>
      rw [hins] at hspec
      cases hspec with
      | added valid perm fresh =>
        rw [after_of_added hins] at ha ⊢
        have hperm : (ms ++ t'.leaves).Perm (m :: ms ++ t.leaves) :=
          (perm.append_left ms).trans List.perm_middle
        exact (ih valid htail ha (((hperm.map Mapping.key).nodup_iff).2 hd)).trans hperm
    | present =>
      rw [hins] at hspec
      cases hspec with
      | @present n mem key_eq =>
        rw [List.cons_append, List.map_cons, List.nodup_cons] at hd
        refine absurd (List.mem_map.2 ⟨n, List.mem_append_right ms mem, key_eq⟩) hd.1
    | full run => simp [hins, Insertion.isFull] at hroom

section

variable {ms ns : List (Mapping H)}

/-- Whether a history is refused anything does not depend on its order. -/
theorem admits_perm (hms : ∀ m ∈ ms, Ended m.key) (hp : ms.Perm ns) :
    (empty : RouteTrie H).Admits ms ↔ empty.Admits ns := by
  have hns : ∀ n ∈ ns, Ended n.key := fun n hn => hms n (hp.mem_iff.2 hn)
  have hnil : (empty : RouteTrie H).leaves = [] := rfl
  rw [admits_iff valid_empty hms, admits_iff valid_empty hns, hnil, List.append_nil,
    List.append_nil]
  exact ⟨fun hr => hr.of_subset hp.symm.subset, fun hr => hr.of_subset hp.subset⟩

lemma leaves_ofHistory_of_admits (hms : ∀ m ∈ ms, Ended m.key) (ha : empty.Admits ms)
    (hd : (ms.map Mapping.key).Nodup) : (ofHistory ms).leaves.Perm ms := by
  have hnil : (empty : RouteTrie H).leaves = [] := rfl
  have hperm := leaves_insertAll_of_admits valid_empty hms ha (by rwa [hnil, List.append_nil])
  rwa [hnil, List.append_nil] at hperm

/-- A history without repeated keys that is refused nothing may be put in any order: no lookup and
no count tells the difference. -/
theorem ofHistory_perm (hms : ∀ m ∈ ms, Ended m.key) (hp : ms.Perm ns) (ha : empty.Admits ms)
    (hd : (ms.map Mapping.key).Nodup) :
    (∀ path, (ofHistory ms).lookup path = (ofHistory ns).lookup path) ∧
      (ofHistory ms).size = (ofHistory ns).size := by
  have hns : ∀ n ∈ ns, Ended n.key := fun n hn => hms n (hp.mem_iff.2 hn)
  have hvalid := valid_insertAll valid_empty hms
  have hvalid' := valid_insertAll valid_empty hns
  have hleaves := leaves_ofHistory_of_admits hms ha hd
  have hleaves' := leaves_ofHistory_of_admits hns ((admits_perm hms hp).1 ha)
    (((hp.map Mapping.key).nodup_iff).1 hd)
  have hsame := hleaves.trans (hp.trans hleaves'.symm)
  refine ⟨fun path => hvalid.lookup_eq hvalid' (fun m => hsame.mem_iff) path, ?_⟩
  rw [hvalid.size_eq, hvalid'.size_eq, hsame.length_eq]

end

end RouteTrie

end UriRouting
