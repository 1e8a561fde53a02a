import UriRouting.Proofs.Trie.Insertion

/-!
# Tries and their histories

A trie comes about by insertions, some of which may find their key taken or be refused for want of
room.  `RouteTrie.insertAll` is the trie after a history of insertions and `RouteTrie.stored` the
mappings that the history has added, in their order.

`RouteTrie.Valid` is the invariant of a whole trie.  `RouteTrie.insert_spec` says what one insertion
does to it, and `RouteTrie.valid_insertAll` and `RouteTrie.leaves_insertAll` carry this over to a
history: every trie that can come about is valid, and below its root stand exactly the mappings that
have been stored.
-/

namespace UriRouting

variable {H : Type}

/-- Whether an insertion was refused for want of room. -/
def Insertion.isFull {α : Type} : Insertion α → Bool
  | .full _ => true
  | _ => false

namespace RouteTrie

/-! ## Histories -/

/-- The trie after an insertion, which leaves it as it is unless the mapping is added. -/
def after (t : RouteTrie H) (m : Mapping H) : RouteTrie H :=
  match t.insert m with
  | .added t => t
  | _ => t

/-- The trie after some insertions, one after another. -/
def insertAll (t : RouteTrie H) (ms : List (Mapping H)) : RouteTrie H := ms.foldl after t

/-- The mappings that some insertions add, in their order. -/
def stored (t : RouteTrie H) : List (Mapping H) → List (Mapping H)
  | [] => []
  | m :: ms =>
    match t.insert m with
    | .added t => m :: t.stored ms
    | _ => t.stored ms

lemma insertAll_cons (t : RouteTrie H) (m : Mapping H) (ms : List (Mapping H)) :
    t.insertAll (m :: ms) = (t.after m).insertAll ms := rfl

lemma insertAll_append (t : RouteTrie H) (ms ns : List (Mapping H)) :
    t.insertAll (ms ++ ns) = (t.insertAll ms).insertAll ns :=
  List.foldl_append

lemma after_of_added {t t' : RouteTrie H} {m : Mapping H} (h : t.insert m = .added t') :
    t.after m = t' := by
  rw [after, h]

/-- A mapping that is added is counted. -/
lemma size_of_added {t t' : RouteTrie H} {m : Mapping H} (h : t.insert m = .added t') :
    t'.size = t.size + 1 := by
  unfold insert at h
  split at h
  · obtain rfl := Insertion.added.inj h
    rfl
  · next root _ =>
    cases hroot : root.insert m 0 m.template.key with
    | added node =>
      rw [hroot, Insertion.map, Insertion.added.injEq] at h
      rw [← h]
    | present => simp [hroot, Insertion.map] at h
    | full run => simp [hroot, Insertion.map] at h

lemma after_of_not_added {t : RouteTrie H} {m : Mapping H} (h : ∀ t', t.insert m ≠ .added t') :
    t.after m = t := by
  unfold after
  split
  · next t' ht => exact absurd ht (h t')
  · rfl

lemma stored_cons_of_added {t t' : RouteTrie H} {m : Mapping H} (h : t.insert m = .added t')
    (ms : List (Mapping H)) : t.stored (m :: ms) = m :: t'.stored ms := by
  rw [stored, h]

lemma stored_cons_of_not_added {t : RouteTrie H} {m : Mapping H}
    (h : ∀ t', t.insert m ≠ .added t') (ms : List (Mapping H)) :
    t.stored (m :: ms) = t.stored ms := by
  rw [stored]
  split
  · next t' ht => exact absurd ht (h t')
  · rfl

/-- What is stored was inserted. -/
lemma mem_of_mem_stored {t : RouteTrie H} {ms : List (Mapping H)} {m : Mapping H}
    (h : m ∈ t.stored ms) : m ∈ ms := by
  induction ms generalizing t with
  | nil => simp [stored] at h
  | cons n ms ih =>
    by_cases hadd : ∃ t', t.insert n = .added t'
    · obtain ⟨t', ht⟩ := hadd
      rw [stored_cons_of_added ht, List.mem_cons] at h
      rcases h with rfl | h
      · exact List.mem_cons_self
      · exact List.mem_cons_of_mem n (ih h)
    · rw [stored_cons_of_not_added fun t' ht => hadd ⟨t', ht⟩] at h
      exact List.mem_cons_of_mem n (ih h)

/-! ## The invariant of a trie -/

/-- A trie whose nodes are valid, that keeps every key once, and that knows how many there are. -/
structure Valid (t : RouteTrie H) : Prop where
  nodes : ∀ root, t.root = some root → root.Valid []
  distinct : (t.leaves.map Mapping.key).Nodup
  size_eq : t.size = t.leaves.length

lemma valid_empty : (empty : RouteTrie H).Valid :=
  ⟨by simp [empty], by simp [empty, leaves], by simp [empty, leaves]⟩

/-- What may come of inserting a mapping into a trie. -/
inductive Inserted (m : Mapping H) (t : RouteTrie H) : Insertion (RouteTrie H) → Prop
  | added {t' : RouteTrie H} (valid : t'.Valid) (leaves : t'.leaves.Perm (m :: t.leaves))
      (fresh : ∀ n ∈ t.leaves, n.key ≠ m.key) : Inserted m t (.added t')
  | present {n : Mapping H} (mem : n ∈ t.leaves) (key_eq : n.key = m.key) : Inserted m t .present
  | full {run front rest : List UInt8} {key : UInt8} (crowded : Crowded t.leaves front)
      (key_eq : m.key = front ++ key :: rest) (fresh : ¬ Follows t.leaves front key) :
      Inserted m t (.full run)

/-- One more mapping leaves every key once if its own was not there. -/
lemma distinct_of_perm {ms ns : List (Mapping H)} {m : Mapping H} (hp : ns.Perm (m :: ms))
    (hd : (ms.map Mapping.key).Nodup) (hf : ∀ n ∈ ms, n.key ≠ m.key) :
    (ns.map Mapping.key).Nodup := by
  rw [(hp.map Mapping.key).nodup_iff, List.map_cons, List.nodup_cons]
  refine ⟨fun hmem => ?_, hd⟩
  obtain ⟨n, hn, hnk⟩ := List.mem_map.1 hmem
  exact hf n hn hnk

/-- An insertion into a valid trie gives a valid one with one mapping more, finds the key there, or
finds no room for it. -/
theorem insert_spec {t : RouteTrie H} (h : t.Valid) {m : Mapping H} (hm : Ended m.key) :
    Inserted m t (t.insert m) := by
  cases hroot : t.root with
  | none =>
    have hleaves : t.leaves = [] := by simp [leaves, hroot]
    have hzero : t.size = 0 := by rw [h.size_eq, hleaves, List.length_nil]
    simp only [insert, hroot]
    refine .added ⟨?_, ?_, ?_⟩ ?_ ?_
    · rintro root hr
      obtain rfl := Option.some.inj hr
      exact Node.valid_chain hm rfl
    · simp [leaves]
    · simp [leaves, hzero]
    · simp [leaves, hroot]
    · simp [hleaves]
  | some root =>
    have hleaves : t.leaves = root.leaves := by simp [leaves, hroot]
    have hspec := Node.insert_spec (h.nodes root hroot) hm (List.nil_append m.key).symm
    simp only [insert, hroot]
    generalize root.insert m 0 m.template.key = result at hspec
    cases hspec with
    | @added node valid perm fresh =>
      rw [← hleaves] at perm fresh
      refine .added ⟨?_, distinct_of_perm perm h.distinct fresh, ?_⟩ perm fresh
      · rintro root' hr
        obtain rfl := Option.some.inj hr
        exact valid
      · simp only [leaves]
        rw [perm.length_eq, List.length_cons, ← h.size_eq]
    | present mem key_eq => exact .present (hleaves ▸ mem) key_eq
    | full crowded key_eq fresh =>
      rw [← hleaves] at crowded fresh
      exact .full crowded key_eq fresh

/-! ## The invariant along a history -/

theorem valid_after {t : RouteTrie H} (h : t.Valid) {m : Mapping H} (hm : Ended m.key) :
    (t.after m).Valid := by
  have hspec := insert_spec h hm
  unfold after
  split
  · next t' ht =>
    rw [ht] at hspec
    cases hspec with
    | added valid _ _ => exact valid
  · exact h

/-- Every trie that comes about by insertions is valid. -/
theorem valid_insertAll {t : RouteTrie H} (h : t.Valid) {ms : List (Mapping H)}
    (hms : ∀ m ∈ ms, Ended m.key) : (t.insertAll ms).Valid := by
  induction ms generalizing t with
  | nil => exact h
  | cons m ms ih =>
    exact ih (valid_after h (hms m List.mem_cons_self)) fun n hn =>
      hms n (List.mem_cons_of_mem m hn)

/-- The mappings of a trie are those that it had at first and those stored since. -/
theorem leaves_insertAll {t : RouteTrie H} (h : t.Valid) {ms : List (Mapping H)}
    (hms : ∀ m ∈ ms, Ended m.key) : (t.insertAll ms).leaves.Perm (t.stored ms ++ t.leaves) := by
  induction ms generalizing t with
  | nil => exact List.Perm.refl _
  | cons m ms ih =>
    have hspec := insert_spec h (hms m List.mem_cons_self)
    have htail : ∀ n ∈ ms, Ended n.key := fun n hn => hms n (List.mem_cons_of_mem m hn)
    rw [insertAll_cons]
    by_cases hadd : ∃ t', t.insert m = .added t'
    · obtain ⟨t', ht⟩ := hadd
      rw [ht] at hspec
      cases hspec with
      | added valid perm _ =>
        rw [after_of_added ht, stored_cons_of_added ht]
        exact ((ih valid htail).trans (perm.append_left _)).trans List.perm_middle
    · have hnot : ∀ t', t.insert m ≠ .added t' := fun t' ht => hadd ⟨t', ht⟩
      rw [after_of_not_added hnot, stored_cons_of_not_added hnot]
      exact ih h htail

section

variable {ms : List (Mapping H)}

/-- The trie after a history that starts without any route. -/
abbrev ofHistory (ms : List (Mapping H)) : RouteTrie H := empty.insertAll ms

/-- The mappings that a history has stored which starts without any route. -/
abbrev storedIn (ms : List (Mapping H)) : List (Mapping H) := empty.stored ms

lemma ended_of_compiled (h : ∀ m ∈ ms, m.Compiled) : ∀ m ∈ ms, Ended m.key :=
  fun m hm => (h m hm).ended

theorem valid_ofHistory (h : ∀ m ∈ ms, m.Compiled) : (ofHistory ms).Valid :=
  valid_insertAll valid_empty (ended_of_compiled h)

theorem mem_leaves_ofHistory (h : ∀ m ∈ ms, m.Compiled) {m : Mapping H} :
    m ∈ (ofHistory ms).leaves ↔ m ∈ storedIn ms := by
  have hperm := leaves_insertAll valid_empty (ended_of_compiled h)
  have hnil : (empty : RouteTrie H).leaves = [] := rfl
  rw [hperm.mem_iff, hnil, List.append_nil]

end

end RouteTrie

end UriRouting
