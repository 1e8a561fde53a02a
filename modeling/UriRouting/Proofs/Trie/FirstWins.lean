import UriRouting.Proofs.Trie.Order

/-!
# The trie as a table of keys

Apart from the search, a trie is a table: `RouteTrie.mappingAt?` is the mapping under a whole key.
This file says what an insertion does to the table and to the leaves behind it.  It finds a mapping
present exactly if the key is taken, and then nothing changes; a mapping that is added is one more
leaf and one more entry, beside the leaves and entries that were there; and it is refused only where
as many different bytes follow some bytes in the keys as a branch can have edges.

`RouteTrie.insert_first_wins` says this of every trie that comes about by insertions, and that its
size counts the different keys among the mappings that have been stored.
-/

namespace UriRouting

variable {H : Type}

namespace RouteTrie

variable {t t' : RouteTrie H} {m n : Mapping H}

/-! ## Entries -/

/-- The mapping that is kept under a key. -/
def mappingAt? (t : RouteTrie H) (key : List UInt8) : Option (Mapping H) :=
  t.leaves.find? fun m => m.key = key

lemma eq_of_key_eq (h : t.Valid) (hm : m ∈ t.leaves) (hn : n ∈ t.leaves) (hkey : m.key = n.key) :
    m = n :=
  List.inj_on_of_nodup_map h.distinct hm hn hkey

/-- Every leaf is the entry under its key, and there are no other entries. -/
theorem mappingAt?_eq_some_iff (h : t.Valid) {key : List UInt8} :
    t.mappingAt? key = some m ↔ m ∈ t.leaves ∧ m.key = key := by
  unfold mappingAt?
  constructor
  · intro hfind
    have hmem := List.mem_of_find?_eq_some hfind
    have hkey := List.find?_some hfind
    exact ⟨hmem, by simpa using hkey⟩
  · rintro ⟨hmem, hkey⟩
    cases hfind : t.leaves.find? fun m => m.key = key with
    | none =>
      have hnone := List.find?_eq_none.1 hfind m hmem
      simp [hkey] at hnone
    | some n =>
      have hn := List.mem_of_find?_eq_some hfind
      have hnkey : n.key = key := by simpa using List.find?_some hfind
      rw [eq_of_key_eq h hn hmem (hnkey.trans hkey.symm)]

/-! ## One insertion -/

/-- A mapping is found present exactly if its key is taken. -/
lemma insert_eq_present_iff (h : t.Valid) (hm : Ended m.key) :
    t.insert m = .present ↔ ∃ n ∈ t.leaves, n.key = m.key := by
  have hspec := insert_spec h hm
  cases hins : t.insert m with
  | added t' =>
    rw [hins] at hspec
    cases hspec with
    | added valid leaves fresh =>
      refine iff_of_false (by simp) ?_
      rintro ⟨n, hn, hkey⟩
      exact fresh n hn hkey
  | present =>
    rw [hins] at hspec
    cases hspec with
    | present mem key_eq => exact iff_of_true rfl ⟨_, mem, key_eq⟩
  | full run =>
    rw [hins] at hspec
    cases hspec with
    | @full _ front rest key crowded key_eq fresh =>
      refine iff_of_false (by simp) ?_
      rintro ⟨n, hn, hkey⟩
      exact fresh ⟨n, hn, rest, hkey.trans key_eq⟩

/-- A mapping that is added becomes the entry under its key, and the other entries stay. -/
lemma mappingAt?_of_added (h : t.Valid) (hm : Ended m.key) (hadd : t.insert m = .added t') :
    t'.mappingAt? = Function.update t.mappingAt? m.key (some m) := by
  have hspec := insert_spec h hm
  rw [hadd] at hspec
  cases hspec with
  | added valid leaves fresh =>
    funext key
    apply Option.ext
    intro n
    rw [mappingAt?_eq_some_iff valid, leaves.mem_iff, List.mem_cons]
    by_cases hkey : key = m.key
    · rw [hkey, Function.update_self, Option.some.injEq]
      constructor
      · rintro ⟨rfl | hn, hnkey⟩
        · rfl
        · exact absurd hnkey (fresh n hn)
      · rintro rfl
        exact ⟨.inl rfl, rfl⟩
    · rw [Function.update_of_ne hkey, mappingAt?_eq_some_iff h]
      constructor
      · rintro ⟨rfl | hn, hnkey⟩
        · exact absurd hnkey.symm hkey
        · exact ⟨hn, hnkey⟩
      · rintro ⟨hn, hnkey⟩
        exact ⟨.inr hn, hnkey⟩

/-- A mapping that is added is one leaf more. -/
lemma leaves_of_added (h : t.Valid) (hm : Ended m.key) (hadd : t.insert m = .added t') :
    t'.leaves.Perm (m :: t.leaves) := by
  have hspec := insert_spec h hm
  rw [hadd] at hspec
  cases hspec with
  | added valid leaves fresh => exact leaves

/-- A mapping is refused only where as many bytes as a branch can have edges follow the same bytes,
and its key goes on with another one. -/
lemma crowded_of_full (h : t.Valid) (hm : Ended m.key) {run : List UInt8}
    (hfull : t.insert m = .full run) : ∃ front key rest, m.key = front ++ key :: rest ∧
      Crowded t.leaves front ∧ ¬ Follows t.leaves front key := by
  have hspec := insert_spec h hm
  rw [hfull] at hspec
  cases hspec with
  | full crowded key_eq fresh => exact ⟨_, _, _, key_eq, crowded, fresh⟩

/-! ## Counting -/

/-- The size counts the different keys. -/
lemma size_eq_card (h : t.Valid) : t.size = (t.leaves.map Mapping.key).toFinset.card := by
  have hcard := List.toFinset_card_of_nodup h.distinct
  rw [hcard, List.length_map, h.size_eq]

lemma isEmpty_iff (h : t.Valid) : t.isEmpty = true ↔ t.leaves = [] := by
  unfold isEmpty
  rw [beq_iff_eq, h.size_eq, List.length_eq_zero_iff]

/-! ## Along a history -/

/-- Every trie that comes about by insertions keeps the first mapping under each key.  The next
mapping is found present exactly if one with its key has been stored, and then nothing changes; if
it is added, it is one leaf and one entry more, while all others stay what they are; and if it is
refused, nothing changes either, and there is no room for its key.  No mapping stands in two leaves,
the leaves are what has been stored, and the size is the number of different keys among them. -/
theorem insert_first_wins (ms : List (Mapping H)) (hms : ∀ m ∈ ms, m.Compiled) (m : Mapping H)
    (hm : m.Compiled) :
    ((ofHistory ms).insert m = .present ↔ ∃ n ∈ storedIn ms, n.key = m.key) ∧
    ((ofHistory ms).insert m = .present → (ofHistory ms).after m = ofHistory ms) ∧
    (∀ t', (ofHistory ms).insert m = .added t' →
      t'.leaves.Perm (m :: (ofHistory ms).leaves) ∧
      t'.mappingAt? = Function.update (ofHistory ms).mappingAt? m.key (some m)) ∧
    (∀ run, (ofHistory ms).insert m = .full run → (ofHistory ms).after m = ofHistory ms ∧
      ∃ front key rest, m.key = front ++ key :: rest ∧ Crowded (ofHistory ms).leaves front ∧
        ¬ Follows (ofHistory ms).leaves front key) ∧
    (ofHistory ms).leaves.Perm (storedIn ms) ∧
    ((ofHistory ms).leaves.map Mapping.key).Nodup ∧
    (ofHistory ms).size = (ofHistory ms).leaves.length ∧
    (ofHistory ms).size = ((storedIn ms).map Mapping.key).toFinset.card ∧
    ((ofHistory ms).isEmpty = true ↔ storedIn ms = []) := by
  have hvalid := valid_ofHistory hms
  have hended := hm.ended
  have hleaves : (ofHistory ms).leaves.Perm (storedIn ms) := by
    have hperm := leaves_insertAll valid_empty (ended_of_compiled hms)
    have hnil : (empty : RouteTrie H).leaves = [] := rfl
    rwa [hnil, List.append_nil] at hperm
  have hkeys : ((ofHistory ms).leaves.map Mapping.key).Perm ((storedIn ms).map Mapping.key) :=
    hleaves.map Mapping.key
  refine ⟨?_, ?_, ?_, ?_, hleaves, hvalid.distinct, hvalid.size_eq, ?_, ?_⟩
  · rw [insert_eq_present_iff hvalid hended]
    simp only [hleaves.mem_iff]
  · intro hpresent
    exact after_of_not_added (by simp [hpresent])
  · intro t' hadd
    exact ⟨leaves_of_added hvalid hended hadd, mappingAt?_of_added hvalid hended hadd⟩
  · intro run hfull
    exact ⟨after_of_not_added (by simp [hfull]), crowded_of_full hvalid hended hfull⟩
  · rw [size_eq_card hvalid, List.toFinset_eq_of_perm _ _ hkeys]
  · rw [isEmpty_iff hvalid]
    constructor
    · intro hnil
      rw [hnil] at hleaves
      exact hleaves.nil_eq.symm
    · intro hnil
      rw [hnil] at hleaves
      exact hleaves.eq_nil

/-- A text and two templates with the same first variable. -/
def teamMappings : List (Mapping Unit) :=
  [⟨[.get], .ofText .literal "/teams/own" true (by decide +kernel), ()⟩,
    ⟨[.get], .ofText .variable "/teams/\x7bid\x7d" true (by decide +kernel), ()⟩,
    ⟨[.get], .ofText .variable "/teams/\x7bid\x7d/members" true (by decide +kernel), ()⟩]

/-- One of `teamMappings` with another name for its variable. -/
def renamedMapping : Mapping Unit :=
  ⟨[.put], .ofText .variable "/teams/\x7bname\x7d" true (by decide +kernel), ()⟩

lemma compiled_teamMappings : ∀ m ∈ teamMappings, m.Compiled := by
  simp only [teamMappings, List.forall_mem_cons, List.not_mem_nil, false_imp_iff, implies_true,
    and_true]
  exact ⟨Template.compiled_ofText _, Template.compiled_ofText _, Template.compiled_ofText _⟩

/-- Names of variables are not part of a key, so the renamed template is found present. -/
theorem renamed_variable_present :
    (∀ m ∈ teamMappings, m.Compiled) ∧ renamedMapping.Compiled ∧
      (ofHistory teamMappings).insert renamedMapping = .present ∧
      (ofHistory teamMappings).after renamedMapping = ofHistory teamMappings ∧
      (ofHistory teamMappings).size = 3 := by
  have hm : renamedMapping.Compiled := Template.compiled_ofText _
  obtain ⟨hpresent, hsame, -, -, -, -, -, hsize, -⟩ :=
    insert_first_wins teamMappings compiled_teamMappings renamedMapping hm
  have htaken : ∃ n ∈ storedIn teamMappings, n.key = renamedMapping.key :=
    ⟨teamMappings[1], by decide +kernel, by decide +kernel⟩
  have hthree : ((storedIn teamMappings).map Mapping.key).toFinset.card = 3 := by decide +kernel
  exact ⟨compiled_teamMappings, hm, hpresent.2 htaken, hsame (hpresent.2 htaken),
    hsize.trans hthree⟩

end RouteTrie

end UriRouting
