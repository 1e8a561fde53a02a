import UriRouting.Proofs.Trie.History

/-!
# The shape of every node

`Node.Valid` is the invariant in the form in which insertion keeps it.  This file turns it into a
statement about each single node, wherever it stands: `root.Reaches path node` says that the runs
and the keys of the edges from `root` to `node` spell `path`, and `Node.Sound path node` what holds
of a node in such a place.  A leaf stands on the way along its own key with no hole left below it;
what holds of a branch is listed in `SoundBranch`.

Every node of a valid trie is sound (`Node.Valid.sound`), and so is every node of every trie that
comes about by insertions (`RouteTrie.sound_of_reaches`), those refused or found present included.
-/

namespace UriRouting

variable {H : Type}

/-! ## Children and places -/

namespace Edges

/-- The nodes below the edges, in their order. -/
def children : Edges H → List (Node H)
  | nil => []
  | cons _ child rest => child :: rest.children

/-- The edges one by one: every key with the node below it. -/
def pairs (edges : Edges H) : List (UInt8 × Node H) := edges.keys.zip edges.children

lemma length_children (edges : Edges H) : edges.children.length = edges.length := by
  induction edges with
  | nil => rfl
  | cons k child rest ih => rw [children, length, List.length_cons, ih]

/-- Where no key occurs twice, every edge is the one that is found under its key. -/
lemma get?_of_mem_pairs {edges : Edges H} (hd : edges.keys.Nodup) {key : UInt8} {child : Node H}
    (h : (key, child) ∈ edges.pairs) : edges.get? key = some child := by
  induction edges with
  | nil => simp [pairs, keys] at h
  | cons k first rest ih =>
    simp only [keys, List.nodup_cons] at hd
    rw [pairs, keys, children, List.zip_cons_cons, List.mem_cons] at h
    rcases h with heq | h
    · obtain ⟨rfl, rfl⟩ := Prod.mk.inj heq
      simp [get?]
    · have hne : k ≠ key := by
        intro heq
        exact hd.1 (heq ▸ (List.of_mem_zip h).1)
      rw [get?, if_neg hne]
      exact ih hd.2 h

lemma mem_pairs_of_get? {edges : Edges H} {key : UInt8} {child : Node H}
    (h : edges.get? key = some child) : (key, child) ∈ edges.pairs := by
  induction edges with
  | nil => simp [get?] at h
  | cons k first rest ih =>
    rw [pairs, keys, children, List.zip_cons_cons, List.mem_cons]
    by_cases hk : k = key
    · simp only [get?, hk, if_true, Option.some.injEq] at h
      exact .inl (by rw [hk, h])
    · simp only [get?, hk, if_false] at h
      exact .inr (ih h)

end Edges

/-- The bytes on the way from a node to one below it: the runs of the branches that are passed and
the keys of the edges that are taken. -/
inductive Node.Reaches : Node H → List UInt8 → Node H → Prop
  | here (node : Node H) : Reaches node [] node
  | step {run path : List UInt8} {size : SizeClass} {edges : Edges H} {key : UInt8}
      {child node : Node H} (edge : (key, child) ∈ edges.pairs) (way : Reaches child path node) :
      Reaches (.branch run size edges) (run ++ key :: path) node

/-- One more edge at the end of a way. -/
lemma Node.Reaches.snoc {root child : Node H} {path run : List UInt8} {size : SizeClass}
    {edges : Edges H} {key : UInt8} (h : root.Reaches path (.branch run size edges))
    (edge : (key, child) ∈ edges.pairs) : root.Reaches (path ++ run ++ [key]) child := by
  generalize hnode : Node.branch run size edges = node at h
  induction h with
  | here =>
    subst hnode
    exact .step edge (.here child)
  | @step run' above size' edges' key' child' node edge' way ih =>
    have hway : (Node.branch run' size' edges').Reaches (run' ++ key' :: (above ++ run ++ [key]))
        child := .step edge' (ih hnode)
    simpa using hway

/-! ## What holds of a node -/

/-- What holds of every branch, wherever it stands.  That keys and children are paired, and that the
size class is one of the six, is carried by the types: it holds of all edges and of all size classes.
The other clauses are kept by the insertions. -/
structure SoundBranch (run : List UInt8) (size : SizeClass) (edges : Edges H) : Prop where
  /-- A hole is never part of a run. -/
  noWildcard : wildcardByte ∉ run
  /-- The mark of the end is never part of a run. -/
  noEnd : endByte ∉ run
  /-- No key occurs twice. -/
  distinct : edges.keys.Nodup
  /-- There are as many keys as children, since an edge is one of each. -/
  paired : edges.keys.length = edges.children.length
  /-- The children fit the size class. -/
  room : edges.children.length ≤ size.capacity
  /-- The size class is one of the six; there are no others. -/
  sizes : size.capacity ∈ [4, 8, 16, 32, 64, 80]
  /-- Nothing but a leaf stands below the mark of the end. -/
  endLeaf : ∀ child, (endByte, child) ∈ edges.pairs → ∃ m, child = .leaf m
  /-- There is a choice to be made, unless the only edge is for a hole. -/
  forks : 2 ≤ edges.children.length ∨ edges.keys = [wildcardByte]

/-- What holds of a node under the bytes that lead to it. -/
def Node.Sound (path : List UInt8) : Node H → Prop
  | .leaf m => ∃ rest, m.key = path ++ rest ∧ wildcardByte ∉ rest
  | .branch run size edges => SoundBranch run size edges

namespace Node.Valid

variable {path : List UInt8} {node : Node H}

lemma sound (h : node.Valid path) : node.Sound path := by
  cases h with
  | leaf ended key_eq noWildcard => exact ⟨_, key_eq, noWildcard⟩
  | @branch _ run size edges shape children =>
    have hlength : edges.children.length = edges.length := edges.length_children
    have hsizes : size.capacity ∈ [4, 8, 16, 32, 64, 80] := by cases size <;> decide
    refine ⟨shape.noWildcard, shape.noEnd, shape.distinct, ?_, ?_, hsizes, ?_, ?_⟩
    · rw [hlength, Edges.length_keys]
    · rw [hlength]
      exact shape.room
    · intro child hchild
      have hget := Edges.get?_of_mem_pairs shape.distinct hchild
      obtain ⟨m, hm, -⟩ := (Valid.branch shape children).leaf_of_end hget
      exact ⟨m, hm⟩
    · rw [hlength]
      exact shape.forks

/-- Validity goes down with the bytes. -/
lemma of_reaches {front : List UInt8} {root : Node H} (h : root.Valid front)
    (hway : root.Reaches path node) : node.Valid (front ++ path) := by
  induction hway generalizing front with
  | here node =>
    rw [List.append_nil]
    exact h
  | @step run path size edges key child node edge way ih =>
    have hget := Edges.get?_of_mem_pairs h.shape.distinct edge
    have hnode := ih (h.child hget)
    rwa [List.append_assoc, List.append_assoc, List.singleton_append] at hnode

end Node.Valid

namespace RouteTrie

/-- In every trie that comes about by insertions, added, found present or refused, every node is
sound under the bytes that lead to it. -/
theorem sound_of_reaches (ms : List (Mapping H)) (hms : ∀ m ∈ ms, m.Compiled) (root : Node H)
    (hroot : (ofHistory ms).root = some root) (path : List UInt8) (node : Node H)
    (hway : root.Reaches path node) : node.Sound path := by
  have hvalid : root.Valid [] := (valid_ofHistory hms).nodes root hroot
  have hnode := hvalid.of_reaches hway
  rw [List.nil_append] at hnode
  exact hnode.sound

/-- A literal route, by its text and its key. -/
def textMapping (text : String) (key : List UInt8) : Mapping Unit :=
  ⟨[.get], ⟨text, key, none, .literal⟩, ()⟩

/-- Three texts, two of which go on behind the same `*`. -/
def starMappings : List (Mapping Unit) :=
  [textMapping "/a/*" [47, 97, 47, 42, 0], textMapping "/a/*/b" [47, 97, 47, 42, 47, 98, 0],
    textMapping "/a/c" [47, 97, 47, 99, 0]]

/-- What stands behind the shared `*`. -/
def behindStar : Node Unit :=
  .branch [] .upTo4 (.cons slashByte (.leaf (textMapping "/a/*/b" [47, 97, 47, 42, 47, 98, 0]))
    (.cons endByte (.leaf (textMapping "/a/*" [47, 97, 47, 42, 0])) .nil))

/-- The nodes for the three texts. -/
def starRoot : Node Unit :=
  .branch [47, 97, 47] .upTo4 (.cons wildcardByte behindStar
    (.cons 99 (.leaf (textMapping "/a/c" [47, 97, 47, 99, 0])) .nil))

lemma compiled_starMappings : ∀ m ∈ starMappings, m.Compiled := by
  simp only [starMappings, List.forall_mem_cons, List.not_mem_nil, false_imp_iff, implies_true,
    and_true]
  exact ⟨⟨.literal, "/a/*", true, rfl⟩, ⟨.literal, "/a/*/b", true, rfl⟩,
    ⟨.literal, "/a/c", true, rfl⟩⟩

/-- The branch behind the `*` came about by a split, and is sound where it stands. -/
theorem behind_star_sound :
    (∀ m ∈ starMappings, m.Compiled) ∧ (ofHistory starMappings).root = some starRoot ∧
      starRoot.Reaches [47, 97, 47, wildcardByte] behindStar ∧
      behindStar.Sound [47, 97, 47, wildcardByte] := by
  have hroot : (ofHistory starMappings).root = some starRoot := rfl
  have hway : starRoot.Reaches [47, 97, 47, wildcardByte] behindStar :=
    .step List.mem_cons_self (.here behindStar)
  have hsound := sound_of_reaches starMappings compiled_starMappings starRoot hroot
    [47, 97, 47, wildcardByte] behindStar hway
  exact ⟨compiled_starMappings, hroot, hway, hsound⟩

end RouteTrie

end UriRouting
