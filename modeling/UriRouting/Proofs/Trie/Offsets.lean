import UriRouting.Proofs.Success
import UriRouting.Proofs.Trie.Reach
import UriRouting.Proofs.Trie.Representation
import UriRouting.Trie.Offsets

/-!
# No place is out of range

`RouteTrie.insertAt` and `RouteTrie.lookupAt` read keys and paths by places.  In a valid trie none
of their accesses is out of order (`Node.putAt_eq`, `Node.searchAt_eq`): they succeed, with what the
operations without places give.

What carries this is where the places are.  `Node.PutCall` and `Node.SearchCall` list the calls that
an insertion or a search can come to, each a node with a place.  At every call of an insertion the
key up to the place is what the way to the node spells (`Node.PutCall.reaches`), and the key goes on
behind all that it is compared with (`Node.Valid.readable`), since it ends in a mark which no run
holds.  A search may stand at the end of its path, but no branch stands below the mark that it takes
there, so it never comes to a place behind the end (`Node.SearchCall.place_le`).
-/

namespace UriRouting

variable {H : Type}

open Checked

/-! ## The operations on edges, through the table -/

namespace Edges

/-- Insertion below an edge replaces the child under its key. -/
theorem putAt_eq (m : Mapping H) (place : ℕ) (key : UInt8) (edges : Edges H) :
    edges.putAt m place key = (edges.get? key).map fun child =>
      (child.putAt m place).map fun result => result.map fun child => edges.put key child := by
  induction edges with
  | nil => simp [Edges.putAt, get?]
  | cons k first others ih =>
    by_cases hk : k = key
    · simp [Edges.putAt, get?, put, hk]
    · simp only [Edges.putAt, hk, if_false, get?, ih, Option.map_map, put]
      congr 1
      funext child
      simp only [Function.comp_apply]
      cases child.putAt m place with
      | error trap => rfl
      | ok result => simp

theorem literalAt_eq (path : String) (bytes : List UInt8) (place : ℕ) (key : UInt8)
    (edges : Edges H) : edges.literalAt path bytes place key =
      ((edges.get? key).map fun child => child.searchAt path bytes place).getD (.ok none) := by
  induction edges with
  | nil => rfl
  | cons k first others ih => by_cases hk : k = key <;> simp [Edges.literalAt, get?, hk, ih]

theorem holeAt_eq (path : String) (bytes : List UInt8) (place : ℕ) (edges : Edges H) :
    edges.holeAt path bytes place = ((edges.get? wildcardByte).map fun child => do
      let stop ← stopBefore bytes slashByte place
      let found ← child.searchAt path bytes stop
      .ok (found <|> child.endMatch? path)).getD (.ok none) := by
  induction edges with
  | nil => rfl
  | cons k first others ih =>
    by_cases hk : k = wildcardByte
    · simp only [Edges.holeAt, get?, hk, if_true, Option.map_some, Option.getD_some]
      congr 1
      funext stop
      congr 1
      funext found
      cases found <;> rfl
    · simp [Edges.holeAt, get?, hk, ih]

end Edges

namespace Node

/-! ## Insertion -/

lemma chainAt_of_not_mem {m : Mapping H} {front rest : List UInt8} (hkey : m.key = front ++ rest)
    (h : wildcardByte ∉ rest) : chainAt m front.length = .ok (.leaf m) := by
  have hsuffix : suffix m.template.key front.length = .ok rest := by
    rw [show m.template.key = front ++ rest from hkey, suffix_append]
  rw [chainAt]
  split
  · next trap htrap => simp [hsuffix] at htrap
  · next rest' hrest =>
    obtain rfl : rest = rest' := Except.ok.inj (hsuffix.symm.trans hrest)
    have hnone : rest.idxOf? wildcardByte = none := List.idxOf?_eq_none_iff.2 h
    split
    · rfl
    · next i hi => simp [hnone] at hi

lemma chainAt_append {m : Mapping H} {front run below : List UInt8}
    (hkey : m.key = front ++ (run ++ wildcardByte :: below)) (h : wildcardByte ∉ run) :
    chainAt m front.length = (chainAt m (front ++ run ++ [wildcardByte]).length).map fun node =>
      .branch run .upTo4 (.cons wildcardByte node .nil) := by
  have hsuffix : suffix m.template.key front.length = .ok (run ++ wildcardByte :: below) := by
    rw [show m.template.key = _ from hkey, suffix_append]
  have hslice : slice m.template.key front.length (front.length + run.length) = .ok run := by
    rw [show m.template.key = _ from hkey, ← List.append_assoc, slice_append]
  have hsome : (run ++ wildcardByte :: below).idxOf? wildcardByte = some run.length :=
    idxOf?_append h below
  rw [chainAt]
  split
  · next trap htrap => simp [hsuffix] at htrap
  · next rest hrest =>
    obtain rfl := Except.ok.inj (hsuffix.symm.trans hrest)
    split
    · next hnone => simp [hsome] at hnone
    · next i hi =>
      obtain rfl := Option.some.inj (hsome.symm.trans hi)
      rw [hslice, length_through, Success.ok_bind]
      rfl

/-- The nodes for what is left of a key are found by the place where it starts. -/
theorem chainAt_eq {m : Mapping H} {front rest : List UInt8} (hkey : m.key = front ++ rest) :
    chainAt m front.length = .ok (chain m rest) := by
  induction rest using chain_induction generalizing front with
  | leaf rest h => rw [chainAt_of_not_mem hkey h, chain_eq_leaf m h]
  | hole run below h ih =>
    have hbelow : m.key = front ++ run ++ [wildcardByte] ++ below := by simp [hkey]
    rw [chainAt_append hkey h, ih hbelow, chain_append m h, Success.ok_map]

/-- What an insertion reads of bytes that go on with `b` behind what they share with others. -/
lemma reads_onward {bytes front shared rest : List UInt8} {b : UInt8}
    (h : bytes = front ++ (shared ++ b :: rest)) :
    suffix bytes front.length = .ok (shared ++ b :: rest) ∧
      slice bytes front.length (front.length + shared.length) = .ok shared ∧
      byteAt bytes (front.length + shared.length) = .ok b := by
  subst h
  refine ⟨suffix_append front _, ?_, ?_⟩
  · rw [← List.append_assoc, slice_append]
  · rw [← List.append_assoc, ← List.length_append, byteAt_append]

/-- What an insertion makes of the rest of a key. -/
lemma chainAt_onward {m : Mapping H} {front shared rest : List UInt8} {b : UInt8}
    (hkey : m.key = front ++ (shared ++ b :: rest)) :
    chainAt m (front.length + shared.length + 1) = .ok (chain m rest) := by
  have hrest : m.key = front ++ shared ++ [b] ++ rest := by simp [hkey]
  rw [← length_through, chainAt_eq hrest]

lemma putAt_leaf {old m : Mapping H} {path stored rest : List UInt8} (hold : Ended old.key)
    (hstored : old.key = path ++ stored) (hm : Ended m.key) (hkey : m.key = path ++ rest) :
    (Node.leaf old).putAt m path.length = .ok ((Node.leaf old).insert m path.length rest) := by
  rw [Node.putAt, Node.insert]
  by_cases hsame : old.template.key = m.template.key
  · rw [if_pos hsame, if_pos hsame]
  · rw [if_neg hsame, if_neg hsame]
    obtain ⟨shared, x, xs, y, ys, rfl, rfl, hlen, -⟩ :=
      hold.exists_parting hm hstored hkey hsame
    have hdrop : old.template.key.drop path.length = shared ++ x :: xs := by
      rw [show old.template.key = _ from hstored, List.drop_left]
    obtain ⟨hbehind, -, holdKey⟩ := reads_onward hstored
    obtain ⟨hsuffix, hrun, hnew⟩ := reads_onward hkey
    simp only [hbehind, hsuffix, hlen, holdKey, hrun, hnew, chainAt_onward hkey, Success.ok_bind,
      hdrop, List.drop_left, List.take_left]

/-- A run that the key leaves before its end is cut in two. -/
lemma putAt_fork {m : Mapping H} {path shared xs ys : List UInt8} {x y : UInt8} {size : SizeClass}
    {edges : Edges H} (hkey : m.key = path ++ (shared ++ y :: ys))
    (hlen : Text.commonLength (shared ++ x :: xs) (shared ++ y :: ys) = shared.length) :
    (branch (shared ++ x :: xs) size edges).putAt m path.length =
      .ok (.added (fork shared y (chain m ys) x (branch xs size edges))) := by
  have hlt : shared.length < (shared ++ x :: xs).length := by simp
  obtain ⟨hsuffix, -, hnew⟩ := reads_onward hkey
  obtain ⟨-, hfront, hold⟩ := reads_onward (List.nil_append (shared ++ x :: xs)).symm
  rw [List.length_nil, Nat.zero_add] at hfront hold
  have hbelow : suffix (shared ++ [x] ++ xs) (shared ++ [x]).length = .ok xs := suffix_append _ xs
  rw [List.append_assoc, List.singleton_append, List.length_append, List.length_singleton] at hbelow
  rw [Node.putAt]
  simp only [hsuffix, hlen, if_pos hlt, hold, hfront, hbelow, hnew, chainAt_onward hkey,
    Success.ok_bind]

/-- Behind a run that the key matches, an insertion goes on below the child under the next byte. -/
lemma putAt_under {m : Mapping H} {run : List UInt8} {size : SizeClass} {edges : Edges H}
    {place : ℕ} {byte : UInt8} {child : Node H} (matched : run <+: m.key.drop place)
    (next : m.key[place + run.length]? = some byte) (edge : edges.get? byte = some child) :
    (branch run size edges).putAt m place = (child.putAt m (place + run.length + 1)).map fun result =>
      result.map fun child => branch run size (edges.put byte child) := by
  obtain ⟨hlt, -⟩ := List.getElem?_eq_some_iff.1 next
  have hplace : place ≤ m.template.key.length := by
    change place ≤ m.key.length
    omega
  have hsuffix : suffix m.template.key place = .ok (m.key.drop place) :=
    suffix_eq_ok.2 ⟨hplace, rfl⟩
  have hbyte : byteAt m.template.key (place + run.length) = .ok byte := by
    rw [byteAt, show m.template.key[place + run.length]? = some byte from next]
  have hshared : Text.commonLength run (m.key.drop place) = run.length := by
    obtain ⟨rest, hrest⟩ := matched
    rw [← hrest, Text.commonLength_append]
  rw [Node.putAt]
  simp only [hsuffix, hshared, hbyte, Success.ok_bind, Nat.lt_irrefl, if_false, Edges.putAt_eq, edge,
    Option.map_some]
  cases child.putAt m (place + run.length + 1) with
  | error trap => rfl
  | ok result => simp only [Success.ok_map, Insertion.map_map]

/-- In a valid trie, an insertion by places makes what the insertion makes that is given the rest of
the key. -/
theorem putAt_eq {node : Node H} {path rest : List UInt8} {m : Mapping H} (h : node.Valid path)
    (hm : Ended m.key) (hkey : m.key = path ++ rest) :
    node.putAt m path.length = .ok (node.insert m path.length rest) := by
  induction h generalizing rest with
  | leaf ended key_eq noWildcard => exact putAt_leaf ended key_eq hm hkey
  | @branch path run size edges shape children ih =>
    have hv := Valid.branch shape children
    obtain ⟨shared, xs, y, ys, rfl, rfl, hlen, hne⟩ := hv.exists_onward hm hkey
    obtain ⟨hsuffix, -, hnew⟩ := reads_onward hkey
    rw [Node.insert]
    simp only [hlen, List.drop_left, List.take_left]
    cases xs with
    | cons x xs => exact putAt_fork hkey hlen
    | nil =>
      rw [List.append_nil] at hv ih hlen ⊢
      simp only [Edges.insert_eq]
      cases hget : edges.get? y with
      | none =>
        rw [Node.putAt]
        simp only [hsuffix, hlen, Nat.lt_irrefl, if_false, hnew, Success.ok_bind, Edges.putAt_eq,
          hget, Option.map_none, chainAt_onward hkey]
      | some child =>
        have hmatched : shared <+: m.key.drop path.length := by
          rw [hkey, List.drop_left]
          exact List.prefix_append shared _
        have hnext : m.key[path.length + shared.length]? = some y := by
          rw [hkey, ← List.append_assoc, ← List.length_append]
          simp
        have hbelow : m.key = path ++ shared ++ [y] ++ ys := by simp [hkey]
        have hchild := ih y child hget hbelow
        rw [length_through] at hchild
        rw [putAt_under hmatched hnext hget, hchild, Success.ok_map]
        simp only [Option.map_some, Insertion.map_map]

/-! ## The calls of an insertion -/

/-- The calls that the insertion of a key below a node can come to: the node itself, and behind a run
that the key matches to its end, the child under the next byte of the key (`putAt_under`). -/
inductive PutCall (key : List UInt8) (root : Node H) : Node H → ℕ → Prop
  | root : PutCall key root root 0
  | under {run : List UInt8} {size : SizeClass} {edges : Edges H} {place : ℕ} {byte : UInt8}
      {child : Node H} (call : PutCall key root (.branch run size edges) place)
      (matched : run <+: key.drop place) (next : key[place + run.length]? = some byte)
      (edge : edges.get? byte = some child) : PutCall key root child (place + run.length + 1)

/-- The bytes up to the place behind a run, and behind the byte that follows it. -/
lemma take_next {key run : List UInt8} {place : ℕ} {byte : UInt8}
    (matched : run <+: key.drop place) (next : key[place + run.length]? = some byte) :
    key.take (place + run.length + 1) = key.take place ++ run ++ [byte] := by
  rw [List.take_add_one, next, Option.toList_some, List.take_add,
    ← List.prefix_iff_eq_take.1 matched]

/-- At every call, the bytes up to the place are those that the way to the node spells. -/
theorem PutCall.reaches {key : List UInt8} {root node : Node H} {place : ℕ}
    (h : PutCall key root node place) :
    place ≤ key.length ∧ root.Reaches (key.take place) node := by
  induction h with
  | root =>
    rw [List.take_zero]
    exact ⟨Nat.zero_le _, .here root⟩
  | under call matched next edge ih =>
    obtain ⟨hlt, -⟩ := List.getElem?_eq_some_iff.1 next
    rw [take_next matched next]
    exact ⟨hlt, ih.2.snoc (Edges.mem_pairs_of_get? edge)⟩

/-- What an insertion can read of a key, and of a leaf or a branch that it has come to, is there: it
parts from the key of the leaf where both go on, and goes on behind what it shares with the run.  The
last clause, that the index of a key is the index of a child, holds of all edges, since a key and its
child are kept together in one. -/
def Readable (key : List UInt8) (place : ℕ) : Node H → Prop
  | .leaf old => old.key ≠ key →
      let split := place + Text.commonLength (old.key.drop place) (key.drop place)
      split < old.key.length ∧ split < key.length ∧ old.key.take split = key.take split ∧
        old.key[split]? ≠ key[split]?
  | .branch run _ edges =>
      let shared := Text.commonLength run (key.drop place)
      place + shared < key.length ∧ (shared < run.length → run[shared]? ≠ key[place + shared]?) ∧
        ∀ byte i, edges.keys.idxOf? byte = some i → i < edges.children.length

theorem Valid.readable {node : Node H} {path rest : List UInt8} {m : Mapping H}
    (h : node.Valid path) (hm : Ended m.key) (hkey : m.key = path ++ rest) :
    node.Readable m.key path.length := by
  cases h with
  | @leaf _ stored old ended key_eq noWildcard =>
    intro hne
    obtain ⟨shared, x, xs, y, ys, rfl, rfl, hlen, hparts⟩ := ended.exists_parting hm key_eq hkey hne
    rw [key_eq, hkey, List.drop_left, List.drop_left, hlen, ← List.append_assoc,
      ← List.append_assoc, ← List.length_append]
    refine ⟨by simp, by simp, by rw [List.take_left, List.take_left], ?_⟩
    simpa using hparts
  | @branch _ run size edges shape children =>
    obtain ⟨shared, xs, y, ys, rfl, rfl, hlen, hne⟩ :=
      (Valid.branch shape children).exists_onward hm hkey
    have hdrop : m.key.drop path.length = shared ++ y :: ys := by rw [hkey, List.drop_left]
    refine ⟨?_, ?_, ?_⟩
    · rw [hdrop, hlen, hkey]
      simp
    · rw [hdrop, hlen, hkey]
      cases xs with
      | nil => simp
      | cons x xs =>
        intro _
        rw [← List.append_assoc, ← List.length_append]
        simpa using hne x xs rfl
    · intro byte i hi
      obtain ⟨hlt, -⟩ := List.idxOf?_eq_some_iff.1 hi
      rwa [Edges.length_keys, ← Edges.length_children] at hlt

/-! ## Search -/

/-- The segment that a hole takes ends within the path, where what is left of it has no more bytes of
the segment. -/
lemma stopBefore_slash {bytes : List UInt8} {place : ℕ} (h : place ≤ bytes.length) :
    ∃ stop, stopBefore bytes slashByte place = .ok stop ∧ stop ≤ bytes.length ∧
      bytes.drop stop = (bytes.drop place).dropWhile (· != slashByte) := by
  obtain ⟨front, rest, rfl, rfl⟩ : ∃ front rest, bytes = front ++ rest ∧ front.length = place :=
    ⟨bytes.take place, bytes.drop place, (List.take_append_drop place bytes).symm,
      List.length_take_of_le h⟩
  rw [List.drop_left]
  by_cases hmem : slashByte ∈ rest
  · obtain ⟨segment, more, rfl, hsegment⟩ := List.eq_append_cons_of_mem hmem
    refine ⟨_, stopBefore_append hsegment more, by simp, ?_⟩
    rw [dropWhile_segment hsegment, ← List.append_assoc, ← List.length_append, List.drop_left]
  · have hdrop := dropWhile_append_of_not_mem hmem []
    rw [List.append_nil] at hdrop
    refine ⟨_, stopBefore_end hmem, by simp, ?_⟩
    rw [hdrop, ← List.length_append, List.drop_length]
    rfl

/-- The literal edge that is taken at the end of a path leads to a leaf, so that a branch is only
entered within the path. -/
lemma Valid.within {path run bytes : List UInt8} {size : SizeClass} {edges : Edges H}
    (h : (Node.branch run size edges).Valid path) {place : ℕ} {child : Node H}
    (hget : edges.get? (bytes[place]?.getD endByte) = some child) :
    (∃ m, child = .leaf m) ∨ place + 1 ≤ bytes.length := by
  rcases Nat.lt_or_ge place bytes.length with hlt | hge
  · exact .inr hlt
  · rw [List.getElem?_eq_none hge, Option.getD_none] at hget
    obtain ⟨m, hm, -⟩ := h.leaf_of_end hget
    exact .inl ⟨m, hm⟩

/-- A run that a path matches ends within the path. -/
lemma behind_le {bytes run : List UInt8} {place : ℕ} (h : place ≤ bytes.length)
    (matched : run <+: bytes.drop place) : place + run.length ≤ bytes.length := by
  have hle := matched.length_le
  rw [List.length_drop] at hle
  omega

/-- In a valid trie, a search by places finds what the search finds that is given the rest of the
path. -/
theorem searchAt_eq {node : Node H} {path : List UInt8} (h : node.Valid path) (request : String)
    {bytes : List UInt8} {place : ℕ} (hplace : (∃ m, node = .leaf m) ∨ place ≤ bytes.length) :
    node.searchAt request bytes place = .ok (node.search request (bytes.drop place)) := by
  induction h generalizing place with
  | leaf ended key_eq noWildcard => rw [Node.searchAt, Node.search]
  | @branch path run size edges shape children ih =>
    have hv := Valid.branch shape children
    have hinside : place ≤ bytes.length := hplace.resolve_left (by simp)
    have hsuffix : suffix bytes place = .ok (bytes.drop place) := suffix_eq_ok.2 ⟨hinside, rfl⟩
    rw [Node.searchAt, Node.search, hsuffix, Success.ok_bind]
    cases hstrip : Text.stripFront run (bytes.drop place) with
    | none =>
      have hnot : ¬ run <+: bytes.drop place := by
        rintro ⟨more, hmore⟩
        rw [Text.stripFront_eq_some_iff.2 hmore.symm] at hstrip
        simp at hstrip
      rw [if_neg (by rwa [List.isPrefixOf_iff_prefix])]
    | some more =>
      have hfront := Text.stripFront_eq_some_iff.1 hstrip
      have hmatched : run <+: bytes.drop place := ⟨more, hfront.symm⟩
      have hbehind : place + run.length ≤ bytes.length := behind_le hinside hmatched
      have hmore : more = bytes.drop (place + run.length) := by
        rw [← List.drop_drop, hfront, List.drop_left]
      have hnext : bytes[place + run.length]?.getD endByte = more.headD endByte := by
        rw [hmore, List.headD_eq_head?_getD, List.head?_drop]
      have htail : more.tail = bytes.drop (place + run.length + 1) := by rw [hmore, List.tail_drop]
      have hliteral : edges.literalAt request bytes (place + run.length + 1)
          (bytes[place + run.length]?.getD endByte) =
            .ok (edges.searchLiteral request (more.headD endByte) more.tail) := by
        rw [Edges.literalAt_eq, Edges.searchLiteral_eq, ← hnext, htail]
        cases hget : edges.get? (bytes[place + run.length]?.getD endByte) with
        | none => rfl
        | some child => exact ih _ child hget (hv.within hget)
      have hhole : edges.holeAt request bytes (place + run.length) =
          .ok (edges.searchWildcard request more) := by
        obtain ⟨stop, hstop, hle, hrest⟩ := stopBefore_slash hbehind
        rw [Edges.holeAt_eq, Edges.searchWildcard_eq, hmore, ← hrest]
        cases hget : edges.get? wildcardByte with
        | none => rfl
        | some child =>
          simp only [Option.map_some, Option.getD_some, hstop, ih _ child hget (.inr hle),
            Success.ok_bind, Option.bind_some]
      rw [if_pos (List.isPrefixOf_iff_prefix.2 hmatched)]
      simp only [hliteral, hhole, Success.ok_bind]
      cases edges.searchLiteral request (more.headD endByte) more.tail <;> rfl

/-! ## The calls of a search -/

/-- The calls that a search for a path below a node can come to: the node itself, and behind a run
that the path matches, the branches under the next byte of the path and under the key for a hole. -/
inductive SearchCall (bytes : List UInt8) (root : Node H) : Node H → ℕ → Prop
  | root : SearchCall bytes root root 0
  | literal {run run' : List UInt8} {size size' : SizeClass} {edges edges' : Edges H} {place : ℕ}
      (call : SearchCall bytes root (.branch run size edges) place)
      (matched : run <+: bytes.drop place)
      (edge : edges.get? (bytes[place + run.length]?.getD endByte) =
        some (.branch run' size' edges')) :
      SearchCall bytes root (.branch run' size' edges') (place + run.length + 1)
  | segment {run run' : List UInt8} {size size' : SizeClass} {edges edges' : Edges H}
      {place stop : ℕ} (call : SearchCall bytes root (.branch run size edges) place)
      (matched : run <+: bytes.drop place)
      (edge : edges.get? wildcardByte = some (.branch run' size' edges'))
      (taken : stopBefore bytes slashByte (place + run.length) = .ok stop) :
      SearchCall bytes root (.branch run' size' edges') stop

/-- No call of a search stands behind the end of the path. -/
theorem SearchCall.place_le {bytes path : List UInt8} {root node : Node H} {place : ℕ}
    (hroot : root.Valid path) (h : SearchCall bytes root node place) :
    place ≤ bytes.length ∧ ∃ path, node.Valid path := by
  induction h with
  | root => exact ⟨Nat.zero_le _, path, hroot⟩
  | literal call matched edge ih =>
    obtain ⟨hplace, above, hvalid⟩ := ih
    refine ⟨?_, _, hvalid.child edge⟩
    rcases hvalid.within edge with ⟨m, hm⟩ | hle
    · simp at hm
    · exact hle
  | segment call matched edge taken ih =>
    obtain ⟨hplace, above, hvalid⟩ := ih
    obtain ⟨stop, hstop, hle, -⟩ := stopBefore_slash (behind_le hplace matched)
    obtain rfl := Except.ok.inj (hstop.symm.trans taken)
    exact ⟨hle, _, hvalid.child edge⟩

end Node

namespace RouteTrie

/-- Insertion by places is insertion. -/
lemma insertAt_eq {t : RouteTrie H} (h : t.Valid) {m : Mapping H} (hm : Ended m.key) :
    t.insertAt m = .ok (t.insert m) := by
  have hkey : m.key = [] ++ m.template.key := (List.nil_append m.key).symm
  rw [insertAt, insert]
  cases hroot : t.root with
  | none => exact congrArg (Except.map _) (Node.chainAt_eq hkey)
  | some root => exact congrArg (Except.map _) (Node.putAt_eq (h.nodes root hroot) hm hkey)

/-- Lookup by places is lookup. -/
lemma lookupAt_eq {t : RouteTrie H} (h : t.Valid) (request : String) :
    t.lookupAt request = .ok (t.lookup request) := by
  rw [lookupAt, lookup]
  cases hroot : t.root with
  | none => rfl
  | some root => exact Node.searchAt_eq (h.nodes root hroot) request (.inr (Nat.zero_le _))

/-- In every trie that comes about by insertions, neither an insertion nor a search leaves the bounds
of what it reads by places: each succeeds, with what it gives without places, whatever the request is.

Wherever an insertion comes to, its key agrees up to the place with what the way spells, and what it
reads from there on exists.  Wherever a search comes to, the place is within the path, and so is the
place behind the run if the path matches it. -/
theorem offsets_in_range (ms : List (Mapping H)) (hms : ∀ n ∈ ms, n.Compiled) (m : Mapping H)
    (hm : m.Compiled) (request : String) :
    let t := ofHistory ms
    let bytes := Text.utf8 request.toList
    t.insertAt m = .ok (t.insert m) ∧ t.lookupAt request = .ok (t.lookup request) ∧
      ∀ root, t.root = some root →
        (∀ node place, root.PutCall m.key node place →
          place ≤ m.key.length ∧ root.Reaches (m.key.take place) node ∧
            node.Readable m.key place) ∧
        ∀ run size edges place, root.SearchCall bytes (.branch run size edges) place →
          place ≤ bytes.length ∧
            (run <+: bytes.drop place → place + run.length ≤ bytes.length) := by
  intro t bytes
  have hvalid : t.Valid := valid_ofHistory hms
  have hended : Ended m.key := hm.ended
  refine ⟨insertAt_eq hvalid hended, lookupAt_eq hvalid request, fun root hroot => ⟨?_, ?_⟩⟩
  · intro node place hcall
    obtain ⟨hplace, hway⟩ := hcall.reaches
    have hnode : node.Valid (m.key.take place) := (hvalid.nodes root hroot).of_reaches hway
    have hread := hnode.readable hended (List.take_append_drop place m.key).symm
    rw [List.length_take_of_le hplace] at hread
    exact ⟨hplace, hway, hread⟩
  · intro run size edges place hcall
    obtain ⟨hplace, -⟩ := hcall.place_le (hvalid.nodes root hroot)
    exact ⟨hplace, Node.behind_le hplace⟩

/-- A text that goes on behind one of `starMappings`. -/
def longerText : Mapping Unit :=
  textMapping "/a/*/b/c" [47, 97, 47, 42, 47, 98, 47, 99, 0]

/-- The insertion of the longer text comes to the leaf of the shorter one, and a request that spells
the key of a stored text to its mark finds nothing. -/
theorem star_offsets_in_range :
    (∀ n ∈ starMappings, n.Compiled) ∧ longerText.Compiled ∧
      (ofHistory starMappings).insertAt longerText =
        .ok ((ofHistory starMappings).insert longerText) ∧
      (ofHistory starMappings).lookupAt "/a/*\x00" = .ok none ∧
      ∃ leaf, starRoot.PutCall longerText.key leaf 5 ∧ leaf.Readable longerText.key 5 := by
  have hcompiled : longerText.Compiled := ⟨.literal, "/a/*/b/c", true, rfl⟩
  obtain ⟨hinsert, hlookup, hcalls⟩ := offsets_in_range starMappings compiled_starMappings
    longerText hcompiled "/a/*\x00"
  have hmissed : (ofHistory starMappings).lookup "/a/*\x00" = none := by decide +kernel
  have hstar : longerText.key[0 + 3]? = some wildcardByte := rfl
  have hslash : longerText.key[4 + 0]? = some slashByte := rfl
  have hbranch : starRoot.PutCall longerText.key behindStar 4 :=
    .under .root ⟨[42, 47, 98, 47, 99, 0], rfl⟩ hstar rfl
  have hleaf : starRoot.PutCall longerText.key
      (.leaf (textMapping "/a/*/b" [47, 97, 47, 42, 47, 98, 0])) 5 :=
    .under hbranch List.nil_prefix hslash rfl
  obtain ⟨-, -, hread⟩ := (hcalls starRoot rfl).1 _ 5 hleaf
  exact ⟨compiled_starMappings, hcompiled, hinsert, hlookup.trans (congrArg _ hmissed), _, hleaf,
    hread⟩

end RouteTrie

end UriRouting
