import UriRouting.Proofs.Trie.Order
import UriRouting.Proofs.Trie.Representation
import UriRouting.Trie.InPlace

/-!
# When an insertion is refused

A branch can have 80 edges, and an insertion is refused exactly where it would need one more.  In
terms of the stored keys alone this is so if as many different bytes follow some text in them and
the new key goes on behind it with another one (`RouteTrie.Blocked`).  There is at most one such text
(`RouteTrie.Blocked.unique`), it leads to the run of one branch, and the refusal shows this run.

What is refused leaves the trie as it was.  The steps of an insertion in place that come behind a
change are edges of a new branch, which has room for them (`Node.raise_eq`), so that the insertion in
place leaves behind the same trie as the one that builds a new one (`RouteTrie.place_eq`).
`RouteTrie.refused_iff_blocked` puts the two together for tries that are changed in place from the
beginning.
-/

namespace UriRouting

variable {H : Type}

/-! ## In place and anew -/

/-- What an insertion comes to in place: it leaves the old one behind unless it adds. -/
def Insertion.settle {α : Type} (before : α) : Insertion α → Edit α Bool
  | added result => ⟨.ok true, result⟩
  | present => ⟨.ok false, before⟩
  | full run => ⟨.error (RouteTrie.capacityError run), before⟩

/-- What is done with the surroundings as well. -/
lemma Insertion.settle_map {α β : Type} (f : α → β) (before : α) (i : Insertion α) :
    (i.map f).settle (f before) = ⟨(i.settle before).answer, f (i.settle before).left⟩ := by
  cases i <;> rfl

namespace Branch

/-- Where there is room, an edge is added. -/
lemma add_of_room {b : Branch H} (h : b.edges.length < b.size.capacity) (key : UInt8)
    (child : Node H) : b.add key child = ⟨.ok (), b.push key child⟩ := by
  rw [add, if_neg h.ne]

/-- A branch that cannot grow is left as it is. -/
lemma add_eq_settle (run : List UInt8) (size : SizeClass) (edges : Edges H) (key : UInt8)
    (new : Node H) :
    let e := (Branch.mk run size edges).add key new
    (⟨e.answer.map fun _ => true, e.left.node⟩ : Edit (Node H) Bool) =
      (Node.attach run size edges key new).settle (.branch run size edges) := by
  simp only [add, grow, Node.attach]
  by_cases hfull : edges.length = size.capacity
  · rw [if_pos hfull, if_pos hfull]
    cases size.next? <;> rfl
  · rw [if_neg hfull, if_neg hfull]
    rfl

end Branch

namespace Node

/-- A new branch has room for two edges, so nothing is refused once the node has been changed. -/
theorem raise_eq (m : Mapping H) (run : List UInt8) (key : UInt8) (rest : List UInt8)
    (oldKey : UInt8) (node : Node H) :
    node.raise m run key rest oldKey = ⟨.ok true, fork run key (chain m rest) oldKey node⟩ := by
  have hfirst : (Branch.bare run).add key (chain m rest) =
      ⟨.ok (), (Branch.bare run).push key (chain m rest)⟩ := by
    refine Branch.add_of_room ?_ key _
    show 0 < 4
    omega
  have hsecond : ((Branch.bare run).push key (chain m rest)).add oldKey node =
      ⟨.ok (), ((Branch.bare run).push key (chain m rest)).push oldKey node⟩ := by
    refine Branch.add_of_room ?_ oldKey node
    show 1 < 4
    omega
  simp only [raise, hfirst, hsecond]
  rfl

end Node

lemma Edges.put_self {key : UInt8} {child : Node H} {edges : Edges H}
    (h : edges.get? key = some child) : edges.put key child = edges := by
  induction edges with
  | nil => rfl
  | cons k first rest ih =>
    by_cases hk : k = key
    · simp only [get?, hk, if_true, Option.some.injEq] at h
      simp [put, hk, h]
    · simp only [get?, hk, if_false] at h
      simp [put, hk, ih h]

/-- Below an edge a mapping is added in the place of the child. -/
lemma Edges.place_eq (m : Mapping H) (depth : ℕ) (key : UInt8) (rest : List UInt8)
    (edges : Edges H) :
    edges.place m depth key rest = (edges.get? key).map fun child =>
      ⟨(child.place m depth rest).answer, edges.put key (child.place m depth rest).left⟩ := by
  induction edges with
  | nil => simp [Edges.place, get?]
  | cons k first others ih =>
    by_cases hk : k = key
    · simp [Edges.place, get?, put, hk]
    · simp only [Edges.place, hk, if_false, get?, ih, Option.map_map, put]
      rfl

/-- A mapping is added to a node in place as it is anew, and what is refused leaves the node as it
is. -/
theorem Node.place_eq (m : Mapping H) (depth : ℕ) (rest : List UInt8) (node : Node H) :
    node.place m depth rest = (node.insert m depth rest).settle node := by
  induction node generalizing depth rest with
  | leaf old =>
    rw [Node.place, Node.insert]
    split
    · rfl
    · dsimp only
      generalize (old.template.key.drop depth).drop _ = xs
      generalize rest.drop _ = ys
      cases xs with
      | nil => rfl
      | cons x xs =>
        cases ys with
        | nil => rfl
        | cons y ys => exact raise_eq ..
  | branch run size edges ih =>
    rw [Node.place, Node.insert]
    dsimp only
    generalize run.drop _ = xs
    generalize rest.drop _ = ys
    cases ys with
    | nil => cases xs <;> rfl
    | cons y ys =>
      cases xs with
      | cons x xs => exact raise_eq ..
      | nil =>
        simp only [Edges.place_eq, Edges.insert_eq]
        cases hget : edges.get? y with
        | none => exact Branch.add_eq_settle ..
        | some child =>
          simp only [Option.map_some, Insertion.map_map, ih y child hget]
          have hself : Node.branch run size edges = .branch run size (edges.put y child) := by
            rw [Edges.put_self hget]
          rw [hself, Insertion.settle_map fun c => Node.branch run size (edges.put y c)]

namespace RouteTrie

variable {t : RouteTrie H} {m : Mapping H}

theorem place_eq (t : RouteTrie H) (m : Mapping H) : t.place m = (t.insert m).settle t := by
  unfold place insert
  cases hroot : t.root with
  | none => rfl
  | some root =>
    simp only [Node.place_eq]
    have hsame : (⟨some root, t.size⟩ : RouteTrie H) = t := by rw [← hroot]
    cases root.insert m 0 m.template.key with
    | added node => rfl
    | present => simp [Insertion.settle, Insertion.map, hsame]
    | full run => simp [Insertion.settle, Insertion.map, hsame]

lemma left_place (t : RouteTrie H) (m : Mapping H) : (t.place m).left = t.after m := by
  rw [place_eq, after]
  cases t.insert m <;> rfl

/-- An answer in place is a refusal exactly if there is no room. -/
lemma answer_place_eq_error_iff {e : RouteError} : (t.place m).answer = .error e ↔
    ∃ run, t.insert m = .full run ∧ e = capacityError run := by
  rw [place_eq]
  cases t.insert m <;> simp [Insertion.settle, eq_comm]

/-- The trie that some insertions in place leave behind. -/
def placed (ms : List (Mapping H)) : RouteTrie H :=
  ms.foldl (fun t m => (t.place m).left) empty

lemma placed_eq_ofHistory (ms : List (Mapping H)) : placed ms = ofHistory ms := by
  simp only [placed, left_place]
  rfl

end RouteTrie

/-! ## Where there is no room -/

namespace Node

/-- What is refused is refused by a branch with 80 edges, none of them for the byte with which the key
goes on behind the run. -/
theorem exists_branch_of_full {node : Node H} {m : Mapping H} {depth : ℕ} {rest run : List UInt8}
    (h : node.insert m depth rest = .full run) :
    ∃ path size edges key below, node.Reaches path (.branch run size edges) ∧
      rest = path ++ run ++ key :: below ∧ edges.get? key = none ∧ edges.length = 80 := by
  induction node generalizing depth rest with
  | leaf old =>
    rw [Node.insert] at h
    split at h
    · simp at h
    · dsimp only at h
      split at h <;> simp at h
  | branch run' size edges ih =>
    rw [Node.insert] at h
    obtain ⟨shared, xs, ys, rfl, rfl, hlen, -⟩ := Text.exists_common run' rest
    simp only [hlen, List.drop_left, List.take_left] at h
    cases xs with
    | cons x xs => cases ys <;> simp at h
    | nil =>
      cases ys with
      | nil => simp at h
      | cons y ys =>
        simp only [List.append_nil, Edges.insert_eq] at h ⊢
        cases hget : edges.get? y with
        | none =>
          simp only [hget, Option.map_none, attach] at h
          split at h
          · next hfull =>
            cases hnext : size.next? with
            | none =>
              simp only [hnext, Insertion.full.injEq] at h
              subst h
              refine ⟨[], size, edges, y, ys, .here _, rfl, hget, ?_⟩
              rw [hfull, SizeClass.capacity_of_next?_none hnext]
            | some larger => simp [hnext] at h
          · simp at h
        | some child =>
          simp only [hget, Option.map_some, Insertion.map_map] at h
          have hchild : child.insert m (depth + shared.length + 1) ys = .full run := by
            cases hins : child.insert m (depth + shared.length + 1) ys with
            | added result => simp [hins, Insertion.map] at h
            | present => simp [hins, Insertion.map] at h
            | full r => simpa [hins, Insertion.map] using h
          obtain ⟨path, size', edges', key, below, hway, rfl, hnone, hcount⟩ :=
            ih y child hget hchild
          refine ⟨shared ++ y :: path, size', edges', key, below, ?_, by simp, hnone, hcount⟩
          exact .step (Edges.mem_pairs_of_get? hget) hway

/-- What follows the bytes on the way to a node is decided by the node. -/
lemma Valid.follows_of_reaches {front path more : List UInt8} {root node : Node H}
    (h : root.Valid front) (hway : root.Reaches path node) (b : UInt8) :
    Follows node.leaves (front ++ path ++ more) b ↔ Follows root.leaves (front ++ path ++ more) b := by
  induction hway generalizing front with
  | here node => exact Iff.rfl
  | @step run path size edges key child node edge way ih =>
    have hget := Edges.get?_of_mem_pairs h.shape.distinct edge
    have hassoc : front ++ (run ++ key :: path) ++ more = front ++ run ++ key :: (path ++ more) := by
      simp
    have hchild := ih (h.child hget)
    rw [List.append_assoc _ path, List.append_assoc _ [key], List.singleton_append] at hchild
    rw [hassoc, hchild]
    exact h.follows_child_iff hget (path ++ more) b

end Node

namespace RouteTrie

variable {t : RouteTrie H} {m : Mapping H}

/-- As many bytes as a branch can have edges follow `front` in the keys of the mappings, and behind
it the key goes on with another one. -/
def Blocked (ms : List (Mapping H)) (key front : List UInt8) : Prop :=
  Crowded ms front ∧ ∃ b rest, key = front ++ b :: rest ∧ ¬ Follows ms front b

/-- A key is blocked nowhere before the place where it leaves the stored keys. -/
lemma Blocked.not_longer {ms : List (Mapping H)} {key front front' : List UInt8}
    (h : Blocked ms key front) (h' : Blocked ms key front') {b : UInt8} {more : List UInt8}
    (hlong : front' = front ++ b :: more) : False := by
  obtain ⟨-, c, rest, hkey, hfresh⟩ := h
  obtain ⟨⟨bytes, -, hlen, hiff⟩, c', rest', hkey', -⟩ := h'
  obtain ⟨d, hd⟩ := List.exists_mem_of_length_pos (by omega : 0 < bytes.length)
  obtain ⟨n, hn, r, hr⟩ := (hiff d).1 hd
  rw [hkey', hlong, List.append_assoc, List.append_cancel_left_eq, List.cons_append,
    List.cons.injEq] at hkey
  rw [hlong, List.append_assoc, List.cons_append, hkey.1] at hr
  exact hfresh ⟨n, hn, _, hr⟩

/-- A key is blocked in one place at most. -/
theorem Blocked.unique {ms : List (Mapping H)} {key front front' : List UInt8}
    (h : Blocked ms key front) (h' : Blocked ms key front') : front = front' := by
  obtain ⟨-, b, rest, hkey, -⟩ := id h
  obtain ⟨-, b', rest', hkey', -⟩ := id h'
  rcases List.append_eq_append_iff.1 (hkey.symm.trans hkey') with ⟨more, hlong, -⟩ | ⟨more, hlong, -⟩
  · cases more with
    | nil => rw [hlong, List.append_nil]
    | cons c more => exact (h.not_longer h' hlong).elim
  · cases more with
    | nil => rw [hlong, List.append_nil]
    | cons c more => exact (h'.not_longer h hlong).elim

/-- A refusal comes from the branch at the place where the key is blocked. -/
lemma exists_blocked_of_full (h : t.Valid) {run : List UInt8} (hfull : t.insert m = .full run) :
    ∃ root path size edges, t.root = some root ∧ root.Reaches path (.branch run size edges) ∧
      Blocked t.leaves m.key (path ++ run) := by
  unfold insert at hfull
  cases hroot : t.root with
  | none => simp [hroot] at hfull
  | some root =>
    have hinsert : root.insert m 0 m.template.key = .full run := by
      simp only [hroot] at hfull
      cases hins : root.insert m 0 m.template.key with
      | added node => simp [hins, Insertion.map] at hfull
      | present => simp [hins, Insertion.map] at hfull
      | full r => simpa [hins, Insertion.map] using hfull
    obtain ⟨path, size, edges, key, below, hway, hkey, hnone, hcount⟩ :=
      Node.exists_branch_of_full hinsert
    have hv := h.nodes root hroot
    have hbranch := hv.of_reaches hway
    have hfollows : ∀ b, b ∈ edges.keys ↔ Follows t.leaves (path ++ run) b := by
      intro b
      rw [hbranch.mem_keys_iff_follows, leaves, hroot]
      exact hv.follows_of_reaches hway b
    refine ⟨root, path, size, edges, rfl, hway, ?_, key, below, hkey, ?_⟩
    · exact ⟨edges.keys, hbranch.shape.distinct, by rw [Edges.length_keys, hcount], hfollows⟩
    · rw [← hfollows]
      exact Edges.get?_eq_none_iff.1 hnone

/-- Where a key is blocked, it is not added. -/
lemma exists_full_of_blocked (h : t.Valid) (hm : Ended m.key) (hnew : ∀ n ∈ t.leaves, n.key ≠ m.key)
    {front : List UInt8} (hb : Blocked t.leaves m.key front) : ∃ run, t.insert m = .full run := by
  have hspec := insert_spec h hm
  cases hins : t.insert m with
  | added t' =>
    rw [hins] at hspec
    cases hspec with
    | added valid leaves fresh =>
      obtain ⟨⟨bytes, hnodup, hlen, hiff⟩, b, rest, hkey, hfresh⟩ := hb
      have hmore : b ∉ bytes := fun hmem => hfresh ((hiff b).1 hmem)
      have hle := valid.roomy front (b :: bytes) (List.nodup_cons.2 ⟨hmore, hnodup⟩) fun c hc => by
        rcases List.mem_cons.1 hc with rfl | hc
        · exact ⟨m, leaves.mem_iff.2 List.mem_cons_self, rest, hkey⟩
        · obtain ⟨n, hn, hfollows⟩ := (hiff c).1 hc
          exact ⟨n, leaves.mem_iff.2 (List.mem_cons_of_mem m hn), hfollows⟩
      rw [List.length_cons, hlen] at hle
      omega
  | present =>
    rw [hins] at hspec
    cases hspec with
    | present mem key_eq => exact absurd key_eq (hnew _ mem)
  | full run => exact ⟨run, rfl⟩

/-- Refusals in a trie that insertions in place have left behind, refused ones among them.  A mapping
whose key is not stored is refused exactly if 80 different bytes follow some text in the stored keys
and its own key goes on behind the text with another byte.  The text leads to a branch, with its run
at the end, and the refusal shows this run.  It leaves the trie as it was, so that nothing that comes
later can tell that there has been a refusal. -/
theorem refused_iff_blocked (ms : List (Mapping H)) (hms : ∀ n ∈ ms, n.Compiled) (m : Mapping H)
    (hm : m.Compiled) (hnew : ∀ n ∈ (placed ms).leaves, n.key ≠ m.key) :
    ((∃ e, ((placed ms).place m).answer = .error e) ↔
      ∃ front, Blocked (placed ms).leaves m.key front) ∧
    (∀ front, Blocked (placed ms).leaves m.key front →
      ∃ root path run size edges, (placed ms).root = some root ∧
        root.Reaches path (.branch run size edges) ∧ path ++ run = front ∧
        ((placed ms).place m).answer = .error (capacityError run)) ∧
    ∀ e, ((placed ms).place m).answer = .error e → ((placed ms).place m).left = placed ms ∧
      ∀ later, placed (ms ++ m :: later) = placed (ms ++ later) := by
  have hvalid : (placed ms).Valid := by
    rw [placed_eq_ofHistory]
    exact valid_ofHistory hms
  have hshown : ∀ front, Blocked (placed ms).leaves m.key front →
      ∃ root path run size edges, (placed ms).root = some root ∧
        root.Reaches path (.branch run size edges) ∧ path ++ run = front ∧
        ((placed ms).place m).answer = .error (capacityError run) := by
    intro front hb
    obtain ⟨run, hfull⟩ := exists_full_of_blocked hvalid hm.ended hnew hb
    obtain ⟨root, path, size, edges, hroot, hway, hb'⟩ := exists_blocked_of_full hvalid hfull
    exact ⟨root, path, run, size, edges, hroot, hway, hb'.unique hb,
      answer_place_eq_error_iff.2 ⟨run, hfull, rfl⟩⟩
  refine ⟨⟨?_, ?_⟩, hshown, ?_⟩
  · rintro ⟨e, he⟩
    obtain ⟨run, hfull, -⟩ := answer_place_eq_error_iff.1 he
    obtain ⟨root, path, size, edges, -, -, hb⟩ := exists_blocked_of_full hvalid hfull
    exact ⟨_, hb⟩
  · rintro ⟨front, hb⟩
    obtain ⟨root, path, run, size, edges, -, -, -, hanswer⟩ := hshown front hb
    exact ⟨_, hanswer⟩
  · intro e he
    obtain ⟨run, hfull, -⟩ := answer_place_eq_error_iff.1 he
    have hleft : ((placed ms).place m).left = placed ms := by rw [place_eq, hfull, Insertion.settle]
    refine ⟨hleft, fun later => ?_⟩
    rw [placed, placed, List.foldl_append, List.foldl_append, List.foldl_cons]
    exact congrArg (fun t => List.foldl _ t later) hleft

/-- A text of one segment that ends in a character. -/
def endingIn (c : Char) : String := String.ofList ['/', 'x', c]

/-- The first eighty characters that such a text of a literal route may end in. -/
def crowdedEnds : List Char :=
  (((List.range 128).map Char.ofNat).filter fun c => c ∉ "\x00/(\x7b".toList).take 80

lemma compiles_of_mem_crowdedEnds : ∀ c ∈ crowdedEnds,
    (Template.compile .literal (endingIn c) true).toOption.isSome := by
  have hall : (crowdedEnds.all fun c =>
      (Template.compile .literal (endingIn c) true).toOption.isSome) = true := by
    decide +kernel
  exact List.all_eq_true.1 hall

/-- Eighty texts that part in their last byte. -/
def crowdedTexts : List (Mapping Unit) :=
  crowdedEnds.pmap (fun c hc => ⟨[.get], .ofText .literal (endingIn c) true hc, ()⟩)
    compiles_of_mem_crowdedEnds

/-- A text with another last byte. -/
def oneMoreText : Mapping Unit := ⟨[.get], .ofText .literal "/x~" true (by decide +kernel), ()⟩

lemma compiled_crowdedTexts : ∀ n ∈ crowdedTexts, n.Compiled := by
  intro n hn
  obtain ⟨c, hc, -, rfl⟩ := List.mem_pmap.1 hn
  exact Template.compiled_ofText _

/-- No branch has an edge for the last of the texts, and the refusal shows what they share. -/
theorem one_more_text_refused :
    (∀ n ∈ crowdedTexts, n.Compiled) ∧ oneMoreText.Compiled ∧
    (∀ n ∈ (placed crowdedTexts).leaves, n.key ≠ oneMoreText.key) ∧
    ((placed crowdedTexts).place oneMoreText).answer = .error (.nodeCapacity "/x") ∧
    ((placed crowdedTexts).place oneMoreText).left = placed crowdedTexts ∧
    ∃ front, Blocked (placed crowdedTexts).leaves oneMoreText.key front := by
  have hm : oneMoreText.Compiled := Template.compiled_ofText _
  obtain ⟨hkeys, hanswer⟩ :
      ((placed crowdedTexts).leaves.all fun n => n.key != oneMoreText.key) = true ∧
      ((placed crowdedTexts).place oneMoreText).answer = .error (.nodeCapacity "/x") := by
    decide +kernel
  have hnew : ∀ n ∈ (placed crowdedTexts).leaves, n.key ≠ oneMoreText.key := fun n hn =>
    bne_iff_ne.1 (List.all_eq_true.1 hkeys n hn)
  obtain ⟨hiff, -, hleft⟩ :=
    refused_iff_blocked crowdedTexts compiled_crowdedTexts oneMoreText hm hnew
  exact ⟨compiled_crowdedTexts, hm, hnew, hanswer, (hleft _ hanswer).1, hiff.1 ⟨_, hanswer⟩⟩

end RouteTrie

end UriRouting
