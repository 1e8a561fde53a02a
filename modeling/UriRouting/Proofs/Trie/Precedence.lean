import UriRouting.Proofs.Trie.Lookup

/-!
# Which of several routes is found

If the holes of the keys fill whole segments, there is a simple notion of a path with the bytes of
a key: `Fits key path`.  Where the routes of a trie that accept a path are all of this kind, the
search finds the one that prefers text to a hole: at the first byte where its key and the key of
any other such route part, it is the other key that goes on with the hole (`Node.search_first`).

Such a route does not depend on how the nodes are split.  It also does not depend on the bytes of
the path that look like marks, though these do lead the search along edges that they should not: a
`*` in the path leads along the edge for a hole and takes one byte, not a segment, and a NUL leads
along the edge for the end.  The keys below these edges cannot go on as the path does.
-/

namespace UriRouting

variable {H : Type}

/-! ## Paths that fit a key -/

/-- A path has the bytes of a key, the mark of the end standing at its end, and a segment wherever
the key has a hole that fills a segment. -/
inductive Fits : List UInt8 → List UInt8 → Prop
  | done : Fits [endByte] []
  | literal {b : UInt8} {key path : List UInt8} (notWildcard : b ≠ wildcardByte)
      (notEnd : b ≠ endByte)
      (tail : Fits key path) : Fits (b :: key) (b :: path)
  | last {segment : List UInt8} (within : slashByte ∉ segment) :
      Fits [wildcardByte, endByte] segment
  | segment {segment key path : List UInt8} (within : slashByte ∉ segment)
      (tail : Fits (slashByte :: key) (slashByte :: path)) :
      Fits (wildcardByte :: slashByte :: key) (segment ++ slashByte :: path)

namespace Fits

variable {run key path : List UInt8} {b : UInt8}

lemma aligned (h : Fits key path) : Aligned key path := by
  induction h with
  | done => exact .done
  | literal notWildcard notEnd _ ih => exact .literal notWildcard notEnd ih
  | last _ => exact .rest
  | segment within _ ih =>
    refine .segment ?_
    rwa [dropWhile_segment within]

/-- A path whose next byte is a byte of text in the key goes on with the same byte. -/
lemma of_cons (h : Fits (b :: key) path) (hw : b ≠ wildcardByte) (he : b ≠ endByte) :
    ∃ rest, path = b :: rest ∧ Fits key rest := by
  cases h with
  | done => exact absurd rfl he
  | literal _ _ tail => exact ⟨_, rfl, tail⟩
  | last _ => exact absurd rfl hw
  | segment _ _ => exact absurd rfl hw

/-- Text in front of a key stands in front of the path as well. -/
lemma append_iff (hw : wildcardByte ∉ run) (he : endByte ∉ run) :
    Fits (run ++ key) (run ++ path) ↔ Fits key path := by
  induction run with
  | nil => exact Iff.rfl
  | cons b run ih =>
    simp only [List.mem_cons, not_or] at hw he
    rw [List.cons_append, List.cons_append, ← ih hw.2 he.2]
    constructor
    · intro h
      obtain ⟨rest, heq, hrest⟩ := h.of_cons (Ne.symm hw.1) (Ne.symm he.1)
      rwa [(List.cons.inj heq).2]
    · exact .literal (Ne.symm hw.1) (Ne.symm he.1)

/-- Behind a hole that takes a segment of the path, the key goes on as the path does. -/
lemma below_hole {segment rest : List UInt8} (within : slashByte ∉ segment)
    (h : Fits (wildcardByte :: key) (segment ++ slashByte :: rest)) :
    Fits key (slashByte :: rest) := by
  generalize hpath : segment ++ slashByte :: rest = path at h
  cases h with
  | literal hw => exact absurd rfl hw
  | last hno => exact absurd (by simp [← hpath]) hno
  | segment within' tail =>
    have hrest := dropWhile_segment within rest
    rw [hpath, dropWhile_segment within'] at hrest
    rwa [← hrest]

end Fits

/-! ## Keys that part -/

/-- Where the keys part, the first goes on with something else than a hole and the second with a
hole. -/
def Leads (key other : List UInt8) : Prop :=
  ∃ front b below below', b ≠ wildcardByte ∧ key = front ++ b :: below ∧
    other = front ++ wildcardByte :: below'

lemma leads_cons_iff {b : UInt8} {key other : List UInt8} :
    Leads (b :: key) (b :: other) ↔ Leads key other := by
  constructor
  · rintro ⟨front, c, below, below', hc, hkey, hother⟩
    cases front with
    | nil =>
      simp only [List.nil_append, List.cons.injEq] at hkey hother
      exact absurd (hkey.1.symm.trans hother.1) hc
    | cons d front =>
      simp only [List.cons_append, List.cons.injEq] at hkey hother
      exact ⟨front, c, below, below', hc, hkey.2, hother.2⟩
  · rintro ⟨front, c, below, below', hc, rfl, rfl⟩
    exact ⟨b :: front, c, below, below', hc, rfl, rfl⟩

/-- Keys part behind what they have in common. -/
lemma leads_append_iff {front key other : List UInt8} :
    Leads (front ++ key) (front ++ other) ↔ Leads key other := by
  induction front with
  | nil => exact Iff.rfl
  | cons b front ih => rw [List.cons_append, List.cons_append, leads_cons_iff, ih]

/-- A key that goes on with text is led by no other one that starts differently. -/
lemma Leads.head_eq {b c : UInt8} {key other : List UInt8} (h : Leads (b :: key) (c :: other))
    (hc : c ≠ wildcardByte) : b = c := by
  obtain ⟨front, d, below, below', hd, hkey, hother⟩ := h
  cases front with
  | nil => exact absurd (List.cons.inj hother).1 hc
  | cons e front => rw [(List.cons.inj hkey).1, (List.cons.inj hother).1]

/-! ## The first of the routes that fit -/

namespace Node

variable {path run rest : List UInt8} {size : SizeClass} {edges : Edges H} {node : Node H}
  {m : Mapping H} {p : String} {r : Match H}

/-- A route along what is left of whose key the path goes is not missed below a node. -/
lemma search_isSome_of_aligned (h : node.Valid path) (hm : m ∈ node.leaves) {below : List UInt8}
    (hkey : m.key = path ++ below) (haligned : Aligned below rest) (hacc : (m.match? p).isSome) :
    (node.search p rest).isSome := by
  have hended : ∀ n ∈ node.leaves, Ended n.key := fun n hn => (h.key_eq hn).1
  obtain ⟨front, hcomp, hgoes⟩ := haligned.exists_compared hkey hended hm
  exact search_of_compared h hm hcomp hacc hgoes

/-- A search that gets past a node whose found key goes on with text follows this text. -/
lemma Valid.starts_of_search (h : node.Valid path) (hr : node.search p rest = some r) {b : UInt8}
    {below : List UInt8} (hkey : r.mapping.key = path ++ b :: below) (hw : b ≠ wildcardByte)
    (he : b ≠ endByte) : (∃ n, node = .leaf n) ∨ ∃ tail, rest = b :: tail := by
  cases node with
  | leaf n => exact .inl ⟨n, rfl⟩
  | branch run size edges =>
    right
    obtain ⟨rest, rfl, hfound⟩ := search_branch_eq_some hr
    cases run with
    | cons c run =>
      obtain ⟨k, c', below', -, -, hk⟩ := h.exists_child (search_eq_some hr).1
      rw [hkey, List.append_assoc, List.append_cancel_left_eq, List.cons_append,
        List.cons.injEq] at hk
      exact ⟨run ++ rest, by rw [hk.1]; rfl⟩
    | nil =>
      rw [← List.append_nil path] at hkey
      rcases hfound with ⟨c, hget, hc⟩ | ⟨-, c, hget, hc⟩
      · have hb := h.edge_eq hget (search_eq_some hc).1 hkey
        cases rest with
        | nil => exact absurd hb.symm he
        | cons c' rest => exact ⟨rest, by rw [← hb]; rfl⟩
      · have hmem : r.mapping ∈ c.leaves := by
          rcases hc with hc | ⟨-, hc⟩
          · exact (search_eq_some hc).1
          · exact (endMatch?_eq_some hc).1
        exact absurd (h.edge_eq hget hmem hkey).symm hw

/-- A path that fits what is left of a key above a branch fits it behind the run. -/
lemma Valid.fits_below (h : (Node.branch run size edges).Valid path) {key : UInt8} {c : Node H}
    (hget : edges.get? key = some c) (hm : m ∈ c.leaves) {below : List UInt8}
    (hkey : m.key = path ++ below) (hfits : Fits below (run ++ rest)) :
    ∃ below, m.key = path ++ run ++ [key] ++ below ∧ Fits (key :: below) rest := by
  obtain ⟨-, below', hkey'⟩ := (h.child hget).key_eq hm
  refine ⟨below', hkey', ?_⟩
  rw [hkey', List.append_assoc, List.append_assoc, List.append_cancel_left_eq] at hkey
  rwa [← hkey, List.singleton_append, Fits.append_iff h.shape.noWildcard h.shape.noEnd] at hfits

/-- If a route whose key goes on with text is accepted, the search does not get to the edge for a
hole. -/
lemma Valid.search_behind_text (h : (Node.branch run size edges).Valid path) {key : UInt8}
    {c : Node H}
    (hget : edges.get? key = some c) (hm : m ∈ c.leaves) (hacc : (m.match? p).isSome)
    {below : List UInt8} (hkey : m.key = path ++ run ++ [key] ++ below)
    (hfits : Fits (key :: below) rest) (hw : key ≠ wildcardByte)
    (hr : (Node.branch run size edges).search p (run ++ rest) = some r) :
    c.search p rest.tail = some r := by
  have hsome : rest.headD endByte = key ∧ (c.search p rest.tail).isSome := by
    cases hfits with
    | done =>
      obtain ⟨n, rfl, -⟩ := h.leaf_of_end hget
      rw [Node.leaves, List.mem_singleton] at hm
      rw [Node.search, ← hm]
      exact ⟨rfl, hacc⟩
    | literal _ _ tail =>
      exact ⟨rfl, search_isSome_of_aligned (h.child hget) hm hkey tail.aligned hacc⟩
    | last _ => exact absurd rfl hw
    | segment _ _ => exact absurd rfl hw
  obtain ⟨hhead, hsome⟩ := hsome
  obtain ⟨rest', heq, hfound⟩ := search_branch_eq_some hr
  rw [List.append_cancel_left_eq] at heq
  rw [← heq, hhead] at hfound
  rcases hfound with ⟨c', hget', hc'⟩ | ⟨hnone, -⟩
  · rw [hget] at hget'
    obtain rfl := Option.some.inj hget'
    exact hc'
  · rw [hnone c hget] at hsome
    simp at hsome

/-- If the search finds another route than one that is accepted and goes on with text, it finds it
behind this text. -/
lemma Valid.search_along_text (h : (Node.branch run size edges).Valid path) {key : UInt8}
    {c : Node H} (hget : edges.get? key = some c) (hm : m ∈ c.leaves) (hacc : (m.match? p).isSome)
    {below : List UInt8} (hkey : m.key = path ++ run ++ [key] ++ below)
    (hfits : Fits (key :: below) rest) (hw : key ≠ wildcardByte)
    (hr : (Node.branch run size edges).search p (run ++ rest) = some r) :
    m = r.mapping ∨ key ≠ endByte ∧
      ∃ tail, rest = key :: tail ∧ Fits below tail ∧ c.search p tail = some r := by
  have hc := h.search_behind_text hget hm hacc hkey hfits hw hr
  by_cases he : key = endByte
  · subst he
    obtain ⟨n, rfl, -⟩ := h.leaf_of_end hget
    exact .inl (eq_of_search_leaf hc hm)
  · obtain ⟨tail, rfl, htail⟩ := hfits.of_cons hw he
    exact .inr ⟨he, tail, rfl, htail, hc⟩

/-- A route with a hole that fills a segment is found behind the segment, also if the segment starts
with a `*`. -/
lemma Valid.search_behind_hole (h : (Node.branch run size edges).Valid path) {c : Node H}
    (hget : edges.get? wildcardByte = some c) {segment below : List UInt8}
    (hs : slashByte ∉ segment)
    (hr : (Node.branch run size edges).search p (run ++ (segment ++ slashByte :: rest)) = some r)
    (hkey : r.mapping.key = path ++ run ++ wildcardByte :: slashByte :: below)
    (hfits : Fits (slashByte :: below) (slashByte :: rest)) :
    c.search p (slashByte :: rest) = some r := by
  have hc := h.child hget
  have hkey' : r.mapping.key = path ++ run ++ [wildcardByte] ++ slashByte :: below := by
    rw [hkey]
    simp
  obtain ⟨rest', heq, hfound⟩ := search_branch_eq_some hr
  rw [List.append_cancel_left_eq] at heq
  subst heq
  rcases hfound with ⟨c', hget', hc'⟩ | ⟨-, c', hget', hc'⟩
  · have hstar := h.edge_eq hget' (search_eq_some hc').1 hkey
    rw [hstar, hget] at hget'
    obtain rfl := Option.some.inj hget'
    -- the path has a `*` here, and goes on behind it as the key does
    cases segment with
    | nil => exact absurd hstar (show slashByte ≠ wildcardByte by decide)
    | cons b segment =>
      rcases hc.starts_of_search hc' hkey' (by decide) (by decide) with ⟨n, rfl⟩ | ⟨tail, htail⟩
      · rwa [Node.search] at hc' ⊢
      · cases segment with
        | nil => exact hc'
        | cons b' segment =>
          simp only [List.cons_append, List.tail_cons, List.cons.injEq] at htail
          exact absurd (by simp [htail.1]) hs
  · rw [hget] at hget'
    obtain rfl := Option.some.inj hget'
    rw [dropWhile_segment hs] at hc'
    rcases hc' with hc' | ⟨hnone, hc'⟩
    · exact hc'
    · obtain ⟨hmem, hmatch⟩ := endMatch?_eq_some hc'
      have hsome := search_isSome_of_aligned hc hmem hkey' hfits.aligned (by rw [hmatch]; rfl)
      rw [hnone] at hsome
      simp at hsome

/-- If the path fits what is left of the key of every route below a node that accepts it, the search
finds the route whose key leads all the others. -/
theorem search_first (h : node.Valid path)
    (hfits : ∀ n ∈ node.leaves, (n.match? p).isSome →
      ∃ below, n.key = path ++ below ∧ Fits below rest)
    (hr : node.search p rest = some r) (hm : m ∈ node.leaves) (hacc : (m.match? p).isSome) :
    m = r.mapping ∨ Leads r.mapping.key m.key := by
  induction h generalizing rest with
  | leaf => exact .inl (eq_of_search_leaf hr hm)
  | @branch path run size edges shape children ih =>
    have hv := Valid.branch shape children
    obtain ⟨hmem, hmatch⟩ := search_eq_some hr
    obtain ⟨rest, rfl, -⟩ := search_branch_eq_some hr
    have hbelow : ∀ key c, edges.get? key = some c → ∀ n ∈ c.leaves, (n.match? p).isSome →
        ∃ below, n.key = path ++ run ++ [key] ++ below ∧ Fits (key :: below) rest := by
      intro key c hget n hn hacc
      obtain ⟨below, hkey, hfit⟩ := hfits n (Edges.mem_leaves_of_get? hget hn) hacc
      exact hv.fits_below hget hn hkey hfit
    obtain ⟨k, c, -, hget, hrc, -⟩ := hv.exists_child hmem
    obtain ⟨k', c', -, hget', hmc, -⟩ := hv.exists_child hm
    obtain ⟨below, hkey, hfit⟩ := hbelow k c hget r.mapping hrc (by simp [hmatch])
    obtain ⟨below', hkey', hfit'⟩ := hbelow k' c' hget' m hmc hacc
    by_cases hk' : k' = wildcardByte
    · subst hk'
      by_cases hk : k = wildcardByte
      · -- both stand below the edge for a hole, and the path tells whether anything is behind it
        subst hk
        rw [List.append_assoc, List.singleton_append] at hkey hkey'
        rw [hget] at hget'
        obtain rfl := Option.some.inj hget'
        cases hfit with
        | literal hw => exact absurd rfl hw
        | last within =>
          cases hfit' with
          | literal hw => exact absurd rfl hw
          | last _ => exact .inl (hv.eq_of_key_eq hm hmem (hkey'.trans hkey.symm))
          | segment _ _ => exact absurd (by simp) within
        | segment within tail =>
          have hc := hv.search_behind_hole hget within hr hkey tail
          refine ih _ c hget (fun n hn hacc => ?_) hc hmc
          obtain ⟨below, hkey, hfit⟩ := hbelow _ c hget n hn hacc
          exact ⟨below, hkey, hfit.below_hole within⟩
      · rw [List.append_assoc, List.singleton_append] at hkey hkey'
        exact .inr ⟨path ++ run, k, below, below', hk, hkey, hkey'⟩
    · rcases hv.search_along_text hget' hmc hacc hkey' hfit' hk' hr with
        heq | ⟨he, rest, rfl, -, hc⟩
      · exact .inl heq
      · refine ih _ c' hget' (fun n hn hacc => ?_) hc hmc
        obtain ⟨below, hkey, hfit⟩ := hbelow k' c' hget' n hn hacc
        obtain ⟨rest', heq, hfit⟩ := hfit.of_cons hk' he
        rw [(List.cons.inj heq).2]
        exact ⟨below, hkey, hfit⟩

end Node

/-- If the path fits the key of every route that accepts it, a lookup finds the route whose key
leads all the others. -/
theorem RouteTrie.lookup_first {t : RouteTrie H} (h : t.Valid) {path : String}
    (hfits : ∀ n ∈ t.leaves, (n.match? path).isSome → Fits n.key (bytesOf path)) {r : Match H}
    (hr : t.lookup path = some r) {m : Mapping H} (hm : m ∈ t.leaves)
    (hacc : (m.match? path).isSome) :
    m = r.mapping ∨ Leads r.mapping.key m.key := by
  obtain ⟨root, hroot, hleaves, hsearch⟩ := exists_root_of_lookup hr
  rw [hleaves] at hm hfits
  have hbelow : ∀ n ∈ root.leaves, (n.match? path).isSome →
      ∃ below, n.key = [] ++ below ∧ Fits below (bytesOf path) := fun n hn hn' =>
    ⟨n.key, rfl, hfits n hn hn'⟩
  exact Node.search_first (h.nodes root hroot) hbelow hsearch hm hacc

end UriRouting
