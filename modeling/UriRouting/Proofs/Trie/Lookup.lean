import UriRouting.Proofs.Trie.Reach

/-!
# What a lookup answers

The statements of this file are about tries with a history: any mappings, compiled in any style,
inserted in any order, some of them refused or present already.

* A hit is genuine, and a route along whose whole key the path goes is never lost
  (`RouteTrie.lookup_stored_and_aligned_found`).
* One more route may take a path away from the routes that were there
  (`RouteTrie.lookup_lost_by_insertion`): it makes the search compare more of their keys.
  `RouteTrie.served_after_insertion_iff` says which paths are still served.
-/

namespace UriRouting

variable {H : Type}

/-! ## Whole keys -/

/-- A path and a key agree as texts: bytes of text are the same, a `*` takes the path up to its
next `/` or its end, and the mark of the end stands at the end of the path.  A `*` right in front
of the mark may also take all of the path. -/
inductive Aligned : List UInt8 → List UInt8 → Prop
  | done : Aligned [endByte] []
  | literal {b : UInt8} {key path : List UInt8} (notWildcard : b ≠ wildcardByte)
      (notEnd : b ≠ endByte)
      (tail : Aligned key path) : Aligned (b :: key) (b :: path)
  | segment {key path : List UInt8} (tail : Aligned key (path.dropWhile (· != slashByte))) :
      Aligned (wildcardByte :: key) path
  | rest {path : List UInt8} : Aligned [wildcardByte, endByte] path

/-- Text in front of a key is in front of the path as well. -/
lemma Aligned.append_left {run key path : List UInt8} (h : Aligned key path)
    (hrun : ∀ b ∈ run, b ≠ wildcardByte ∧ b ≠ endByte) : Aligned (run ++ key) (run ++ path) := by
  induction run with
  | nil => exact h
  | cons b run ih =>
    obtain ⟨hw, he⟩ := hrun b List.mem_cons_self
    exact .literal hw he (ih fun c hc => hrun c (List.mem_cons_of_mem b hc))

/-- A path that is aligned with a key goes along it, or along all of it in front of a last hole. -/
lemma Aligned.goes {key path : List UInt8} (h : Aligned key path) :
    Goes key path ∨ ∃ front, key = front ++ [wildcardByte, endByte] ∧ Goes front path := by
  induction h with
  | done => exact .inl (.byte rfl .nil)
  | literal _ _ _ ih =>
    rcases ih with h | ⟨front, rfl, h⟩
    · exact .inl (.byte rfl h)
    · exact .inr ⟨_ :: front, rfl, .byte rfl h⟩
  | segment _ ih =>
    rcases ih with h | ⟨front, rfl, h⟩
    · exact .inl (.segment h)
    · exact .inr ⟨_ :: front, rfl, .segment h⟩
  | rest => exact .inr ⟨[], rfl, .nil⟩

/-- Along all that is left of a key the path goes along the compared part of it, whatever else is
stored. -/
lemma Aligned.exists_compared {ms : List (Mapping H)} {m : Mapping H} {path below rest : List UInt8}
    (h : Aligned below rest) (hbelow : m.key = path ++ below) (hended : ∀ n ∈ ms, Ended n.key)
    (hm : m ∈ ms) : ∃ front, Compared ms m.key (path ++ front) ∧ Goes front rest := by
  rcases h.goes with hg | ⟨front, rfl, hg⟩
  · refine ⟨below, ?_, hg⟩
    rw [← hbelow]
    exact compared_self (hended m hm) hended
  · have hkey : m.key = path ++ front ++ wildcardByte :: ([] ++ [endByte]) := by
      rw [hbelow, List.append_assoc]
      rfl
    exact ⟨front, .shared hkey (by simp) fun n _ hp => hp, hg⟩

namespace RouteTrie

/-- The bytes of a path. -/
abbrev bytesOf (path : String) : List UInt8 := Text.utf8 path.toList

/-- A lookup hits exactly if the path goes along what is compared of the key of some route that
accepts it. -/
theorem lookup_isSome_iff {t : RouteTrie H} (h : t.Valid) (path : String) :
    (t.lookup path).isSome ↔ ∃ m ∈ t.leaves, (m.match? path).isSome ∧
      ∃ front, Compared t.leaves m.key front ∧ Goes front (bytesOf path) := by
  cases hroot : t.root with
  | none => simp [lookup, leaves, hroot]
  | some root =>
    have hs := Node.search_isSome_iff (h.nodes root hroot) path (bytesOf path)
    simpa only [lookup, leaves, hroot, Option.bind_some, List.nil_append] using hs

/-- What a lookup finds is found by a search at the root. -/
lemma exists_root_of_lookup {t : RouteTrie H} {path : String} {r : Match H}
    (h : t.lookup path = some r) : ∃ root : Node H, t.root = some root ∧ t.leaves = root.leaves ∧
      root.search path (bytesOf path) = some r := by
  obtain ⟨root, hroot, hs⟩ := Option.bind_eq_some_iff.1 h
  exact ⟨root, hroot, by rw [leaves, hroot], hs⟩

lemma lookup_eq_some {t : RouteTrie H} {path : String} {r : Match H} (h : t.lookup path = some r) :
    r.mapping ∈ t.leaves ∧ r.mapping.match? path = some r := by
  obtain ⟨root, -, hleaves, hs⟩ := exists_root_of_lookup h
  rw [hleaves]
  exact Node.search_eq_some hs

lemma accepted_of_lookup {t : RouteTrie H} {path : String} {r : Match H}
    (h : t.lookup path = some r) :
    r.mapping ∈ t.leaves ∧ (r.mapping.template.capture? path).isSome := by
  obtain ⟨hmem, hmatch⟩ := lookup_eq_some h
  rw [← Mapping.isSome_match?, hmatch]
  exact ⟨hmem, rfl⟩

lemma ended_of_mem_leaves {t : RouteTrie H} (h : t.Valid) {m : Mapping H} (hm : m ∈ t.leaves) :
    Ended m.key := by
  cases hroot : t.root with
  | none => simp [leaves, hroot] at hm
  | some root =>
    rw [leaves, hroot] at hm
    exact ((h.nodes root hroot).key_eq hm).1

/-- A route along whose key the path goes is not missed. -/
lemma lookup_isSome_of_aligned {t : RouteTrie H} (h : t.Valid) {m : Mapping H} (hm : m ∈ t.leaves)
    {path : String} (hacc : (m.match? path).isSome) (haligned : Aligned m.key (bytesOf path)) :
    (t.lookup path).isSome := by
  have hended : ∀ n ∈ t.leaves, Ended n.key := fun n hn => ended_of_mem_leaves h hn
  have hcompared := haligned.exists_compared (List.nil_append m.key).symm hended hm
  exact (lookup_isSome_iff h path).2 ⟨m, hm, hacc, hcompared⟩

/-- In every trie that comes about by insertions, a hit is a stored mapping with what its own
template captures from the path, and a path that a stored template captures and that is aligned
with its key is never missed, whatever other routes are stored. -/
theorem lookup_stored_and_aligned_found (ms : List (Mapping H)) (hms : ∀ m ∈ ms, m.Compiled)
    (path : String) :
    (∀ r, (ofHistory ms).lookup path = some r →
      r.mapping ∈ storedIn ms ∧ r.mapping.template.capture? path = some r.params) ∧
    ∀ m ∈ storedIn ms, (m.template.capture? path).isSome → Aligned m.key (bytesOf path) →
      ((ofHistory ms).lookup path).isSome := by
  have hvalid := valid_ofHistory hms
  constructor
  · intro r hr
    obtain ⟨hmem, hmatch⟩ := lookup_eq_some hr
    exact ⟨(mem_leaves_ofHistory hms).1 hmem, (Mapping.match?_eq_some_iff.1 hmatch).2⟩
  · intro m hm hcap haligned
    have hleaf := (mem_leaves_ofHistory hms).2 hm
    rw [← Mapping.isSome_match?] at hcap
    exact lookup_isSome_of_aligned hvalid hleaf hcap haligned

/-- A group that spans segments and a route that shares its first segments. -/
def staticRoutes : List (Mapping Unit) :=
  [⟨[.get], .ofText .pattern "/static/(.+)" true (by decide +kernel), ()⟩,
    ⟨[.get], .ofText .variable "/static/\x7bfile\x7d/meta" true (by decide +kernel), ()⟩]

lemma compiled_staticRoutes : ∀ m ∈ staticRoutes, m.Compiled := by
  simp only [staticRoutes, List.forall_mem_cons, List.not_mem_nil, false_imp_iff, implies_true,
    and_true]
  exact ⟨Template.compiled_ofText _, Template.compiled_ofText _⟩

/-- The group takes what is left of the path, which is no single segment. -/
theorem static_file_found :
    (∀ m ∈ staticRoutes, m.Compiled) ∧
      ((ofHistory staticRoutes).lookup "/static/css/site.css").isSome := by
  refine ⟨compiled_staticRoutes, ?_⟩
  obtain ⟨-, hfound⟩ := lookup_stored_and_aligned_found staticRoutes compiled_staticRoutes
    "/static/css/site.css"
  refine hfound staticRoutes[0] (by decide +kernel) (by decide +kernel) ?_
  have hkey : staticRoutes[0].key = Text.utf8 "/static/".toList ++ [wildcardByte, endByte] := by
    decide +kernel
  have hpath : bytesOf "/static/css/site.css" =
      Text.utf8 "/static/".toList ++ Text.utf8 "css/site.css".toList := by decide +kernel
  rw [hkey, hpath]
  exact Aligned.rest.append_left (by decide +kernel)

/-! ## One more route -/

/-- A path that is served stays so after an insertion that is not refused exactly if the key was
there already, or the path gets to the new route and is accepted, or one of the routes that served
it is not compared further than the path goes along. -/
theorem served_after_insertion_iff (ms : List (Mapping H)) (hms : ∀ n ∈ ms, n.Compiled)
    (m : Mapping H) (hm : m.Compiled) (hroom : ((ofHistory ms).insert m).isFull = false)
    (path : String) (hserved : ((ofHistory ms).lookup path).isSome) :
    (((ofHistory ms).after m).lookup path).isSome ↔
      (∃ n ∈ storedIn ms, n.key = m.key) ∨
      ((m.template.capture? path).isSome ∧
        ∃ front, Compared (m :: storedIn ms) m.key front ∧ Goes front (bytesOf path)) ∨
      ∃ n ∈ storedIn ms, (n.template.capture? path).isSome ∧
        ∃ front, Compared (storedIn ms) n.key front ∧ Goes front (bytesOf path) ∧
          Compared [m] n.key front := by
  have hvalid := valid_ofHistory hms
  have hmem : ∀ n, n ∈ (ofHistory ms).leaves ↔ n ∈ storedIn ms := fun n => mem_leaves_ofHistory hms
  have hspec := insert_spec hvalid hm.ended
  cases hins : (ofHistory ms).insert m with
  | full run => simp [hins, Insertion.isFull] at hroom
  | present =>
    rw [hins] at hspec
    cases hspec with
    | @present n mem key_eq =>
      rw [after_of_not_added (by simp [hins])]
      exact iff_of_true hserved (.inl ⟨n, (hmem n).1 mem, key_eq⟩)
  | added t =>
    rw [hins] at hspec
    cases hspec with
    | added valid leaves fresh =>
      have hnew : ∀ n, n ∈ t.leaves ↔ n ∈ m :: storedIn ms := fun n => by
        rw [leaves.mem_iff, List.mem_cons, List.mem_cons, hmem]
      have htaken : ¬ ∃ n ∈ storedIn ms, n.key = m.key := by
        rintro ⟨n, hn, hkey⟩
        exact fresh n ((hmem n).2 hn) hkey
      rw [after_of_added hins, lookup_isSome_iff valid, or_iff_right htaken]
      simp only [hnew, Compared.congr hnew, Mapping.isSome_match?, List.mem_cons,
        exists_eq_or_imp]
      refine or_congr Iff.rfl (exists_congr fun n => and_congr_right fun _ =>
        and_congr_right fun _ => exists_congr fun front => ?_)
      rw [compared_cons_iff, and_assoc, and_comm (a := Compared [m] n.key front)]

/-- A pattern with text behind its hole. -/
def textRoute : Mapping Unit :=
  ⟨[.get], .ofText .pattern "/files/([a-z]+)\\.txt" true (by decide +kernel), ()⟩

/-- A route that goes on with a segment behind the hole of `textRoute`. -/
def metaRoute : Mapping Unit :=
  ⟨[.get], .ofText .variable "/files/\x7bx\x7d/meta" true (by decide +kernel), ()⟩

/-- A route that has no more than the text in front of the hole in common with `textRoute`. -/
def listRoute : Mapping Unit :=
  ⟨[.get], .ofText .literal "/files/list" true (by decide +kernel), ()⟩

lemma compiled_textRoute : ∀ n ∈ [textRoute], n.Compiled := by
  intro n hn
  rw [List.mem_singleton.1 hn]
  exact Template.compiled_ofText _

lemma compiled_metaRoute : metaRoute.Compiled := Template.compiled_ofText _

lemma compiled_listRoute : listRoute.Compiled := Template.compiled_ofText _

/-- Beside `listRoute` the search asks `textRoute` as early as alone. -/
theorem text_file_found_beside_list :
    ((ofHistory [textRoute]).insert listRoute).isFull = false ∧
      ((ofHistory [textRoute]).lookup "/files/abc.txt").isSome ∧
      (((ofHistory [textRoute]).after listRoute).lookup "/files/abc.txt").isSome := by
  have hroom : ((ofHistory [textRoute]).insert listRoute).isFull = false := by decide +kernel
  have hserved : ((ofHistory [textRoute]).lookup "/files/abc.txt").isSome := by decide +kernel
  refine ⟨hroom, hserved, ?_⟩
  rw [served_after_insertion_iff [textRoute] compiled_textRoute listRoute compiled_listRoute hroom
    "/files/abc.txt" hserved]
  have hkey : textRoute.key =
      Text.utf8 "/files/".toList ++ wildcardByte :: (Text.utf8 "\\.txt".toList ++ [endByte]) := by
    decide +kernel
  have hpath : bytesOf "/files/abc.txt" =
      Text.utf8 "/files/".toList ++ Text.utf8 "abc.txt".toList := by
    decide +kernel
  have hgoes : Goes (Text.utf8 "/files/".toList) (bytesOf "/files/abc.txt") := by
    rw [hpath]
    exact goes_self_append _ _
  refine .inr (.inr ⟨textRoute, by decide +kernel, by decide +kernel, _, .shared hkey ?_ ?_, hgoes,
    .shared hkey ?_ ?_⟩)
  all_goals decide +kernel

/-- One more route can take a path away.  Alone, `textRoute` is asked as soon as the path is past
`/files/`.  With `metaRoute` beside it the hole takes `abc.txt`, behind which the key goes on with
`\.txt`. -/
theorem lookup_lost_by_insertion :
    ¬ ∀ (ms : List (Mapping Unit)) (m : Mapping Unit) (path : String), (∀ n ∈ ms, n.Compiled) →
      m.Compiled → ((ofHistory ms).insert m).isFull = false →
      ((ofHistory ms).lookup path).isSome → (((ofHistory ms).after m).lookup path).isSome := by
  intro h
  have hlost := h [textRoute] metaRoute "/files/abc.txt" compiled_textRoute compiled_metaRoute
    (by decide +kernel) (by decide +kernel)
  have hmiss :
      (((ofHistory [textRoute]).after metaRoute).lookup "/files/abc.txt").isSome = false := by
    decide +kernel
  rw [hmiss] at hlost
  exact absurd hlost Bool.false_ne_true

end RouteTrie

end UriRouting
