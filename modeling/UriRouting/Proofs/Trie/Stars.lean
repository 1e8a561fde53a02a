import UriRouting.Proofs.Trie.Stride

/-!
# Paths with a `*`

A `*` is a mark of keys, and no dynamic template has it in its text, but a path may hold one.  There
the search takes the edge for a hole and leaves no more than the `*` behind, as if the hole were
text.  So a path with stars can get along a key where the same path with other characters for them
cannot, and a client can steer a lookup (`RouteTrie.lookup_steered_by_star`).

`RouteTrie.lookup_unstarred` says how far apart the two lookups are among escaped templates.  Both
paths are accepted by the same routes, and the one without stars strides.  So it is served by the
routes with bare holes in what is compared of them, by which the other one is served as well.  If
that one finds a route with whole holes, the two find the same: both fit its key, so the one without
stars would find no other route than one with text where this key has a hole
(`Node.search_leads_of_fits`), and this route would be found by the other path first
(`Node.search_prefers_text`).
-/

namespace UriRouting

open Regex

variable {H : Type}

/-! ## Two keys that part -/

section Parting

variable {ms : List (Mapping H)} {n : Mapping H} {key front f below below' : List UInt8}
  {b d : UInt8}

/-- What is compared of a key does not end before the text at which another key parts from it. -/
lemma Compared.not_short (h : Compared ms key front) (hn : n ∈ ms) (hkey : key = f ++ b :: below)
    (hother : n.key = f ++ d :: below') (hbd : b ≠ d) (hw : b ≠ wildcardByte) (he : b ≠ endByte) :
    ¬ front <+: f := by
  rintro ⟨more, rfl⟩
  rw [List.append_assoc] at hkey hother
  cases h with
  | alone _ _ only =>
    have hsame := only n hn ⟨_, hother.symm⟩
    rw [hkey, hother, List.append_cancel_left_eq, List.append_cancel_left_eq] at hsame
    exact hbd (List.cons.inj hsame).1.symm
  | @shared run key_eq _ all =>
    rw [hkey, List.append_cancel_left_eq] at key_eq
    cases more with
    | nil => exact hw (List.cons.inj key_eq).1
    | cons c more =>
      obtain ⟨rfl, hrun⟩ := List.cons.inj key_eq
      -- the other key has the hole as well, so it shares the text behind it, with `b` in it
      have hlonger := all n hn ⟨more ++ d :: below', by rw [hother]; simp⟩
      rw [hother, List.prefix_append_right_inj, List.cons_append, List.cons_prefix_cons] at hlonger
      obtain ⟨rest, hrest⟩ := hlonger.2
      rcases List.append_eq_append_iff.1 hrun with ⟨tail, rfl, htail⟩ | ⟨tail, -, htail⟩
      · cases tail with
        | nil => exact he (List.cons.inj htail).1
        | cons b' tail =>
          obtain ⟨rfl, -⟩ := List.cons.inj htail
          rw [List.append_assoc, List.append_cancel_left_eq] at hrest
          exact hbd (List.cons.inj hrest).1
      · cases tail with
        | nil => exact he (List.cons.inj htail).1.symm
        | cons b' tail => simp at htail

/-- A key is compared at least up to the text at which another one parts from it. -/
lemma Compared.parts (h : Compared ms key front) (hn : n ∈ ms) (hkey : key = f ++ b :: below)
    (hother : n.key = f ++ d :: below') (hbd : b ≠ d) (hw : b ≠ wildcardByte) (he : b ≠ endByte) :
    f ++ [b] <+: front := by
  have hshort := h.not_short hn hkey hother hbd hw he
  have hstart : f ++ [b] <+: key := ⟨below, by rw [hkey]; simp⟩
  rcases List.prefix_or_prefix_of_prefix hstart h.starts with hle | hle
  · exact hle
  · rcases List.prefix_concat_iff.1 hle with heq | hle
    · rw [heq]
    · exact absurd hle hshort

end Parting

namespace Node

variable {path run rest : List UInt8} {size : SizeClass} {edges : Edges H} {node : Node H}
  {m : Mapping H} {p : String} {r : Match H}

/-- Behind a path without stars, the key of the found route leads the key of every other one that
accepts the path and that the path fits. -/
theorem search_leads_of_fits (h : node.Valid path) (hstar : wildcardByte ∉ rest)
    (hr : node.search p rest = some r) (hm : m ∈ node.leaves) (hacc : (m.match? p).isSome)
    {below : List UInt8} (hkey : m.key = path ++ below) (hfits : Fits below rest) :
    m = r.mapping ∨ Leads r.mapping.key m.key := by
  induction h generalizing rest below with
  | leaf => exact .inl (eq_of_search_leaf hr hm)
  | @branch path run size edges shape children ih =>
    have hv := Valid.branch shape children
    obtain ⟨rest, rfl, hfound⟩ := search_branch_eq_some hr
    rw [List.mem_append, not_or] at hstar
    obtain ⟨k, c, -, hget, hmc, -⟩ := hv.exists_child hm
    obtain ⟨below, hkey, hfits⟩ := hv.fits_below hget hmc hkey hfits
    by_cases hk : k = wildcardByte
    · subst hk
      have hfits := hfits.behind_hole
      have hnostar : wildcardByte ∉ rest.dropWhile (· != slashByte) := fun hmem =>
        hstar.2 ((List.dropWhile_sublist _).mem hmem)
      rcases hfound with ⟨c', hget', hc'⟩ | ⟨-, c', hget', hc'⟩
      · obtain ⟨-, t, ht⟩ := (hv.child hget').key_eq (search_eq_some hc').1
        rw [List.append_assoc, List.singleton_append] at ht hkey
        exact .inr ⟨path ++ run, _, t, below, headD_ne_wildcard hstar.2, ht, hkey⟩
      · rw [hget] at hget'
        obtain rfl := Option.some.inj hget'
        rcases hc' with hc' | ⟨hnone, -⟩
        · exact ih _ c hget hnostar hc' hmc hkey hfits
        · have hsome := search_isSome_of_aligned (hv.child hget) hmc hkey hfits.aligned hacc
          rw [hnone] at hsome
          simp at hsome
    · rcases hv.search_along_text hget hmc hacc hkey hfits hk hr with heq | ⟨-, rest, rfl, hbelow, hc⟩
      · exact .inl heq
      · have hnostar : wildcardByte ∉ rest := fun hmem => hstar.2 (List.mem_cons_of_mem k hmem)
        exact ih _ c hget hnostar hc hmc hkey hbelow

/-- What stands below a text edge is found before anything below a hole, if it is compared no
further than the path strides. -/
lemma Valid.search_above_hole (h : (Node.branch run size edges).Valid path) {b : UInt8}
    {more below : List UInt8} (hb : b ≠ wildcardByte) (hm : m ∈ edges.leaves)
    (hacc : (m.match? p).isSome) (hcomp : Compared edges.leaves m.key (path ++ (run ++ b :: more)))
    (hstride : (stride? (b :: more) rest).isSome)
    (hr : (Node.branch run size edges).search p (run ++ rest) = some r) :
    r.mapping.key ≠ path ++ run ++ wildcardByte :: below := by
  intro hkey
  obtain ⟨tail, htail⟩ := hcomp.starts
  have hmkey : m.key = path ++ run ++ b :: (more ++ tail) := by
    rw [← htail]
    simp
  obtain ⟨c, hget, hmc⟩ := h.get?_of_key hm hmkey
  rw [stride?_cons hb] at hstride
  split at hstride
  · next hhead =>
    have hsome : (c.search p rest.tail).isSome :=
      search_of_compared (h.child hget) hmc ((h.compared_child_iff hget).2 hcomp) hacc
        (goes_of_stride hstride)
    obtain ⟨rest', heq, hfound⟩ := search_branch_eq_some hr
    rw [List.append_cancel_left_eq] at heq
    subst heq
    rw [hhead] at hfound
    rcases hfound with ⟨c', hget', hc'⟩ | ⟨hnone, -⟩
    · exact hb (h.edge_eq hget' (search_eq_some hc').1 hkey)
    · rw [hnone c hget] at hsome
      simp at hsome
  · simp at hstride

/-- Where the key of the found route has a hole, no route that would be found goes on with text. -/
theorem search_prefers_text (h : node.Valid path) {f more below : List UInt8} {b : UInt8}
    (hb : b ≠ wildcardByte) (hm : m ∈ node.leaves) (hacc : (m.match? p).isSome)
    (hcomp : Compared node.leaves m.key (path ++ (f ++ b :: more)))
    (hstride : (stride? (f ++ b :: more) rest).isSome) (hr : node.search p rest = some r)
    (hfits : Fits (f ++ wildcardByte :: below) rest) :
    r.mapping.key ≠ path ++ (f ++ wildcardByte :: below) := by
  intro hkey
  induction h generalizing f rest with
  | leaf =>
    have hstart := hcomp.starts
    rw [eq_of_search_leaf hr hm, hkey, List.prefix_append_right_inj, List.prefix_append_right_inj,
      List.cons_prefix_cons] at hstart
    exact hb hstart.1
  | @branch path run size edges shape children ih =>
    have hv := Valid.branch shape children
    obtain ⟨hrmem, hrmatch⟩ := search_eq_some hr
    obtain ⟨rest, rfl, -⟩ := search_branch_eq_some hr
    -- the keys part behind the run, which holds no hole
    obtain ⟨f, rfl⟩ : ∃ f', f = run ++ f' := by
      obtain ⟨k, -, t, -, -, hk⟩ := hv.exists_child hrmem
      rw [hkey, List.append_assoc, List.append_cancel_left_eq] at hk
      rcases List.append_eq_append_iff.1 hk with ⟨more, hrun, hmore⟩ | ⟨more, hf, -⟩
      · cases more with
        | nil => exact ⟨[], by simpa using hrun.symm⟩
        | cons d more =>
          obtain ⟨rfl, -⟩ := List.cons.inj hmore
          exact absurd (by simp [hrun]) shape.noWildcard
      · exact ⟨more, hf⟩
    rw [List.append_assoc] at hcomp hstride hfits hkey
    rw [stride?_run_append shape.noWildcard] at hstride
    rw [Fits.append_iff shape.noWildcard shape.noEnd] at hfits
    cases f with
    | nil =>
      rw [← List.append_assoc] at hkey
      exact hv.search_above_hole hb hm hacc hcomp hstride hr hkey
    | cons k f =>
      rw [List.cons_append] at hcomp hstride hfits hkey
      obtain ⟨tail, htail⟩ := hcomp.starts
      have hrkey : r.mapping.key = path ++ run ++ k :: (f ++ wildcardByte :: below) := by
        rw [hkey]
        simp
      have hmkey : m.key = path ++ run ++ k :: (f ++ b :: (more ++ tail)) := by
        rw [← htail]
        simp
      obtain ⟨c, hget, hrc⟩ := hv.get?_of_key hrmem hrkey
      obtain ⟨c', hget', hmc⟩ := hv.get?_of_key hm hmkey
      obtain rfl : c = c' := by simpa [hget] using hget'
      have hcomp := (hv.compared_child_iff hget).2 hcomp
      have hrkey' : r.mapping.key = path ++ run ++ [k] ++ (f ++ wildcardByte :: below) := by
        rw [hrkey]
        simp
      by_cases hk : k = wildcardByte
      · subst hk
        have hlast : f ++ wildcardByte :: below ≠ [endByte] := by
          intro heq
          have hmem : wildcardByte ∈ f ++ wildcardByte :: below := by simp
          rw [heq] at hmem
          exact absurd hmem (by decide)
        obtain ⟨segment, rest, key, rfl, hs, hslash, hbehind⟩ := hfits.exists_segment hlast
        rw [hslash] at hrkey
        have hc := hv.search_behind_hole hget hs hr hrkey hbehind
        rw [stride?_hole, dropWhile_segment hs] at hstride
        rw [← hslash] at hbehind
        exact ih _ c hget hmc hcomp hstride hc hbehind hrkey'
      · have he := hfits.ne_end_of_cons (by simp)
        have hc := hv.search_behind_text hget hrc (by rw [hrmatch]; rfl) hrkey' hfits hk hr
        obtain ⟨rest, rfl, hbehind⟩ := hfits.of_cons hk he
        rw [stride?_cons hk, List.headD_cons, if_pos rfl] at hstride
        exact ih _ c hget hmc hcomp hstride hc hbehind hrkey'

end Node

/-! ## Another character for a `*` -/

/-- A path with another character for every `*`. -/
def unstarred (c : Char) (path : String) : String :=
  String.ofList (path.toList.map fun x => if x = TemplatePart.wildcard then c else x)

lemma wildcard_not_mem_unstarred {c : Char} (hc : c ≠ TemplatePart.wildcard) (path : String) :
    wildcardByte ∉ RouteTrie.bytesOf (unstarred c path) := by
  intro hmem
  rw [RouteTrie.bytesOf, unstarred, String.toList_ofList] at hmem
  have hstar := (Text.mem_utf8_iff (by decide : TemplatePart.wildcard.toNat < 128) _).1 hmem
  obtain ⟨x, -, hx⟩ := List.mem_map.1 hstar
  split at hx
  · exact hc hx
  · next hne => exact hne hx

namespace Template.Escaped

open TemplatePart

/-- For a template itself a `*` in a path is a character like any other that is not its own. -/
lemma isSome_capture?_unstarred {t : Template} (h : t.Escaped) {c : Char} (hslash : c ≠ '/')
    (hc : c ∉ t.path.toList) (path : String) :
    (t.capture? (unstarred c path)).isSome = (t.capture? path).isSome := by
  obtain ⟨ls, hclean, -, hchars, haccepts⟩ := h.exists_chain
  rw [haccepts, haccepts, unstarred, String.toList_ofList]
  -- neither a `*` nor `c` is a character of the template, and neither is a `/`
  have hother : ∀ d, d ≠ c → d ≠ wildcard → ∀ x, (if x = wildcard then c else x) = d ↔ x = d := by
    intro d hdc hdw x
    split
    · next hx =>
      subst hx
      exact iff_of_false (Ne.symm hdc) (Ne.symm hdw)
    · exact Iff.rfl
  refine Link.isSome_cut_map (hother '/' (Ne.symm hslash) (by decide)) (fun d hd => ?_) _
  exact hother d (fun heq => hc (heq ▸ hchars d hd)) (hclean d hd).1

end Template.Escaped

/-! ## Lookups -/

namespace RouteTrie

open TemplatePart

section Starless

variable {t : RouteTrie H} {path path' : String} {r r' : Match H}

/-- A path is served if some route accepts it and has bare holes in what is compared of its key. -/
lemma isSome_lookup_of_bareHoles (h : t.Valid) (hesc : ∀ m ∈ t.leaves, m.template.Escaped)
    (hbare : ∃ m ∈ t.leaves, (m.template.capture? path).isSome ∧
      ∃ front, Compared t.leaves m.key front ∧ BareHoles front) : (t.lookup path).isSome := by
  obtain ⟨m, hm, hacc, front, hcomp, hbare⟩ := hbare
  have hstride := ((hesc m hm).isSome_stride?_iff hacc hcomp.starts).2 hbare
  rw [← Mapping.isSome_match?] at hacc
  exact (lookup_isSome_iff h path).2 ⟨m, hm, hacc, front, hcomp, goes_of_stride hstride⟩

/-- A path without stars finds no other routes. -/
lemma bareHoles_of_lookup (h : t.Valid) (hesc : ∀ m ∈ t.leaves, m.template.Escaped)
    (hstar : wildcardByte ∉ bytesOf path) (hr : t.lookup path = some r) :
    ∃ front, Compared t.leaves r.mapping.key front ∧ BareHoles front := by
  obtain ⟨hmem, hacc⟩ := accepted_of_lookup hr
  obtain ⟨root, hroot, hleaves, hsearch⟩ := exists_root_of_lookup hr
  obtain ⟨front, hcomp, hgoes⟩ := Node.compared_of_search (h.nodes root hroot) hsearch
  rw [List.nil_append, ← hleaves] at hcomp
  have hstride := hgoes.isSome_stride? hstar
  exact ⟨front, hcomp, ((hesc _ hmem).isSome_stride?_iff hacc hcomp.starts).1 hstride⟩

/-- If a path without stars finds a route whose key leads that of another one, which accepts the
path and has whole holes, then what is compared of the found key gets as far as the other one has a
hole, and its holes are bare. -/
lemma exists_compared_of_leads (h : t.Valid) (hesc : ∀ m ∈ t.leaves, m.template.Escaped)
    (hstar : wildcardByte ∉ bytesOf path) (hr : t.lookup path = some r) {m : Mapping H}
    (hm : m ∈ t.leaves) (hwhole : WholeHoles m.key) {front below below' : List UInt8} {b : UInt8}
    (hb : b ≠ wildcardByte) (hkey : r.mapping.key = front ++ b :: below)
    (hkey' : m.key = front ++ wildcardByte :: below') :
    ∃ more, Compared t.leaves r.mapping.key (front ++ b :: more) ∧
      BareHoles (front ++ b :: more) := by
  by_cases he : b = endByte
  · -- the found key ends here, and is a part of the other one up to the end
    have hended := ended_of_mem_leaves h (accepted_of_lookup hr).1
    have hbelow : below = [] := by
      rw [hkey, Ended.append_iff (List.cons_ne_nil _ _), Ended.cons_iff] at hended
      rcases hended.2 with ⟨-, hnil⟩ | ⟨hne, -⟩
      · exact hnil
      · exact absurd he hne
    subst he hbelow
    refine ⟨[], ?_, ?_⟩
    · rw [← hkey]
      exact compared_self hended fun n hn => ended_of_mem_leaves h hn
    · rw [hkey'] at hwhole
      exact hwhole.ended_front.bareHoles
  · obtain ⟨long, hcomp, hbare⟩ := bareHoles_of_lookup h hesc hstar hr
    obtain ⟨more, rfl⟩ := hcomp.parts hm hkey hkey' hb hb he
    rw [List.append_assoc] at hcomp hbare
    exact ⟨more, hcomp, hbare⟩

/-- If two paths are accepted by the same routes, one of them has no stars, and the other one finds
a route with whole holes, the two find the same. -/
theorem mapping_eq_of_wholeHoles (h : t.Valid) (hesc : ∀ m ∈ t.leaves, m.template.Escaped)
    (hsame : ∀ m ∈ t.leaves,
      (m.template.capture? path').isSome = (m.template.capture? path).isSome)
    (hstar : wildcardByte ∉ bytesOf path') (hr : t.lookup path = some r)
    (hr' : t.lookup path' = some r') (hwhole : WholeHoles r.mapping.key) :
    r'.mapping = r.mapping := by
  obtain ⟨hmem, hacc⟩ := accepted_of_lookup hr
  obtain ⟨hmem', hacc'⟩ := accepted_of_lookup hr'
  obtain ⟨root, hroot, hleaves, hsearch⟩ := exists_root_of_lookup hr
  obtain ⟨root', hroot', hleaves', hsearch'⟩ := exists_root_of_lookup hr'
  rw [← hsame _ hmem] at hacc
  have hfirst : r.mapping = r'.mapping ∨ Leads r'.mapping.key r.mapping.key := by
    have hfits := (hesc _ hmem).fits hacc hwhole
    rw [← Mapping.isSome_match?] at hacc
    rw [hleaves'] at hmem
    exact Node.search_leads_of_fits (h.nodes root' hroot') hstar hsearch' hmem hacc
      (List.nil_append _).symm hfits
  rcases hfirst with heq | ⟨front, b, below', below, hb, hkey', hkey⟩
  · exact heq.symm
  · obtain ⟨more, hcomp, hbare⟩ :=
      exists_compared_of_leads h hesc hstar hr' hmem hwhole hb hkey' hkey
    rw [hsame _ hmem] at hacc
    rw [hsame _ hmem'] at hacc'
    have hstride := ((hesc _ hmem').isSome_stride?_iff hacc' hcomp.starts).2 hbare
    have hfits : Fits r.mapping.key (bytesOf path) := (hesc _ hmem).fits hacc hwhole
    rw [hkey] at hfits
    rw [hleaves] at hcomp hmem'
    rw [← Mapping.isSome_match?] at hacc'
    exact absurd hkey (Node.search_prefers_text (h.nodes root hroot) hb hmem' hacc' hcomp hstride
      hsearch hfits)

end Starless

/-- In every trie of escaped templates, with a character for every `*` that no template has, a path
that is missed stays missed, and one that finds a route with whole holes finds the same.  Without
stars the path is served exactly if some route accepts it and has bare holes in what is compared of
its key. -/
theorem lookup_unstarred (ms : List (Mapping H)) (hms : ∀ m ∈ ms, m.template.Escaped)
    (path : String) (c : Char) (hslash : c ≠ '/') (hstar : c ≠ '*')
    (hc : ∀ m ∈ ms, c ∉ m.template.path.toList) :
    ((ofHistory ms).lookup path = none → (ofHistory ms).lookup (unstarred c path) = none) ∧
    (∀ r, (ofHistory ms).lookup path = some r → WholeHoles r.mapping.key →
      ((ofHistory ms).lookup (unstarred c path)).map Match.mapping = some r.mapping) ∧
    (((ofHistory ms).lookup (unstarred c path)).isSome ↔
      ∃ m ∈ storedIn ms, (m.template.capture? path).isSome ∧
        ∃ front, Compared (storedIn ms) m.key front ∧ BareHoles front) := by
  have hcompiled : ∀ m ∈ ms, m.Compiled := fun m hm => (hms m hm).compiled
  have hvalid := valid_ofHistory hcompiled
  have hleaf : ∀ m, m ∈ (ofHistory ms).leaves ↔ m ∈ storedIn ms := fun m =>
    mem_leaves_ofHistory hcompiled
  have hmem : ∀ m ∈ (ofHistory ms).leaves, m ∈ ms := fun m hm =>
    mem_of_mem_stored ((hleaf m).1 hm)
  have hesc : ∀ m ∈ (ofHistory ms).leaves, m.template.Escaped := fun m hm => hms m (hmem m hm)
  have hsame : ∀ m ∈ (ofHistory ms).leaves,
      (m.template.capture? (unstarred c path)).isSome = (m.template.capture? path).isSome :=
    fun m hm => (hesc m hm).isSome_capture?_unstarred hslash (hc m (hmem m hm)) path
  have hnostar := wildcard_not_mem_unstarred hstar path
  have hserved : ((ofHistory ms).lookup (unstarred c path)).isSome ↔
      ∃ m ∈ (ofHistory ms).leaves, (m.template.capture? path).isSome ∧
        ∃ front, Compared (ofHistory ms).leaves m.key front ∧ BareHoles front := by
    constructor
    · intro hsome
      obtain ⟨r, hr⟩ := Option.isSome_iff_exists.1 hsome
      obtain ⟨hrmem, hacc⟩ := accepted_of_lookup hr
      rw [hsame _ hrmem] at hacc
      exact ⟨r.mapping, hrmem, hacc, bareHoles_of_lookup hvalid hesc hnostar hr⟩
    · rintro ⟨m, hm, hacc, hfront⟩
      exact isSome_lookup_of_bareHoles hvalid hesc ⟨m, hm, by rwa [hsame m hm], hfront⟩
  refine ⟨fun hnone => ?_, fun r hr hwhole => ?_, ?_⟩
  · by_contra hne
    have hsome := hserved.1 (Option.isSome_iff_ne_none.2 hne)
    have hfound := isSome_lookup_of_bareHoles hvalid hesc hsome
    rw [hnone] at hfound
    simp at hfound
  · obtain ⟨hrmem, hacc⟩ := accepted_of_lookup hr
    have hended : ∀ n ∈ (ofHistory ms).leaves, Ended n.key := fun n hn =>
      ended_of_mem_leaves hvalid hn
    have hself := compared_self (hended _ hrmem) hended
    obtain ⟨r', hr'⟩ := Option.isSome_iff_exists.1
      (hserved.2 ⟨r.mapping, hrmem, hacc, r.mapping.key, hself, hwhole.bareHoles⟩)
    rw [hr', Option.map_some, mapping_eq_of_wholeHoles hvalid hesc hsame hnostar hr hr' hwhole]
  · simpa only [hleaf, Compared.congr hleaf] using hserved

/-- A route for a file. -/
def fileRoute : Mapping Unit :=
  ⟨[.get], .ofText .variable "/files/\x7bname\x7d" true (by decide +kernel), ()⟩

/-- A route for what is kept about a file. -/
def fileMetaRoute : Mapping Unit :=
  ⟨[.get], .ofText .variable "/files/\x7bname\x7d/meta" true (by decide +kernel), ()⟩

/-- A route for the files with an ending. -/
def suffixRoute : Mapping Unit :=
  ⟨[.get], .ofText .variable "/files/\x7bname\x7d.txt" true (by decide +kernel), ()⟩

lemma escaped_fileRoute : fileRoute.template.Escaped := by
  have hpath : canonicalPath "/files/\x7bname\x7d" = .ok "/files/\x7bname\x7d" := by decide +kernel
  have hparts : variableParts "/files/\x7bname\x7d".toList =
      .ok [.run "/files/".toList, .hole "name".toList, .run []] := by decide +kernel
  exact .ofText _ hpath hparts (by simp)

lemma escaped_fileMetaRoute : fileMetaRoute.template.Escaped := by
  have hpath : canonicalPath "/files/\x7bname\x7d/meta" = .ok "/files/\x7bname\x7d/meta" := by
    decide +kernel
  have hparts : variableParts "/files/\x7bname\x7d/meta".toList =
      .ok [.run "/files/".toList, .hole "name".toList, .run "/meta".toList] := by decide +kernel
  exact .ofText _ hpath hparts (by simp)

lemma escaped_suffixRoute : suffixRoute.template.Escaped := by
  have hpath : canonicalPath "/files/\x7bname\x7d.txt" = .ok "/files/\x7bname\x7d.txt" := by
    decide +kernel
  have hparts : variableParts "/files/\x7bname\x7d.txt".toList =
      .ok [.run "/files/".toList, .hole "name".toList, .run ".txt".toList] := by decide +kernel
  exact .ofText _ hpath hparts (by simp)

/-- A segment may start with a `*`. -/
theorem starred_meta_found :
    (∀ m ∈ [fileRoute, fileMetaRoute], m.template.Escaped) ∧ 'Z' ≠ '/' ∧ 'Z' ≠ '*' ∧
    (∀ m ∈ [fileRoute, fileMetaRoute], 'Z' ∉ m.template.path.toList) ∧
    ((ofHistory [fileRoute, fileMetaRoute]).lookup "/files/*.txt/meta").map Match.mapping =
      some fileMetaRoute ∧
    WholeHoles fileMetaRoute.key ∧
    ((ofHistory [fileRoute, fileMetaRoute]).lookup (unstarred 'Z' "/files/*.txt/meta")).map
      Match.mapping = some fileMetaRoute ∧
    (ofHistory [fileRoute, fileMetaRoute]).lookup "/files/*/data" = none ∧
    (ofHistory [fileRoute, fileMetaRoute]).lookup (unstarred 'Z' "/files/*/data") = none := by
  have hescaped : ∀ m ∈ [fileRoute, fileMetaRoute], m.template.Escaped := by
    simpa using And.intro escaped_fileRoute escaped_fileMetaRoute
  obtain ⟨hfresh, hfound, hwhole, hmissed⟩ :
      (∀ m ∈ [fileRoute, fileMetaRoute], 'Z' ∉ m.template.path.toList) ∧
      ((ofHistory [fileRoute, fileMetaRoute]).lookup "/files/*.txt/meta").map Match.mapping =
        some fileMetaRoute ∧
      WholeHoles fileMetaRoute.key ∧
      (ofHistory [fileRoute, fileMetaRoute]).lookup "/files/*/data" = none := by
    decide +kernel
  have hunstarred := fun path =>
    lookup_unstarred [fileRoute, fileMetaRoute] hescaped path 'Z' (by decide) (by decide) hfresh
  refine ⟨hescaped, by decide, by decide, hfresh, hfound, hwhole, ?_, hmissed,
    (hunstarred _).1 hmissed⟩
  obtain ⟨r, hr, hmapping⟩ := Option.map_eq_some_iff.1 hfound
  rw [← hmapping] at hwhole
  have hsame := (hunstarred _).2.1 r hr hwhole
  rwa [hmapping] at hsame

/-- With a `*` in the path the search gets to the text behind the hole, and finds the other one of
two routes. -/
theorem lookup_steered_by_star :
    ¬ ∀ (ms : List (Mapping Unit)) (path : String) (c : Char), (∀ m ∈ ms, m.template.Escaped) →
      c ≠ '/' → c ≠ '*' → c ≠ '\x00' → c ∉ path.toList →
      (∀ m ∈ ms, c ∉ m.template.path.toList) →
        ((ofHistory ms).lookup (unstarred c path)).map Match.mapping =
          ((ofHistory ms).lookup path).map Match.mapping := by
  intro h
  have hescaped : ∀ m ∈ [fileRoute, suffixRoute], m.template.Escaped := by
    simpa using And.intro escaped_fileRoute escaped_suffixRoute
  obtain ⟨hfresh, hplain, hstarred, hne⟩ :
      (∀ m ∈ [fileRoute, suffixRoute], 'Z' ∉ m.template.path.toList) ∧
      ((ofHistory [fileRoute, suffixRoute]).lookup (unstarred 'Z' "/files/*.txt")).map
        Match.mapping = some fileRoute ∧
      ((ofHistory [fileRoute, suffixRoute]).lookup "/files/*.txt").map Match.mapping =
        some suffixRoute ∧
      fileRoute ≠ suffixRoute := by
    decide +kernel
  have hsame := h [fileRoute, suffixRoute] "/files/*.txt" 'Z' hescaped (by decide) (by decide)
    (by decide) (by decide +kernel) hfresh
  rw [hplain, hstarred] at hsame
  exact hne (Option.some.inj hsame)

end RouteTrie

end UriRouting
