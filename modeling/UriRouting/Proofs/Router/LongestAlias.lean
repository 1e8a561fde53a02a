import UriRouting.Proofs.Builder.Operations

/-!
# The alias that is used

A router tries its aliases in the order of their lengths in bytes, and looks for their fronts in the
bytes of the path.  In terms of segments this comes to a simple rule.  An alias applies to a path if
its front is the path or `/`, or is followed by a `/` in the path (`Alias.Applies`).  Of those that
apply the one with most segments is used, and among aliases with the same front the first that was
registered; it puts the segments of its target in the place of those of its front
(`Builder.longest_alias_used`).

Two aliases that apply and have as many segments have the same front, since both fronts lie along
the path.  So the order of registration matters among aliases with the same front only
(`Alias.longest?_perm`).
-/

namespace UriRouting

open UriRouting.Path

variable {H : Type}

namespace Alias

variable {a b : Alias} {aliases aliases' : List Alias} {path : String}

/-! ## Which aliases apply -/

/-- The front of the alias is the path or a `/`, or the path goes on behind it with a `/`. -/
def Applies (a : Alias) (path : String) : Prop :=
  a.front = path ∨ a.front = "/" ∨ ∃ rest, path.toList = a.front.toList ++ '/' :: rest

/-- An alias makes something of the paths that it applies to. -/
lemma isSome_redirect?_iff (a : Alias) (path : String) :
    (a.redirect? path).isSome ↔ a.Applies path := by
  rw [redirect?, Option.isSome_map, rest?, Applies]
  by_cases hroot : a.front.toList = ['/']
  · have hfront : a.front = "/" := String.toList_inj.1 hroot
    simp [hfront]
  · have hfront : a.front ≠ "/" := fun heq => hroot (by rw [heq]; rfl)
    rw [if_neg hroot, or_iff_right hfront]
    split
    · next hstrip =>
      have htext := Text.stripFront_eq_some_iff.1 hstrip
      rw [List.append_nil] at htext
      exact iff_of_true rfl (.inl (String.toList_inj.1 htext.symm))
    · next rest hstrip =>
      exact iff_of_true rfl (.inr ⟨rest, Text.stripFront_eq_some_iff.1 hstrip⟩)
    · next hempty hslash =>
      refine iff_of_false (by simp) ?_
      rintro (heq | ⟨rest, hrest⟩)
      · exact hempty (Text.stripFront_eq_some_iff.2 (by rw [heq, List.append_nil]))
      · exact hslash rest (Text.stripFront_eq_some_iff.2 hrest)

/-- An alias between canonical paths applies to the canonical paths that it covers. -/
lemma applies_iff_covers (ha : a.Canonical) (hp : Path.Canonical path) :
    a.Applies path ↔ a.Covers path := by
  rw [← isSome_redirect?_iff, redirect?_eq ha hp]
  by_cases hcovers : a.Covers path <;> simp [hcovers]

/-- What an alias makes of a path has the segments of its target in the place of those of its
front. -/
lemma pieces_moved (ha : a.Canonical) (hp : Path.Canonical path) (hcovers : a.Covers path) :
    ∃ rest, pieces path = pieces a.front ++ rest ∧
      pieces (a.moved path) = pieces a.target ++ rest := by
  obtain ⟨rest, hrest⟩ := hcovers
  refine ⟨rest, hrest.symm, ?_⟩
  have hsegments : ∀ s ∈ pieces a.target ++ rest, Ordinary s := by
    intro s hs
    rcases List.mem_append.1 hs with hs | hs
    · exact ha.target.pieces.1 s hs
    · exact hp.pieces.1 s (hrest ▸ List.mem_append_right _ hs)
  rw [moved, ← hrest, List.drop_left, pieces_spell hsegments]

/-! ## Which of them is used -/

/-- Two aliases that cover a path and have as many segments have the same front. -/
lemma front_eq_of_covers (ha : a.Canonical) (hb : b.Canonical) (hac : a.Covers path)
    (hbc : b.Covers path) (h : (pieces a.front).length = (pieces b.front).length) :
    a.front = b.front := by
  have hpieces : pieces a.front = pieces b.front :=
    (List.prefix_of_prefix_length_le hac hbc h.le).eq_of_length h
  rw [ha.front.pieces.2, hb.front.pieces.2, hpieces]

lemma isSome_longest?_iff : (longest? aliases path).isSome ↔ ∃ a ∈ aliases, a.Covers path := by
  rw [longest?, Option.isSome_iff_ne_none, ne_eq, List.argmax_eq_none, List.filter_eq_nil_iff]
  simp

/-- The scan stops at the longest alias. -/
lemma find?_sort_redirect? (h : ∀ a ∈ aliases, a.Canonical) (hp : Path.Canonical path) :
    ((sort aliases).find? fun b => (b.redirect? path).isSome) = longest? aliases path := by
  have hcovers : ∀ b ∈ sort aliases, ((b.redirect? path).isSome ↔ b.Covers path) := fun b hb =>
    (isSome_redirect?_iff b path).trans (applies_iff_covers (h b (mem_sort.1 hb)) hp)
  have hfilter : ((sort aliases).filter fun b => (b.redirect? path).isSome) =
      (sort aliases).filter fun b => b.Covers path :=
    List.filter_congr fun b hb => Bool.eq_iff_iff.2 (by simp [hcovers b hb])
  rw [← List.head?_filter, hfilter, List.head?_filter, find?_sort_covers h]

/-- The longest alias has most segments, and no alias with its front is registered before it. -/
lemma exists_of_longest?_eq_some (h : longest? aliases path = some a) :
    a.Covers path ∧
      (∀ b ∈ aliases, b.Covers path → (pieces b.front).length ≤ (pieces a.front).length) ∧
      ∃ before after, aliases = before ++ a :: after ∧ ∀ b ∈ before, b.front ≠ a.front := by
  obtain ⟨hmem, hlongest, hfirst⟩ := List.mem_argmax_iff.1 h
  obtain ⟨ha, hcovers⟩ := List.mem_filter.1 hmem
  rw [decide_eq_true_eq] at hcovers
  refine ⟨hcovers, fun b hb hbc => hlongest b (List.mem_filter.2 ⟨hb, by simpa using hbc⟩), ?_⟩
  obtain ⟨before, after, rfl, hnew⟩ := List.eq_append_cons_of_mem ha
  refine ⟨before, after, rfl, fun b hb hfront => ?_⟩
  -- an alias with the same front covers the path as well, and comes up sooner
  have hbc : b.Covers path := by
    rw [Covers, hfront]
    exact hcovers
  have hbmem : b ∈ before.filter fun a => a.Covers path :=
    List.mem_filter.2 ⟨hb, by simpa using hbc⟩
  have hanew : a ∉ before.filter fun a => a.Covers path := fun hmem =>
    hnew (List.mem_of_mem_filter hmem)
  have hplace := hfirst b (List.mem_filter.2 ⟨List.mem_append_left _ hb, by simpa using hbc⟩)
    (by rw [hfront])
  rw [List.filter_append, List.idxOf_append_of_notMem hanew,
    List.idxOf_append_of_mem hbmem] at hplace
  have hbefore := List.idxOf_lt_length_of_mem hbmem
  omega

/-- Where all fronts differ, the longest alias is the one with most segments. -/
lemma longest?_eq_some_iff (h : ∀ a ∈ aliases, a.Canonical) (hd : (aliases.map front).Nodup) :
    longest? aliases path = some a ↔ a ∈ aliases ∧ a.Covers path ∧
      ∀ b ∈ aliases, b.Covers path → (pieces b.front).length ≤ (pieces a.front).length := by
  have hlist : ∀ b, b ∈ aliases.filter (fun a => a.Covers path) ↔ b ∈ aliases ∧ b.Covers path := by
    intro b
    rw [List.mem_filter, decide_eq_true_eq]
  rw [longest?, ← Option.mem_def, List.mem_argmax_iff]
  simp only [hlist]
  constructor
  · rintro ⟨⟨ha, hcovers⟩, hlongest, -⟩
    exact ⟨ha, hcovers, fun b hb hbc => hlongest b ⟨hb, hbc⟩⟩
  · rintro ⟨ha, hcovers, hlongest⟩
    refine ⟨⟨ha, hcovers⟩, fun b hb => hlongest b hb.1 hb.2, ?_⟩
    rintro b ⟨hb, hbc⟩ hle
    have hfront : a.front = b.front :=
      front_eq_of_covers (h a ha) (h b hb) hcovers hbc (le_antisymm hle (hlongest b hb hbc))
    rw [List.inj_on_of_nodup_map hd ha hb hfront]

/-- Aliases with different fronts may be registered in any order. -/
theorem longest?_perm (hp : aliases.Perm aliases') (h : ∀ a ∈ aliases, a.Canonical)
    (hd : (aliases.map front).Nodup) (path : String) :
    longest? aliases path = longest? aliases' path := by
  have h' : ∀ a ∈ aliases', a.Canonical := fun a ha => h a (hp.mem_iff.2 ha)
  have hd' : (aliases'.map front).Nodup := (hp.map front).nodup_iff.1 hd
  refine Option.ext fun a => ?_
  rw [longest?_eq_some_iff h hd, longest?_eq_some_iff h' hd']
  simp only [hp.mem_iff]

end Alias

/-! ## Registered aliases -/

/-- The alias that a call registers: none if it is no call for an alias, or if one of the two paths
has no canonical form. -/
def Operation.alias? : Operation H → Option Alias
  | .redirect front target =>
    match canonicalPath front, canonicalPath target with
    | .ok front, .ok target => some ⟨front, target⟩
    | _, _ => none
  | _ => none

namespace Builder

lemma aliases_perform (b : Builder H) (op : Operation H) :
    (b.perform op).builder.aliases = b.aliases ++ op.alias?.toList := by
  cases op with
  | route d => simp [perform, Operation.alias?, (b.addRoute_spec d).1]
  | routes ds => simp [perform, Operation.alias?, (b.addRoutes_spec ds).1]
  | redirect front target =>
    rw [perform, addAlias, Operation.alias?]
    cases canonicalPath front with
    | error e => simp
    | ok f => cases canonicalPath target <;> simp
  | observe observer => simp [perform, Operation.alias?, Builder.observe]

/-- The aliases of a builder are those that the calls have registered, in their order. -/
theorem aliases_run (b : Builder H) (ops : List (Operation H)) :
    (b.run ops).aliases = b.aliases ++ ops.filterMap Operation.alias? := by
  induction ops generalizing b with
  | nil => simp [run]
  | cons op ops ih =>
    have hrun : b.run (op :: ops) = (b.perform op).builder.run ops := rfl
    rw [hrun, ih, aliases_perform, List.append_assoc, List.filterMap_cons]
    cases op.alias? <;> rfl

/-- What a router makes of a path comes from the aliases that the builder has registered. -/
lemma standIn?_of_build {options : RouterOptions} {ops : List (Operation H)} {r : Router H}
    {events : List Event} (hbuild : ((withOptions options).run ops).build = .ok (r, events)) :
    r.aliases = Alias.sort (ops.filterMap Operation.alias?) ∧
      ∀ a ∈ ops.filterMap (Operation.alias? (H := H)), a.Canonical := by
  have haliases : ((withOptions options).run ops).aliases = ops.filterMap Operation.alias? :=
    aliases_run (withOptions options) ops
  rw [← haliases]
  exact ⟨(build_eq_ok hbuild).1, aliasesCanonical_run options ops⟩

/-- A router makes something of a canonical path exactly if one of its aliases applies to it.  The
alias that is used is the one with most segments of those that apply, and the first that was
registered of those with its front; what it makes of the path is a canonical path again, with the
segments of the target in the place of those of the front.  If no two aliases have the same front,
they may be registered in any order. -/
theorem longest_alias_used (options : RouterOptions) (ops : List (Operation H)) {r : Router H}
    {events : List Event} (hbuild : ((withOptions options).run ops).build = .ok (r, events))
    {path : String} (hpath : Path.Canonical path) :
    let aliases := ops.filterMap Operation.alias?
    ((Alias.standIn? r.aliases path).isSome ↔ ∃ a ∈ aliases, a.Applies path) ∧
    (∀ q, Alias.standIn? r.aliases path = some q →
      ∃ before a after, aliases = before ++ a :: after ∧ a.Applies path ∧
        (∀ b ∈ aliases, b.Applies path → (pieces b.front).length ≤ (pieces a.front).length) ∧
        (∀ b ∈ before, b.front ≠ a.front) ∧
        (r.aliases.find? fun b => (b.redirect? path).isSome) = some a ∧
        a.redirect? path = some q ∧ Path.Canonical q ∧
        ∃ rest, pieces path = pieces a.front ++ rest ∧ pieces q = pieces a.target ++ rest) ∧
    ∀ options' ops' r' events', ((withOptions options').run ops').build = .ok (r', events') →
      aliases.Perm (ops'.filterMap (Operation.alias? (H := H))) → (aliases.map Alias.front).Nodup →
        Alias.standIn? r'.aliases path = Alias.standIn? r.aliases path := by
  intro aliases
  obtain ⟨hsorted, hcanonical⟩ := standIn?_of_build hbuild
  have happlies : ∀ a ∈ aliases, (a.Applies path ↔ a.Covers path) := fun a ha =>
    Alias.applies_iff_covers (hcanonical a ha) hpath
  have hstandIn : Alias.standIn? r.aliases path =
      (Alias.longest? aliases path).map fun a => a.moved path := by
    rw [hsorted]
    exact Alias.standIn?_sort hcanonical hpath
  refine ⟨?_, ?_, ?_⟩
  · rw [hstandIn, Option.isSome_map, Alias.isSome_longest?_iff]
    exact exists_congr fun a => and_congr_right fun ha => (happlies a ha).symm
  · intro q hq
    rw [hstandIn] at hq
    obtain ⟨a, ha, rfl⟩ := Option.map_eq_some_iff.1 hq
    obtain ⟨hcovers, hlongest, before, after, hsplit, hfirst⟩ := Alias.exists_of_longest?_eq_some ha
    have hmem : a ∈ aliases := hsplit ▸ List.mem_append_right before List.mem_cons_self
    have hmost : ∀ b ∈ aliases, b.Applies path →
        (pieces b.front).length ≤ (pieces a.front).length := fun b hb hbp =>
      hlongest b hb ((happlies b hb).1 hbp)
    have hfound : (r.aliases.find? fun b => (b.redirect? path).isSome) = some a := by
      rw [hsorted, Alias.find?_sort_redirect? hcanonical hpath]
      exact ha
    have hmoved : a.redirect? path = some (a.moved path) := by
      rw [Alias.redirect?_eq (hcanonical a hmem) hpath, if_pos hcovers]
    exact ⟨before, a, after, hsplit, (happlies a hmem).2 hcovers, hmost, hfirst, hfound, hmoved,
      Alias.canonical_moved (hcanonical a hmem) hpath,
      Alias.pieces_moved (hcanonical a hmem) hpath hcovers⟩
  · intro options' ops' r' events' hbuild' hperm hnodup
    obtain ⟨hsorted', hcanonical'⟩ := standIn?_of_build hbuild'
    rw [hstandIn, hsorted', Alias.standIn?_sort hcanonical' hpath,
      Alias.longest?_perm hperm hcanonical hnodup]

/-- Aliases with fronts of three lengths. -/
def versionAliases : List (Operation ℕ) :=
  [.redirect "/v1" "/api/v1", .redirect "v2" "/api", .redirect "/" "/home",
    .redirect "//v1/beta/" "/api/next"]

/-- The same aliases, and a front a second time. -/
def repeatedAliases : List (Operation ℕ) := versionAliases ++ [.redirect "/v1/beta" "/old"]

/-- The path goes the way of the alias with two segments, which was registered before another one
with the same front, and in any order of the first three. -/
theorem beta_path_redirected :
    ∃ r events r' events',
      ((withOptions ⟨false, .ignore⟩).run repeatedAliases).build = .ok (r, events) ∧
      ((withOptions ⟨false, .ignore⟩).run versionAliases.reverse).build = .ok (r', events') ∧
      Alias.standIn? r.aliases "/v1/beta/x" = some "/api/next/x" ∧
      (∃ before a after, repeatedAliases.filterMap Operation.alias? = before ++ a :: after ∧
        a.front = "/v1/beta" ∧ (∀ b ∈ before, b.front ≠ "/v1/beta") ∧
        a.redirect? "/v1/beta/x" = some "/api/next/x") ∧
      Alias.standIn? r'.aliases "/v1/beta/x" = some "/api/next/x" := by
  have hcanonical : canonicalPath "/v1/beta/x" = .ok "/v1/beta/x" := by decide +kernel
  have hpath : Path.Canonical "/v1/beta/x" := canonical_of_canonicalPath hcanonical
  obtain ⟨⟨r, events⟩, hbuild⟩ : ∃ built,
      ((withOptions ⟨false, .ignore⟩).run repeatedAliases).build = .ok built :=
    ⟨_, Success.eq_ok_get (by decide +kernel)⟩
  obtain ⟨⟨s, events''⟩, hfirst⟩ : ∃ built,
      ((withOptions ⟨false, .ignore⟩).run versionAliases).build = .ok built :=
    ⟨_, Success.eq_ok_get (by decide +kernel)⟩
  obtain ⟨⟨r', events'⟩, hbuild'⟩ : ∃ built,
      ((withOptions ⟨false, .ignore⟩).run versionAliases.reverse).build = .ok built :=
    ⟨_, Success.eq_ok_get (by decide +kernel)⟩
  obtain ⟨-, hused, -⟩ := longest_alias_used _ _ hbuild hpath
  obtain ⟨-, -, hperm⟩ := longest_alias_used _ _ hfirst hpath
  have hstandIn : Alias.standIn? r.aliases "/v1/beta/x" = some "/api/next/x" := by
    rw [(standIn?_of_build hbuild).1]
    decide +kernel
  have hreversed : Alias.standIn? r'.aliases "/v1/beta/x" = some "/api/next/x" := by
    rw [hperm _ _ _ _ hbuild' (versionAliases.reverse_perm.symm.filterMap _) (by decide +kernel),
      (standIn?_of_build hfirst).1]
    decide +kernel
  obtain ⟨before, a, after, hsplit, -, -, hbefore, hfound, hredirect, -⟩ := hused _ hstandIn
  have hfront : a.front = "/v1/beta" := by
    rw [(standIn?_of_build hbuild).1] at hfound
    have hlongest : ((Alias.sort (repeatedAliases.filterMap Operation.alias?)).find? fun b =>
        (b.redirect? "/v1/beta/x").isSome) = some ⟨"/v1/beta", "/api/next"⟩ := by
      decide +kernel
    rw [Option.some.inj (hfound.symm.trans hlongest)]
  rw [hfront] at hbefore
  exact ⟨r, events, r', events', hbuild, hbuild', hstandIn,
    ⟨before, a, after, hsplit, hfront, hbefore, hredirect⟩, hreversed⟩

end Builder

end UriRouting
