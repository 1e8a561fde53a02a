import UriRouting.Alias
import UriRouting.Proofs.Path.Canonical

/-!
# Aliases by segments

An alias between canonical paths is a rewriting of segments: it covers the paths whose segments
start with those of its front, and puts the segments of its target in their place
(`Alias.redirect?_eq`).  The path that comes of it is canonical again.

Of several aliases the sorted scan takes the one that covers most segments, and the first registered
of those that cover as many.  `Alias.longest?` says this without a word about sorting, and
`Alias.standIn?_sort` that it is what the scan finds.
-/

namespace UriRouting

open UriRouting.Path

namespace Path

/-! ## Lengths of spellings -/

lemma flatMap_eq_nil_iff {segments : List (List Char)} :
    segments.flatMap ('/' :: ·) = [] ↔ segments = [] := by
  cases segments <;> simp

/-- Only the path without segments is a `/` and nothing else. -/
lemma spell_eq_slash_iff {segments : List (List Char)} (h : ∀ s ∈ segments, Ordinary s) :
    spell segments = ['/'] ↔ segments = [] := by
  cases segments with
  | nil => simp [spell]
  | cons s segments =>
    have hs : s ≠ [] := (h s List.mem_cons_self).1
    simp [spell, hs]

lemma spell_append {fs more : List (List Char)} (hfs : fs ≠ []) :
    spell (fs ++ more) = fs.flatMap ('/' :: ·) ++ more.flatMap ('/' :: ·) := by
  rw [spell_of_ne_nil (by simp [hfs]), List.flatMap_append]

/-- More segments are longer. -/
lemma byteLength_spell_lt {fs more : List (List Char)} (hmore : more ≠ [])
    (h : ∀ s ∈ more, Ordinary s) : byteLength (spell fs) < byteLength (spell (fs ++ more)) := by
  by_cases hfs : fs = []
  · subst hfs
    obtain ⟨s, more, rfl⟩ := List.exists_cons_of_ne_nil hmore
    have hs := byteLength_pos (h s List.mem_cons_self).1
    have hslash : ('/' : Char).utf8Size = 1 := rfl
    rw [List.nil_append, spell_of_ne_nil hmore, List.flatMap_cons, List.cons_append, byteLength,
      byteLength_append]
    rw [spell_nil, byteLength, byteLength]
    omega
  · have hlong : 0 < byteLength (more.flatMap ('/' :: ·)) :=
      byteLength_pos fun heq => hmore (flatMap_eq_nil_iff.1 heq)
    rw [spell_append hfs, spell_of_ne_nil hfs, byteLength_append]
    omega

end Path

namespace Alias

/-! ## What an alias does to segments -/

/-- An alias between canonical paths. -/
structure Canonical (a : Alias) : Prop where
  front : Path.Canonical a.front
  target : Path.Canonical a.target

/-- The segments of the path start with those of the front. -/
def Covers (a : Alias) (path : String) : Prop := pieces a.front <+: pieces path

instance (a : Alias) (path : String) : Decidable (a.Covers path) :=
  inferInstanceAs (Decidable (_ <+: _))

/-- The path with the segments of the target in the place of those of the front. -/
def moved (a : Alias) (path : String) : String :=
  String.ofList (spell (pieces a.target ++ (pieces path).drop (pieces a.front).length))

/-- What is left of a path after a front are the segments behind those of the front. -/
lemma rest?_spell {fs ps : List (List Char)} (hfs : ∀ s ∈ fs, Ordinary s)
    (hps : ∀ s ∈ ps, Ordinary s) : rest? (spell fs) (spell ps) =
      if fs <+: ps then some ((ps.drop fs.length).flatMap ('/' :: ·)) else none := by
  unfold rest?
  by_cases hroot : fs = []
  · subst hroot
    rw [if_pos spell_nil, if_pos List.nil_prefix, List.length_nil, List.drop_zero]
    by_cases hnil : ps = []
    · subst hnil
      rw [if_pos spell_nil]
      rfl
    · rw [if_neg fun heq => hnil ((spell_eq_slash_iff hps).1 heq), spell_of_ne_nil hnil]
  · rw [if_neg fun heq => hroot ((spell_eq_slash_iff hfs).1 heq), spell_of_ne_nil hroot]
    by_cases hfront : fs <+: ps
    · obtain ⟨more, rfl⟩ := hfront
      have hstrip : Text.stripFront (fs.flatMap ('/' :: ·)) (spell (fs ++ more)) =
          some (more.flatMap ('/' :: ·)) := Text.stripFront_eq_some_iff.2 (spell_append hroot)
      rw [hstrip, if_pos (List.prefix_append fs more), List.drop_left]
      cases more with
      | nil => rfl
      | cons s more => rfl
    · have hcut : ∀ rest, Behind rest → spell ps ≠ fs.flatMap ('/' :: ·) ++ rest := by
        intro rest hrest heq
        by_cases hnil : ps = []
        · subst hnil
          obtain ⟨f, fs, rfl⟩ := List.exists_cons_of_ne_nil hroot
          have hf : f ≠ [] := (hfs f List.mem_cons_self).1
          simp [spell, hf] at heq
        · rw [spell_of_ne_nil hnil] at heq
          obtain ⟨more, hmore, -⟩ := (flatMap_eq_append_iff (fun s hs => (hps s hs).2.2.2)
            (fun s hs => (hfs s hs).2.2.2) hrest).1 heq
          exact hfront ⟨more, hmore.symm⟩
      rw [if_neg hfront]
      split
      · next hstrip => exact absurd (Text.stripFront_eq_some_iff.1 hstrip) (hcut [] (.inl rfl))
      · next rest hstrip =>
        exact absurd (Text.stripFront_eq_some_iff.1 hstrip) (hcut _ (.inr ⟨rest, rfl⟩))
      · rfl

/-- Segments put after a target are segments of one path. -/
lemma graft_spell {ts ds : List (List Char)} (hts : ∀ s ∈ ts, Ordinary s) :
    graft (spell ts) (ds.flatMap ('/' :: ·)) = spell (ts ++ ds) := by
  unfold graft
  by_cases hroot : ts = []
  · subst hroot
    rw [if_pos spell_nil]
    simp only [flatMap_eq_nil_iff, List.nil_append, spell]
  · rw [if_neg fun heq => hroot ((spell_eq_slash_iff hts).1 heq), spell_append hroot,
      spell_of_ne_nil hroot]

/-- An alias between canonical paths moves the canonical paths that it covers, and no others. -/
theorem redirect?_eq {a : Alias} (ha : a.Canonical) {path : String} (hp : Path.Canonical path) :
    a.redirect? path = if a.Covers path then some (a.moved path) else none := by
  obtain ⟨hfs, hfront⟩ := ha.front.pieces
  obtain ⟨hts, htarget⟩ := ha.target.pieces
  obtain ⟨hps, hpath⟩ := hp.pieces
  have hrest : rest? a.front.toList path.toList = if a.Covers path then
      some (((pieces path).drop (pieces a.front).length).flatMap ('/' :: ·)) else none := by
    have hspelled := rest?_spell hfs hps
    rw [← String.toList_ofList (l := spell (pieces a.front)),
      ← String.toList_ofList (l := spell (pieces path)), ← hfront, ← hpath] at hspelled
    exact hspelled
  have htext : a.target.toList = spell (pieces a.target) := by
    conv_lhs => rw [htarget, String.toList_ofList]
  rw [redirect?, hrest]
  by_cases hcovers : a.Covers path
  · rw [if_pos hcovers, if_pos hcovers, Option.map_some, htext, graft_spell hts]
    rfl
  · rw [if_neg hcovers, if_neg hcovers, Option.map_none]

lemma canonical_moved {a : Alias} (ha : a.Canonical) {path : String} (hp : Path.Canonical path) :
    Path.Canonical (a.moved path) := by
  refine canonical_spell fun s hs => ?_
  rcases List.mem_append.1 hs with hs | hs
  · exact ha.target.pieces.1 s hs
  · exact hp.pieces.1 s (List.mem_of_mem_drop hs)

/-! ## The sorted scan -/

/-- Of the aliases that cover a path, the one whose front has most segments, and the first of those
with as many. -/
def longest? (aliases : List Alias) (path : String) : Option Alias :=
  (aliases.filter fun a => a.Covers path).argmax fun a => (pieces a.front).length

variable {a b : Alias} {aliases : List Alias}

/-- No alias stands behind a shorter one. -/
def Sorted (aliases : List Alias) : Prop := aliases.Pairwise fun a b => b.length ≤ a.length

lemma mem_insert : b ∈ insert a aliases ↔ b = a ∨ b ∈ aliases := by
  induction aliases with
  | nil => simp [insert]
  | cons c rest ih =>
    rw [insert]
    split
    · exact List.mem_cons
    · rw [List.mem_cons, List.mem_cons, ih]
      exact or_left_comm

lemma sorted_insert (h : Sorted aliases) : Sorted (insert a aliases) := by
  induction aliases with
  | nil => exact List.pairwise_singleton _ _
  | cons c rest ih =>
    obtain ⟨hc, hrest⟩ := List.pairwise_cons.1 h
    rw [insert]
    split
    · next hlt =>
      refine List.pairwise_cons.2 ⟨?_, h⟩
      intro b hb
      rcases List.mem_cons.1 hb with rfl | hb
      · exact hlt.le
      · exact (hc b hb).trans hlt.le
    · next hle =>
      refine List.pairwise_cons.2 ⟨?_, ih hrest⟩
      intro b hb
      rcases mem_insert.1 hb with rfl | hb
      · exact not_lt.1 hle
      · exact hc b hb

lemma sort_concat (aliases : List Alias) (a : Alias) :
    sort (aliases ++ [a]) = insert a (sort aliases) := by
  rw [sort, List.foldl_append]
  rfl

lemma mem_sort : b ∈ sort aliases ↔ b ∈ aliases := by
  induction aliases using List.reverseRecOn with
  | nil => exact Iff.rfl
  | append_singleton aliases a ih =>
    rw [sort_concat, mem_insert, ih, List.mem_append, List.mem_singleton]
    exact or_comm

lemma sorted_sort (aliases : List Alias) : Sorted (sort aliases) := by
  induction aliases using List.reverseRecOn with
  | nil => exact List.Pairwise.nil
  | append_singleton aliases a ih =>
    rw [sort_concat]
    exact sorted_insert ih

/-- An alias that is put into its place is found before the shorter ones and behind all others. -/
lemma find?_insert (h : Sorted aliases) (p : Alias → Bool) : (insert a aliases).find? p =
    if p a then
      match aliases.find? p with
      | none => some a
      | some c => if c.length < a.length then some a else some c
    else aliases.find? p := by
  induction aliases with
  | nil => cases hp : p a <;> simp [insert, hp]
  | cons b rest ih =>
    obtain ⟨hb, hrest⟩ := List.pairwise_cons.1 h
    rw [insert]
    split
    · next hlt =>
      cases hp : p a with
      | false => rw [List.find?_cons_of_neg (by simp [hp]), if_neg (by simp)]
      | true =>
        rw [List.find?_cons_of_pos hp, if_pos rfl]
        cases hfind : (b :: rest).find? p with
        | none => rfl
        | some c =>
          have hc : c.length ≤ b.length := by
            rcases List.mem_cons.1 (List.mem_of_find?_eq_some hfind) with rfl | hc
            · exact le_rfl
            · exact hb c hc
          exact (if_pos (hc.trans_lt hlt)).symm
    · next hle =>
      cases hpb : p b with
      | true =>
        rw [List.find?_cons_of_pos hpb, List.find?_cons_of_pos hpb]
        cases hp : p a <;> simp [hle]
      | false =>
        rw [List.find?_cons_of_neg (by simp [hpb]), List.find?_cons_of_neg (by simp [hpb]),
          ih hrest]

/-- The scan finds the first of the longest aliases, by any measure that orders the aliases in
question as their lengths do. -/
theorem find?_sort (p : Alias → Bool) (f : Alias → ℕ)
    (hf : ∀ a ∈ aliases, ∀ b ∈ aliases, p a → p b → (a.length < b.length ↔ f a < f b)) :
    (sort aliases).find? p = (aliases.filter p).argmax f := by
  induction aliases using List.reverseRecOn with
  | nil => rfl
  | append_singleton aliases a ih =>
    have hsub : ∀ b ∈ aliases, b ∈ aliases ++ [a] := fun b hb => List.mem_append_left _ hb
    have hlast : a ∈ aliases ++ [a] := List.mem_append_right _ (List.mem_singleton_self a)
    have hscan := ih fun b hb c hc => hf b (hsub b hb) c (hsub c hc)
    rw [sort_concat, find?_insert (sorted_sort aliases), hscan, List.filter_append]
    cases hp : p a with
    | false => simp [hp]
    | true =>
      rw [if_pos rfl, List.filter_cons_of_pos hp, List.filter_nil, List.argmax_concat]
      cases hmax : (aliases.filter p).argmax f with
      | none => rfl
      | some c =>
        obtain ⟨hc, hpc⟩ := List.mem_filter.1 (List.argmax_mem hmax)
        simp only [hf c (hsub c hc) a hlast hpc hp]

/-- Among the aliases that cover a path the longer front is the one with more segments. -/
lemma length_lt_iff {path : String} (ha : a.Canonical) (hb : b.Canonical) (hac : a.Covers path)
    (hbc : b.Covers path) :
    a.length < b.length ↔ (pieces a.front).length < (pieces b.front).length := by
  obtain ⟨has, hafront⟩ := ha.front.pieces
  obtain ⟨hbs, hbfront⟩ := hb.front.pieces
  have hal : a.length = byteLength (spell (pieces a.front)) := by
    conv_lhs => rw [length, hafront, String.toList_ofList]
  have hbl : b.length = byteLength (spell (pieces b.front)) := by
    conv_lhs => rw [length, hbfront, String.toList_ofList]
  rw [hal, hbl]
  -- both fronts lie along the path, so one goes on with the other
  have hstep : ∀ {fs gs : List (List Char)}, fs <+: gs → (∀ s ∈ gs, Ordinary s) →
      (fs = gs ∨ byteLength (spell fs) < byteLength (spell gs) ∧ fs.length < gs.length) := by
    rintro fs _ ⟨more, rfl⟩ hgs
    by_cases hmore : more = []
    · exact .inl (by rw [hmore, List.append_nil])
    · have hlong : byteLength (spell fs) < byteLength (spell (fs ++ more)) :=
        byteLength_spell_lt hmore fun s hs => hgs s (List.mem_append_right fs hs)
      have hcount := List.length_pos_of_ne_nil hmore
      refine .inr ⟨hlong, ?_⟩
      rw [List.length_append]
      omega
  rcases List.prefix_or_prefix_of_prefix hac hbc with h | h
  · rcases hstep h hbs with heq | ⟨hbytes, hcount⟩
    · rw [heq]
      simp
    · exact iff_of_true hbytes hcount
  · rcases hstep h has with heq | ⟨hbytes, hcount⟩
    · rw [heq]
      simp
    · exact iff_of_false (by omega) (by omega)

/-- Of the aliases in the order in which they are tried, the first that covers a path is the
longest. -/
lemma find?_sort_covers (h : ∀ a ∈ aliases, a.Canonical) (path : String) :
    ((sort aliases).find? fun a => a.Covers path) = longest? aliases path :=
  find?_sort _ _ fun a ha b hb hac hbc =>
    length_lt_iff (h a ha) (h b hb) (by simpa using hac) (by simpa using hbc)

/-- What a scan makes of a path comes from the first alias that covers it. -/
lemma standIn?_eq_find? (h : ∀ a ∈ aliases, a.Canonical) {path : String}
    (hp : Path.Canonical path) : standIn? aliases path =
      (aliases.find? fun a => a.Covers path).map fun a => a.moved path := by
  unfold standIn?
  induction aliases with
  | nil => rfl
  | cons a aliases ih =>
    rw [List.forall_mem_cons] at h
    rw [List.findSome?_cons, redirect?_eq h.1 hp]
    by_cases hcovers : a.Covers path
    · rw [if_pos hcovers, List.find?_cons_of_pos (by simpa using hcovers), Option.map_some]
    · rw [if_neg hcovers, List.find?_cons_of_neg (by simpa using hcovers)]
      exact ih h.2

/-- The aliases of a router, registered in any order, make of a path what the longest of those that
cover it makes of it. -/
theorem standIn?_sort (h : ∀ a ∈ aliases, a.Canonical) {path : String} (hp : Path.Canonical path) :
    standIn? (sort aliases) path = (longest? aliases path).map fun a => a.moved path := by
  have hsorted : ∀ a ∈ sort aliases, a.Canonical := fun a ha => h a (mem_sort.1 ha)
  rw [standIn?_eq_find? hsorted hp, find?_sort_covers h]

end Alias

end UriRouting
