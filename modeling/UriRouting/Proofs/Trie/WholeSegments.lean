import UriRouting.Proofs.Template.Segments
import UriRouting.Proofs.Trie.Precedence

/-!
# Routes made of whole segments

The users of a trie think of segments and the trie of bytes.  For templates that are made of whole
segments (`Template.Segmented`) the two agree: whatever routes are stored and in whatever order, a
lookup finds a route exactly if one matches the path segment by segment, and of several it finds
the one that has text at the first segment where it and another have not the same
(`RouteTrie.lookup_by_segments`).

The keys of such templates are put together from their segments (`Segment.key`).  A path that
matches the segments fits the key (`Segment.fits_key`), and of two keys that a path fits the one
that leads the other belongs to the segments that precede (`Segment.precedes_of_leads`).
-/

namespace UriRouting

open Regex

variable {H : Type}

namespace Segment

/-! ## The keys of segments -/

/-- The key of the segments behind the first one. -/
def tailKey (segments : List Segment) : List UInt8 :=
  Text.utf8 ((tailLinks segments).map Link.sign) ++ [endByte]

variable {segment : Segment} {segments : List Segment} {cs name : List Char} {ss : List (List Char)}

lemma key_text_cons (cs : List Char) (segments : List Segment) :
    key (text cs :: segments) = Text.utf8 cs ++ tailKey segments := by
  have hsign : ((text cs).links ++ tailLinks segments).map Link.sign =
      cs ++ (tailLinks segments).map Link.sign := by
    rw [List.map_append, links, List.map_map, List.append_cancel_right_eq]
    exact List.map_id cs
  rw [key, chain, hsign, Text.utf8_append, List.append_assoc, tailKey]

lemma key_hole_cons (name : List Char) (segments : List Segment) :
    key (hole name :: segments) = wildcardByte :: tailKey segments := by
  rw [key, chain, links, List.singleton_append, List.map_cons, Link.sign,
    Text.utf8_cons_of_ascii (by decide : TemplatePart.wildcard.toNat < 128)]
  rfl

lemma tailKey_nil : tailKey [] = [endByte] := rfl

lemma tailKey_cons (segment : Segment) (segments : List Segment) :
    tailKey (segment :: segments) = slashByte :: key (segment :: segments) := by
  rw [tailKey, tailLinks, List.flatMap_cons, List.cons_append, List.map_cons, Link.sign,
    Text.utf8_cons_of_ascii (by decide : '/'.toNat < 128)]
  rfl

/-! ## Paths that match fit -/

lemma Clean.not_mem_utf8 (h : (text cs).Clean) :
    wildcardByte ∉ Text.utf8 cs ∧ endByte ∉ Text.utf8 cs := by
  have hstar := Text.mem_utf8_iff (by decide : TemplatePart.wildcard.toNat < 128) cs
  have hnul := Text.mem_utf8_iff (by decide : TemplatePart.terminator.toNat < 128) cs
  exact ⟨fun hmem => h.1 (hstar.1 hmem), fun hmem => h.2 (hnul.1 hmem)⟩

/-- A segment of a path that matches fits the key of the segment, in front of what fits the rest. -/
lemma fits_cons {rest : List UInt8} (hmatch : segment.Matches cs) (hclean : segment.Clean)
    (hcs : '/' ∉ cs) (hrest : Fits (tailKey segments) rest) :
    Fits (key (segment :: segments)) (Text.utf8 cs ++ rest) := by
  cases segment with
  | text own =>
    obtain rfl : cs = own := hmatch
    rw [key_text_cons, Fits.append_iff hclean.not_mem_utf8.1 hclean.not_mem_utf8.2]
    exact hrest
  | hole name =>
    rw [key_hole_cons]
    cases segments with
    | nil =>
      rw [tailKey_nil] at hrest ⊢
      obtain rfl : rest = [] := by
        cases hrest with
        | done => rfl
        | literal _ he _ => exact absurd rfl he
      rw [List.append_nil]
      exact .last (slash_not_mem_utf8 hcs)
    | cons next segments =>
      rw [tailKey_cons] at hrest ⊢
      obtain ⟨rest, rfl, -⟩ := hrest.of_cons (by decide) (by decide)
      exact .segment (slash_not_mem_utf8 hcs) hrest

lemma fits_tailKey (h : List.Forall₂ Matches segments ss) (hclean : ∀ s ∈ segments, s.Clean)
    (hss : ∀ s ∈ ss, '/' ∉ s) : Fits (tailKey segments) (Text.utf8 (ss.flatMap ('/' :: ·))) := by
  induction h with
  | nil => exact .done
  | cons hmatch _ ih =>
    rw [List.forall_mem_cons] at hclean hss
    rw [tailKey_cons, List.flatMap_cons, List.cons_append,
      Text.utf8_cons_of_ascii (by decide : '/'.toNat < 128), Text.utf8_append]
    exact .literal (by decide) (by decide)
      (fits_cons hmatch hclean.1 hss.1 (ih hclean.2 hss.2))

/-- A path that matches segment by segment fits the key. -/
theorem fits_key (h : List.Forall₂ Matches segments (cs.splitOn '/'))
    (hclean : ∀ s ∈ segments, s.Clean) : Fits (key segments) (Text.utf8 cs) := by
  obtain ⟨s, ss, hsplit, hcs, hs, hss⟩ := exists_segments cs
  rw [hsplit] at h
  cases h with
  | cons hmatch htail =>
    rw [List.forall_mem_cons] at hclean
    rw [hcs, Text.utf8_append]
    exact fits_cons hmatch hclean.1 hs (fits_tailKey htail hclean.2 hss)

/-! ## Precedence -/

/-- At the first segment where one is text and the other a variable, the first segments have the
text.  Up to there text is equal, and the variables may have different names. -/
inductive Precedes : List Segment → List Segment → Prop
  | here {cs name : List Char} {rest rest' : List Segment} :
      Precedes (text cs :: rest) (hole name :: rest')
  | text {cs : List Char} {rest rest' : List Segment} (tail : Precedes rest rest') :
      Precedes (text cs :: rest) (text cs :: rest')
  | hole {name name' : List Char} {rest rest' : List Segment} (tail : Precedes rest rest') :
      Precedes (hole name :: rest) (hole name' :: rest')

/-- Behind segments of the same number the keys part as the rest does. -/
lemma leads_tailKey {segments' : List Segment} (h : List.Forall₂ Matches segments ss)
    (h' : List.Forall₂ Matches segments' ss)
    (hlead : Leads (tailKey segments) (tailKey segments')) :
    Leads (key segments) (key segments') := by
  cases h with
  | nil =>
    cases h' with
    | nil => exact hlead
  | cons _ _ =>
    cases h' with
    | cons _ _ =>
      rw [tailKey_cons, tailKey_cons, leads_cons_iff] at hlead
      exact hlead

/-- The key of a text does not start with a hole. -/
lemma exists_key_text (hclean : (text cs).Clean) (segments : List Segment) :
    ∃ b below, key (text cs :: segments) = b :: below ∧ b ≠ wildcardByte := by
  rw [key_text_cons]
  cases hcs : Text.utf8 cs with
  | nil =>
    cases segments with
    | nil => exact ⟨endByte, [], rfl, by decide⟩
    | cons segment segments => exact ⟨slashByte, _, tailKey_cons segment segments, by decide⟩
  | cons b bs =>
    have hb := hclean.not_mem_utf8.1
    rw [hcs, List.mem_cons, not_or] at hb
    exact ⟨b, _, rfl, Ne.symm hb.1⟩

/-- Of two lists of segments that match a path, the one whose key leads precedes. -/
theorem precedes_of_leads {segments' : List Segment} (h : List.Forall₂ Matches segments ss)
    (h' : List.Forall₂ Matches segments' ss) (hclean' : ∀ s ∈ segments', s.Clean)
    (hlead : Leads (key segments) (key segments')) : Precedes segments segments' := by
  induction h generalizing segments' with
  | nil =>
    cases h' with
    | nil =>
      rw [← List.append_nil (key []), leads_append_iff] at hlead
      obtain ⟨front, b, below, -, -, hkey, -⟩ := hlead
      simp at hkey
  | @cons segment s segments ss hmatch htail ih =>
    cases h' with
    | @cons segment' _ segments' _ hmatch' htail' =>
      rw [List.forall_mem_cons] at hclean'
      have hnext := fun hlead => ih htail' hclean'.2 (leads_tailKey htail htail' hlead)
      cases segment with
      | text own =>
        cases segment' with
        | text own' =>
          obtain rfl : s = own := hmatch
          obtain rfl : s = own' := hmatch'
          rw [key_text_cons, key_text_cons, leads_append_iff] at hlead
          exact .text (hnext hlead)
        | hole name' => exact .here
      | hole name =>
        cases segment' with
        | text own' =>
          obtain ⟨b, below, hkey, hb⟩ := exists_key_text hclean'.1 segments'
          rw [key_hole_cons, hkey] at hlead
          exact absurd (hlead.head_eq hb).symm hb
        | hole name' =>
          rw [key_hole_cons, key_hole_cons, leads_cons_iff] at hlead
          exact .hole (hnext hlead)

end Segment

/-! ## Lookups -/

namespace Template.Segmented

variable {t : Template}

/-- A template that is made of whole segments accepts what matches it segment by segment. -/
lemma isSome_capture? (h : t.Segmented) (path : String) :
    (t.capture? path).isSome ↔ t.Matches path := by
  rw [Option.isSome_iff_exists]
  constructor
  · rintro ⟨params, hparams⟩
    exact (h.capture?_eq_some_iff.1 hparams).1
  · exact fun hmatch => ⟨_, h.capture?_eq_some_iff.2 ⟨hmatch, rfl⟩⟩

/-- A path that matches a template fits its key. -/
lemma fits (h : t.Segmented) {path : String} (hmatch : t.Matches path) :
    Fits t.key (RouteTrie.bytesOf path) := by
  rw [h.key_eq]
  exact Segment.fits_key hmatch h.clean

end Template.Segmented

namespace RouteTrie

/-- In every trie of routes that are made of whole segments, a lookup hits exactly if a stored
route matches the path segment by segment.  It finds a stored route that does, with the segments
in the places of its variables, and of all stored routes that match the one whose segments
precede. -/
theorem lookup_by_segments (ms : List (Mapping H)) (hms : ∀ m ∈ ms, m.template.Segmented)
    (path : String) :
    (((ofHistory ms).lookup path).isSome ↔ ∃ m ∈ storedIn ms, m.template.Matches path) ∧
    ∀ r, (ofHistory ms).lookup path = some r →
      r.mapping ∈ storedIn ms ∧ r.mapping.template.Matches path ∧
      r.params = r.mapping.template.expectedParams path ∧
      ∀ m ∈ storedIn ms, m.template.Matches path → m ≠ r.mapping →
        Segment.Precedes r.mapping.template.segments m.template.segments := by
  have hcompiled : ∀ m ∈ ms, m.Compiled := fun m hm => (hms m hm).compiled
  have hvalid := valid_ofHistory hcompiled
  have hleaf : ∀ m, m ∈ (ofHistory ms).leaves ↔ m ∈ storedIn ms := fun m =>
    mem_leaves_ofHistory hcompiled
  have hsegmented : ∀ m ∈ storedIn ms, m.template.Segmented := fun m hm =>
    hms m (mem_of_mem_stored hm)
  have haccepts : ∀ m ∈ storedIn ms, (m.match? path).isSome ↔ m.template.Matches path := by
    intro m hm
    rw [Mapping.isSome_match?]
    exact (hsegmented m hm).isSome_capture? path
  refine ⟨⟨fun hsome => ?_, ?_⟩, fun r hr => ?_⟩
  · obtain ⟨m, hm, hacc, -⟩ := (lookup_isSome_iff hvalid path).1 hsome
    have hm := (hleaf m).1 hm
    exact ⟨m, hm, (haccepts m hm).1 hacc⟩
  · rintro ⟨m, hm, hmatch⟩
    have halong := ((hsegmented m hm).fits hmatch).aligned
    exact lookup_isSome_of_aligned hvalid ((hleaf m).2 hm) ((haccepts m hm).2 hmatch) halong
  · obtain ⟨hmem, hmatch⟩ := lookup_eq_some hr
    have hmem := (hleaf r.mapping).1 hmem
    have hcapture := (Mapping.match?_eq_some_iff.1 hmatch).2
    obtain ⟨hown, hparams⟩ := (hsegmented _ hmem).capture?_eq_some_iff.1 hcapture
    refine ⟨hmem, hown, hparams, fun m hm hother hne => ?_⟩
    have hfits : ∀ n ∈ (ofHistory ms).leaves, (n.match? path).isSome →
        Fits n.key (bytesOf path) := by
      intro n hn hacc
      have hn := (hleaf n).1 hn
      exact (hsegmented n hn).fits ((haccepts n hn).1 hacc)
    have hlead : Leads (Segment.key r.mapping.template.segments)
        (Segment.key m.template.segments) := by
      rw [← (hsegmented _ hmem).key_eq, ← (hsegmented m hm).key_eq]
      have hfirst := lookup_first hvalid hfits hr ((hleaf m).2 hm) ((haccepts m hm).2 hother)
      exact hfirst.resolve_left hne
    exact Segment.precedes_of_leads hown hother (hsegmented m hm).clean hlead

/-- A route with a variable, a route with text in its place, and one that goes on behind it. -/
def profileRoutes : List (Mapping Unit) :=
  [⟨[.get], .ofText .variable "/users/\x7bid\x7d" true (by decide +kernel), ()⟩,
    ⟨[.get], .ofText .literal "/users/me" true (by decide +kernel), ()⟩,
    ⟨[.get], .ofText .variable "/users/\x7bid\x7d/posts" true (by decide +kernel), ()⟩]

lemma segmented_profileRoutes : ∀ m ∈ profileRoutes, m.template.Segmented := by
  simp only [profileRoutes, List.forall_mem_cons, List.not_mem_nil, false_imp_iff, implies_true,
    and_true]
  refine ⟨?_, ?_, ?_⟩
  · exact .escaped (Template.compile_eq_ofText _) (by decide +kernel)
  · exact .literal (Template.compile_eq_ofText _) (by decide +kernel)
  · exact .escaped (Template.compile_eq_ofText _) (by decide +kernel)

/-- The first two routes match, and the search finds the one that has text for a variable. -/
theorem profile_found :
    (∀ m ∈ profileRoutes, m.template.Segmented) ∧
      ∃ r, (ofHistory profileRoutes).lookup "/users/me" = some r ∧ r.mapping = profileRoutes[1] ∧
        Segment.Precedes r.mapping.template.segments profileRoutes[0].template.segments := by
  refine ⟨segmented_profileRoutes, ?_⟩
  obtain ⟨hserved, hfound⟩ := lookup_by_segments profileRoutes segmented_profileRoutes "/users/me"
  have hmatch : profileRoutes[0].template.Matches "/users/me" := by decide +kernel
  obtain ⟨r, hr⟩ := Option.isSome_iff_exists.1
    (hserved.2 ⟨profileRoutes[0], by decide +kernel, hmatch⟩)
  have hmapping : r.mapping = profileRoutes[1] := by
    have hown : ((ofHistory profileRoutes).lookup "/users/me").map Match.mapping =
        some profileRoutes[1] := by decide +kernel
    rw [hr] at hown
    exact Option.some.inj hown
  obtain ⟨-, -, -, hfirst⟩ := hfound r hr
  refine ⟨r, hr, hmapping, hfirst profileRoutes[0] (by decide +kernel) hmatch ?_⟩
  rw [hmapping]
  decide +kernel

end RouteTrie

end UriRouting
