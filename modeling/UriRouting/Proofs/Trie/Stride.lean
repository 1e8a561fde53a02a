import UriRouting.Proofs.Trie.Precedence
import UriRouting.Proofs.Trie.SingleRoute

/-!
# Striding along a key

A path goes along a key in more than one way if it holds a `*`, which meets a hole as if the hole
were text.  Without one there is a single way, `stride?`: text is met byte by byte, and a hole takes
what is left of a segment.

Of a path that an escaped template accepts, the key alone decides how far it strides.  Where every
hole is bare (`BareHoles`), with no text of its own segment behind it, the path gets to the end, and
it gets past no other hole (`Template.Escaped.isSome_stride?_iff`).  Where every hole ends its
segment (`WholeHoles`), the path fits the key (`Template.Escaped.fits`).
-/

namespace UriRouting

open Regex

/-! ## The way along a key -/

/-- What is left of a path behind some bytes of a key.  A hole takes what is left of a segment, also
where the path has a `*`. -/
def stride? : List UInt8 → List UInt8 → Option (List UInt8)
  | [], path => some path
  | b :: front, path =>
    if b = wildcardByte then stride? front (path.dropWhile (· != slashByte))
    else if path.headD endByte = b then stride? front path.tail
    else none

lemma headD_ne_wildcard {path : List UInt8} (h : wildcardByte ∉ path) :
    path.headD endByte ≠ wildcardByte := by
  cases path with
  | nil => decide
  | cons b path => exact fun heq => h (heq ▸ List.mem_cons_self)

section Striding

variable {run front path : List UInt8} {b : UInt8}

lemma stride?_hole (front path : List UInt8) :
    stride? (wildcardByte :: front) path = stride? front (path.dropWhile (· != slashByte)) := by
  rw [stride?, if_pos rfl]

lemma stride?_cons (h : b ≠ wildcardByte) (front path : List UInt8) :
    stride? (b :: front) path =
      if path.headD endByte = b then stride? front path.tail else none := by
  rw [stride?, if_neg h]

/-- Text in front of a key stands in front of the path as well. -/
lemma stride?_run_append (hw : wildcardByte ∉ run) (front path : List UInt8) :
    stride? (run ++ front) (run ++ path) = stride? front path := by
  induction run with
  | nil => rfl
  | cons b run ih =>
    rw [List.mem_cons, not_or] at hw
    rw [List.cons_append, stride?_cons (Ne.symm hw.1), List.cons_append, List.headD_cons,
      if_pos rfl, List.tail_cons, ih hw.2]

/-- A path that strides along a key goes along it. -/
lemma goes_of_stride (h : (stride? front path).isSome) : Goes front path := by
  induction front generalizing path with
  | nil => exact .nil
  | cons b front ih =>
    by_cases hb : b = wildcardByte
    · subst hb
      rw [stride?_hole] at h
      exact .segment (ih h)
    · rw [stride?_cons hb] at h
      split at h
      · next hhead => exact .byte hhead (ih h)
      · simp at h

/-- Without a `*` a path goes along a key in no other way. -/
lemma Goes.isSome_stride? (h : Goes front path) (hstar : wildcardByte ∉ path) :
    (stride? front path).isSome := by
  induction h with
  | nil => rfl
  | @byte b front path head tail ih =>
    have hb : b ≠ wildcardByte := head ▸ headD_ne_wildcard hstar
    rw [stride?_cons hb, if_pos head]
    exact ih fun hmem => hstar (List.mem_of_mem_tail hmem)
  | segment tail ih =>
    rw [stride?_hole]
    exact ih fun hmem => hstar ((List.dropWhile_sublist _).mem hmem)

end Striding

/-! ## What stands behind the holes of a key -/

/-- No hole has text of its own segment behind it. -/
def BareHoles (key : List UInt8) : Prop :=
  key.IsChain fun a b => a = wildcardByte → b = slashByte ∨ b = wildcardByte ∨ b = endByte

/-- Every hole ends its segment: a `/` follows, or the end. -/
def WholeHoles (key : List UInt8) : Prop :=
  key.IsChain fun a b => a = wildcardByte → b = slashByte ∨ b = endByte

instance (key : List UInt8) : Decidable (BareHoles key) := inferInstanceAs (Decidable (key.IsChain _))

instance (key : List UInt8) : Decidable (WholeHoles key) :=
  inferInstanceAs (Decidable (key.IsChain _))

section Holes

variable {run front key path rest segment : List UInt8} {b : UInt8}

lemma WholeHoles.bareHoles (h : WholeHoles key) : BareHoles key :=
  h.imp fun _ _ hb ha => (hb ha).imp_right .inr

lemma bareHoles_cons_iff (hb : b ≠ wildcardByte) : BareHoles (b :: key) ↔ BareHoles key := by
  rw [BareHoles, List.isChain_cons]
  exact and_iff_right fun _ _ heq => absurd heq hb

lemma bareHoles_run_append_iff (hw : wildcardByte ∉ run) :
    BareHoles (run ++ key) ↔ BareHoles key := by
  induction run with
  | nil => exact Iff.rfl
  | cons b run ih =>
    rw [List.mem_cons, not_or] at hw
    rw [List.cons_append, bareHoles_cons_iff (Ne.symm hw.1), ih hw.2]

lemma bareHoles_hole_cons_iff : BareHoles (wildcardByte :: b :: key) ↔
    (b = slashByte ∨ b = wildcardByte ∨ b = endByte) ∧ BareHoles (b :: key) := by
  rw [BareHoles, List.isChain_cons_cons]
  exact and_congr_left fun _ => forall_prop_of_true rfl

/-- Whether a path strides along a key does not depend on a text in front of both. -/
lemma isSome_stride?_run_iff (hw : wildcardByte ∉ run) (hfront : front <+: run ++ key)
    (hrest : ∀ below, below <+: key → ((stride? below path).isSome ↔ BareHoles below)) :
    (stride? front (run ++ path)).isSome ↔ BareHoles front := by
  rcases List.prefix_or_prefix_of_prefix hfront (List.prefix_append run key) with
    ⟨more, rfl⟩ | ⟨below, rfl⟩
  · rw [List.mem_append, not_or] at hw
    have hstride := stride?_run_append hw.1 [] (more ++ path)
    have hbare : BareHoles (front ++ []) := (bareHoles_run_append_iff hw.1).2 List.isChain_nil
    rw [List.append_nil] at hstride hbare
    rw [List.append_assoc, hstride]
    exact iff_of_true rfl hbare
  · rw [List.prefix_append_right_inj] at hfront
    rw [stride?_run_append hw, bareHoles_run_append_iff hw]
    exact hrest below hfront

/-- No path strides along text of the same segment behind a hole. -/
lemma isSome_stride?_behind_text (hb : ¬ (b = slashByte ∨ b = wildcardByte ∨ b = endByte))
    (path : List UInt8) : (stride? (wildcardByte :: b :: front) path).isSome ↔
      BareHoles (wildcardByte :: b :: front) := by
  have hhead : (path.dropWhile (· != slashByte)).headD endByte ≠ b := by
    rintro rfl
    rcases headD_dropWhile path with hq | hq
    · exact hb (.inr (.inr hq))
    · exact hb (.inl hq)
  have hw : b ≠ wildcardByte := fun heq => hb (.inr (.inl heq))
  rw [stride?_hole, stride?_cons hw, if_neg hhead, bareHoles_hole_cons_iff]
  exact iff_of_false (by simp) fun h => hb h.1

/-- The end may follow whatever another byte follows. -/
lemma WholeHoles.ended_front (h : WholeHoles (front ++ key)) :
    WholeHoles (front ++ [endByte]) := by
  rw [WholeHoles, List.isChain_append]
  refine ⟨h.left_of_append, List.isChain_singleton _, fun _ _ b hb _ => ?_⟩
  exact .inr (Option.some.inj hb).symm

/-- A whole hole takes a segment in front of what fits the rest of the key. -/
lemma Fits.hole (hs : slashByte ∉ segment) (h : Fits key rest) (hended : Ended key)
    (hwhole : WholeHoles (wildcardByte :: key)) : Fits (wildcardByte :: key) (segment ++ rest) := by
  cases key with
  | nil => cases h
  | cons b key =>
    rcases (List.isChain_cons_cons.1 hwhole).1 rfl with rfl | rfl
    · obtain ⟨rest, rfl, -⟩ := h.of_cons (by decide) (by decide)
      exact .segment hs h
    · have hkey : key = [] := by
        rcases Ended.cons_iff.1 hended with ⟨-, hnil⟩ | ⟨hne, -⟩
        · exact hnil
        · exact absurd rfl hne
      subst hkey
      cases h with
      | done =>
        rw [List.append_nil]
        exact .last hs
      | literal _ he _ => exact absurd rfl he

/-- Nothing but the end of the key stands behind the end. -/
lemma Fits.ne_end_of_cons (h : Fits (b :: key) path) (hkey : key ≠ []) : b ≠ endByte := by
  intro heq
  cases h with
  | done => exact hkey rfl
  | literal _ he _ => exact he heq
  | last _ => exact absurd heq (by decide)
  | segment _ _ => exact absurd heq (by decide)

/-- A hole that is not the last byte of a key has a `/` behind it, and so has the path behind a
segment. -/
lemma Fits.exists_segment (h : Fits (wildcardByte :: key) path) (hkey : key ≠ [endByte]) :
    ∃ segment rest below, path = segment ++ slashByte :: rest ∧ slashByte ∉ segment ∧
      key = slashByte :: below ∧ Fits (slashByte :: below) (slashByte :: rest) := by
  cases h with
  | literal hw => exact absurd rfl hw
  | last _ => exact absurd rfl hkey
  | segment within tail => exact ⟨_, _, _, rfl, within, rfl, tail⟩

/-- Behind a hole the rest of the key fits what is left behind a segment. -/
lemma Fits.behind_hole (h : Fits (wildcardByte :: key) path) :
    Fits key (path.dropWhile (· != slashByte)) := by
  cases h with
  | literal hw => exact absurd rfl hw
  | last within =>
    have hdrop := dropWhile_append_of_not_mem within []
    rw [List.append_nil] at hdrop
    rw [hdrop]
    exact .done
  | segment within tail =>
    rw [dropWhile_segment within]
    exact tail

end Holes

/-! ## Paths that a chain of links matches -/

namespace Regex.Link

variable {ls : List Link} {cs : List Char}

/-- A path that a chain matches strides along a part of the chain's key exactly if the holes of the
part are bare.  The same holds behind one more hole in front. -/
theorem isSome_stride?_of_cut (hclean : Clean ls) (h : (cut ls cs).isSome) {front : List UInt8}
    (hfront : front <+: key ls) :
    ((stride? front (Text.utf8 cs)).isSome ↔ BareHoles front) ∧
      ((stride? (wildcardByte :: front) (Text.utf8 cs)).isSome ↔
        BareHoles (wildcardByte :: front)) := by
  induction ls, cs, h using cut_induction generalizing front with
  | nil =>
    have hpart : front = [endByte] ∨ front = [] := by
      have hcases := List.prefix_concat_iff.1 (show front <+: [] ++ [endByte] from hfront)
      rwa [List.nil_append, List.prefix_nil] at hcases
    rcases hpart with rfl | rfl
    · decide
    · decide
  | char c ls cs _ _ ih =>
    obtain ⟨hw, he⟩ := hclean.not_mem_encode
    rw [key_char_cons] at hfront
    have hall : (stride? front (Text.utf8 (c :: cs))).isSome ↔ BareHoles front :=
      isSome_stride?_run_iff hw hfront fun below hbelow => (ih hclean.tail hbelow).1
    refine ⟨hall, ?_⟩
    cases front with
    | nil => exact iff_of_true rfl (List.isChain_singleton _)
    | cons b front =>
      obtain ⟨b', bs, hbytes, hslash⟩ := exists_encode c
      obtain rfl : b = b' := by
        rw [hbytes, List.cons_append, List.cons_prefix_cons] at hfront
        exact hfront.1
      by_cases hb : b = slashByte
      · obtain rfl := hslash hb
        rw [stride?_hole, dropWhile_utf8_slash, hall, bareHoles_hole_cons_iff]
        exact (and_iff_right (.inl hb)).symm
      · rw [hbytes, List.mem_cons, not_or] at hw he
        refine isSome_stride?_behind_text ?_ _
        rintro (hslash | hstar | hend)
        · exact hb hslash
        · exact hw.1 hstar.symm
        · exact he.1 hend.symm
  | hole name ls v rest _ _ hslash ih =>
    rw [key_hole_cons] at hfront
    rw [Text.utf8_append]
    have hdrop := dropWhile_append_of_not_mem (slash_not_mem_utf8 hslash) (Text.utf8 rest)
    cases front with
    | nil => exact ⟨iff_of_true rfl List.isChain_nil, iff_of_true rfl (List.isChain_singleton _)⟩
    | cons b front =>
      obtain ⟨rfl, hbelow⟩ := List.cons_prefix_cons.1 hfront
      have hrest := (ih hclean.tail hbelow).2
      rw [stride?_hole] at hrest
      rw [bareHoles_hole_cons_iff, stride?_hole, stride?_hole, stride?_hole, hdrop,
        List.dropWhile_idempotent, hrest]
      exact ⟨Iff.rfl, (and_iff_right (.inr (.inl rfl))).symm⟩

/-- A path that a chain matches fits the chain's key, if its holes are whole. -/
theorem fits_of_cut (hclean : Clean ls) (hwhole : WholeHoles (key ls)) (h : (cut ls cs).isSome) :
    Fits (key ls) (Text.utf8 cs) := by
  induction ls, cs, h using cut_induction with
  | nil => exact .done
  | char c ls cs _ _ ih =>
    obtain ⟨hw, he⟩ := hclean.not_mem_encode
    rw [key_char_cons] at hwhole ⊢
    rw [Text.utf8_cons, Fits.append_iff hw he]
    exact ih hclean.tail hwhole.right_of_append
  | hole name ls v rest _ _ hslash ih =>
    rw [key_hole_cons] at hwhole ⊢
    rw [Text.utf8_append]
    have hrest := ih hclean.tail hwhole.tail
    exact hrest.hole (slash_not_mem_utf8 hslash) (ended_key hclean.tail) hwhole

end Regex.Link

/-! ## Escaped templates -/

namespace Template

open TemplatePart

/-- A variable template whose text is escaped, with names that a group can have. -/
def Escaped (t : Template) : Prop :=
  ∃ text parts, variableTemplate text true = .ok t ∧ variableParts t.path.toList = .ok parts ∧
    ∀ name, .hole name ∈ parts → '>' ∉ name

namespace Escaped

variable {t : Template} {path : String}

lemma compiled (h : t.Escaped) : t.Compiled := by
  obtain ⟨text, -, htemplate, -, -⟩ := h
  exact ⟨.variable, text, true, htemplate⟩

lemma ofText {text path : String} {parts : List TemplatePart}
    (h : (compile .variable text true).toOption.isSome) (hpath : canonicalPath text = .ok path)
    (hparts : variableParts path.toList = .ok parts)
    (hnames : ∀ name, .hole name ∈ parts → '>' ∉ name) :
    (Template.ofText .variable text true h).Escaped := by
  have htemplate : variableTemplate text true = .ok (Template.ofText .variable text true h) :=
    compile_eq_ofText h
  refine ⟨text, parts, htemplate, ?_, hnames⟩
  obtain ⟨path', hpath', -, _, -, _, -, heq⟩ := variableTemplate_eq_ok.1 htemplate
  obtain rfl : path = path' := Except.ok.inj (hpath.symm.trans hpath')
  rw [heq]
  exact hparts

/-- What an escaped template accepts is what the chain of its links matches, which also makes its
key. -/
lemma exists_chain (h : t.Escaped) : ∃ ls, Link.Clean ls ∧ t.key = Link.key ls ∧
    (∀ c, .char c ∈ ls → c ∈ t.path.toList) ∧
    ∀ path, (t.capture? path).isSome = (Link.cut ls path.toList).isSome := by
  obtain ⟨text, parts, htemplate, hparts, hnames⟩ := h
  obtain ⟨hclean, hkey, hspelling⟩ := links_of_variableTemplate htemplate hparts
  refine ⟨links parts, hclean, hkey, fun c hc => ?_, fun path => ?_⟩
  · rw [← hspelling, List.mem_flatMap]
    exact ⟨.char c, hc, List.mem_singleton_self c⟩
  · rw [capture?_of_escaped htemplate hparts hnames, Option.isSome_map]

/-- A path that is accepted fits the key, if every hole ends its segment. -/
lemma fits (h : t.Escaped) (hacc : (t.capture? path).isSome) (hwhole : WholeHoles t.key) :
    Fits t.key (RouteTrie.bytesOf path) := by
  obtain ⟨ls, hclean, hkey, -, haccepts⟩ := h.exists_chain
  rw [haccepts] at hacc
  rw [hkey] at hwhole ⊢
  exact Link.fits_of_cut hclean hwhole hacc

/-- A path that is accepted strides along a part of the key exactly if the holes of the part have no
text of their segment behind them. -/
lemma isSome_stride?_iff (h : t.Escaped) (hacc : (t.capture? path).isSome) {front : List UInt8}
    (hfront : front <+: t.key) :
    (stride? front (RouteTrie.bytesOf path)).isSome ↔ BareHoles front := by
  obtain ⟨ls, hclean, hkey, -, haccepts⟩ := h.exists_chain
  rw [haccepts] at hacc
  rw [hkey] at hfront
  exact (Link.isSome_stride?_of_cut hclean hacc hfront).1

end Escaped

end Template

end UriRouting
