import UriRouting.Error
import UriRouting.Proofs.Success
import UriRouting.Proofs.Text.Segments

/-!
# Canonical paths

A canonical path is known by its segments.  `Path.Ordinary` are the segments that can stand in one,
and `Path.spell` writes a path with given segments down.  What normalization gives is always the
spelling of ordinary segments (`Path.exists_of_normalize`), and such a spelling is left as it is
(`Path.normalize_spell`); so the canonical paths are exactly these
(`Path.canonical_iff`), and `Path.pieces` takes their segments out again (`Path.pieces_spell`).
-/

namespace UriRouting

namespace Path

/-! ## Segments and spellings -/

/-- A segment that says something by itself, and no more than one segment. -/
def Ordinary (s : List Char) : Prop := s ≠ [] ∧ s ≠ ['.'] ∧ s ≠ ['.', '.'] ∧ '/' ∉ s

instance (s : List Char) : Decidable (Ordinary s) :=
  inferInstanceAs (Decidable (_ ∧ _))

/-- The path with the given segments. -/
def spell (segments : List (List Char)) : List Char :=
  if segments = [] then ['/'] else segments.flatMap ('/' :: ·)

/-- The pieces of a path between its slashes, without the empty ones. -/
def pieces (path : String) : List (List Char) := (path.toList.splitOn '/').filter (· ≠ [])

/-- A path that is its own canonical form. -/
def Canonical (path : String) : Prop := normalize path = .ok path

lemma spell_nil : spell [] = ['/'] := rfl

lemma spell_of_ne_nil {segments : List (List Char)} (h : segments ≠ []) :
    spell segments = segments.flatMap ('/' :: ·) := if_neg h

/-- A path starts with a `/`, and behind it stand its segments, or nothing. -/
lemma exists_spell_eq_cons {segments : List (List Char)} (h : ∀ s ∈ segments, '/' ∉ s) :
    ∃ rest, spell segments = '/' :: rest ∧
      (rest.splitOn '/').filter (· ≠ []) = segments.filter (· ≠ []) := by
  cases segments with
  | nil => exact ⟨[], rfl, by simp⟩
  | cons s segments =>
    rw [List.forall_mem_cons] at h
    refine ⟨s ++ segments.flatMap ('/' :: ·), by simp [spell], ?_⟩
    rw [splitOn_segments h.1 h.2]

/-- The segments of a path can be taken out of it again. -/
theorem pieces_spell {segments : List (List Char)} (h : ∀ s ∈ segments, Ordinary s) :
    pieces (String.ofList (spell segments)) = segments := by
  obtain ⟨rest, hspell, hrest⟩ := exists_spell_eq_cons fun s hs => (h s hs).2.2.2
  have hall : segments.filter (· ≠ []) = segments :=
    List.filter_eq_self.2 fun s hs => by simpa using (h s hs).1
  have hsplit : ('/' :: rest).splitOn '/' = [] :: rest.splitOn '/' := by
    rw [List.splitOn_cons_eq_if_modifyHead, if_pos (beq_self_eq_true '/')]
  rw [pieces, String.toList_ofList, hspell, hsplit, List.filter_cons_of_neg (by simp), hrest, hall]

/-! ## Lengths -/

lemma byteLength_append (as bs : List Char) :
    byteLength (as ++ bs) = byteLength as + byteLength bs := by
  induction as with
  | nil => simp [byteLength]
  | cons a as ih =>
    rw [List.cons_append, byteLength, byteLength, ih]
    omega

lemma byteLength_pos {cs : List Char} (h : cs ≠ []) : 0 < byteLength cs := by
  cases cs with
  | nil => exact absurd rfl h
  | cons c cs =>
    have hc := c.utf8Size_pos
    rw [byteLength]
    omega

/-! ## The walk through a path -/

/-- A walk reads the pieces between slashes. -/
lemma texts_segmentsFrom (start : ℕ) (cs : List Char) :
    (segmentsFrom start cs).map Segment.text = cs.splitOn '/' := by
  induction cs generalizing start with
  | nil => rfl
  | cons c cs ih =>
    rw [List.splitOn_cons_eq_if_modifyHead, segmentsFrom]
    by_cases hc : c = '/'
    · rw [if_pos hc, if_pos (beq_iff_eq.2 hc), List.map_cons, ih]
    · have htail := ih (start + c.utf8Size)
      rw [if_neg hc, if_neg (by simpa using hc), ← htail]
      cases hcut : segmentsFrom (start + c.utf8Size) cs with
      | nil =>
        -- a text always has a first segment
        obtain ⟨s, rest, hsplit, -, -, -⟩ := exists_segments cs
        simp [hcut, hsplit] at htail
      | cons s rest => rfl

lemma text_mem_splitOn {start : ℕ} {cs : List Char} {s : Segment} (h : s ∈ segmentsFrom start cs) :
    s.text ∈ cs.splitOn '/' := by
  rw [← texts_segmentsFrom start]
  exact List.mem_map_of_mem h

/-- The segments that stand on a trail, as texts in their order. -/
def Trail.texts (t : Trail) : List (List Char) := t.segments.reverse.map Segment.text

lemma Trail.text_eq_spell (t : Trail) : t.text = spell t.texts := by
  obtain ⟨segments, total⟩ := t
  cases segments with
  | nil => rfl
  | cons s segments =>
    have hne : (s :: segments).reverse.map Segment.text ≠ [] := by simp
    rw [Trail.texts, spell_of_ne_nil hne, Trail.text, List.flatMap_map]

namespace Trail

variable {t t' : Trail} {s : Segment} {ss : List Segment}

lemma step_of_silent (h : s.text = [] ∨ s.text = ['.']) : t.step s = .ok t := by
  rw [step, if_pos]
  rcases h with h | h <;> simp [Segment.isSilent, h]

/-- A `..` takes the last segment back, if there is one. -/
lemma step_of_parent (h : s.text = ['.', '.']) : t.step s = match t.segments with
    | [] => .error .aboveRoot
    | last :: above => .ok ⟨above, t.total - last.length⟩ := by
  have hsilent : ¬ s.isSilent = true := by simp [Segment.isSilent, h]
  have hparent : s.isParent = true := by simp [Segment.isParent, h]
  rw [step, if_neg hsilent]
  exact if_pos hparent

/-- An ordinary segment stands last after it has been read. -/
lemma step_of_ordinary (h : Ordinary s.text) :
    t.step s = .ok ⟨s :: t.segments, t.total + s.length⟩ := by
  obtain ⟨hempty, hdot, hdots, -⟩ := h
  have hsilent : ¬ s.isSilent = true := by simp [Segment.isSilent, hempty, hdot]
  have hparent : ¬ s.isParent = true := by simp [Segment.isParent, hdots]
  rw [step, if_neg hsilent, if_neg hparent]

/-- Whatever a segment without a `/` does to a trail, only ordinary segments stand on it. -/
lemma ordinary_of_step (hslash : '/' ∉ s.text) (h : t.step s = .ok t')
    (ht : ∀ x ∈ t.segments, Ordinary x.text) : ∀ x ∈ t'.segments, Ordinary x.text := by
  unfold step at h
  split at h
  · obtain rfl := Except.ok.inj h
    exact ht
  · next hsilent =>
    split at h
    · cases hsegments : t.segments with
      | nil => simp [hsegments] at h
      | cons last above =>
        simp only [hsegments, Except.ok.injEq] at h
        subst h
        intro x hx
        exact ht x (by rw [hsegments]; exact List.mem_cons_of_mem last hx)
    · next hparent =>
      obtain rfl := Except.ok.inj h
      simp only [Segment.isSilent, Bool.or_eq_true, beq_iff_eq, not_or] at hsilent
      simp only [Segment.isParent, beq_iff_eq] at hparent
      intro x hx
      rcases List.mem_cons.1 hx with rfl | hx
      · exact ⟨hsilent.1, hsilent.2, hparent, hslash⟩
      · exact ht x hx

lemma ordinary_of_foldlM (hslash : ∀ s ∈ ss, '/' ∉ s.text) (h : ss.foldlM step t = .ok t')
    (ht : ∀ x ∈ t.segments, Ordinary x.text) : ∀ x ∈ t'.segments, Ordinary x.text := by
  induction ss generalizing t with
  | nil =>
    obtain rfl : t = t' := Except.ok.inj h
    exact ht
  | cons s ss ih =>
    rw [List.foldlM_cons, Success.bind_eq_ok] at h
    obtain ⟨u, hu, h⟩ := h
    rw [List.forall_mem_cons] at hslash
    exact ih hslash.2 h (ordinary_of_step hslash.1 hu ht)

/-- Ordinary segments are all kept, and empty ones between them leave no trace. -/
lemma foldlM_of_ordinary (h : ∀ s ∈ ss, s.text = [] ∨ Ordinary s.text) (t : Trail) :
    ∃ t', ss.foldlM step t = .ok t' ∧
      t'.texts = t.texts ++ (ss.map Segment.text).filter (· ≠ []) := by
  induction ss generalizing t with
  | nil => exact ⟨t, rfl, by simp⟩
  | cons s ss ih =>
    rw [List.forall_mem_cons] at h
    rw [List.foldlM_cons]
    rcases h.1 with hempty | hordinary
    · obtain ⟨t', ht', htexts⟩ := ih h.2 t
      refine ⟨t', ?_, ?_⟩
      · rw [step_of_silent (.inl hempty)]
        exact ht'
      · rw [htexts, List.map_cons, List.filter_cons_of_neg (by simp [hempty])]
    · obtain ⟨t', ht', htexts⟩ := ih h.2 ⟨s :: t.segments, t.total + s.length⟩
      refine ⟨t', ?_, ?_⟩
      · rw [step_of_ordinary hordinary]
        exact ht'
      · rw [htexts, List.map_cons, List.filter_cons_of_pos (by simpa using hordinary.1), texts,
          List.reverse_cons, List.map_append, List.append_assoc]
        rfl

end Trail

/-! ## Canonical paths -/

/-- What normalization gives is spelled with ordinary segments. -/
theorem exists_of_normalize {raw path : String} (h : normalize raw = .ok path) :
    ∃ segments, (∀ s ∈ segments, Ordinary s) ∧ path = String.ofList (spell segments) := by
  obtain ⟨t, ht, rfl⟩ := Success.map_eq_ok.1 h
  refine ⟨t.texts, ?_, by rw [Trail.text_eq_spell]⟩
  unfold walk at ht
  split at ht
  · next rest _ =>
    have hslash : ∀ s ∈ segmentsFrom 1 rest, '/' ∉ s.text := fun s hs =>
      slash_not_mem_of_mem_splitOn (text_mem_splitOn hs)
    have hall := Trail.ordinary_of_foldlM hslash ht (by simp [Trail.root])
    intro s hs
    obtain ⟨x, hx, rfl⟩ := List.mem_map.1 hs
    exact hall x (List.mem_reverse.1 hx)
  · simp at ht

/-- Normalization leaves a path with ordinary segments as it is. -/
theorem normalize_spell {segments : List (List Char)} (h : ∀ s ∈ segments, Ordinary s) :
    normalize (String.ofList (spell segments)) = .ok (String.ofList (spell segments)) := by
  obtain ⟨rest, hspell, hrest⟩ := exists_spell_eq_cons fun s hs => (h s hs).2.2.2
  have hall : segments.filter (· ≠ []) = segments :=
    List.filter_eq_self.2 fun s hs => by simpa using (h s hs).1
  rw [hall] at hrest
  have hread : ∀ s ∈ segmentsFrom 1 rest, s.text = [] ∨ Ordinary s.text := by
    intro s hs
    have hmem : s.text ∈ rest.splitOn '/' := text_mem_splitOn hs
    by_cases hempty : s.text = []
    · exact .inl hempty
    · refine .inr (h _ ?_)
      rw [← hrest]
      exact List.mem_filter.2 ⟨hmem, by simpa using hempty⟩
  obtain ⟨t, ht, htexts⟩ := Trail.foldlM_of_ordinary hread Trail.root
  have hsegments : t.texts = segments := by
    rw [htexts, texts_segmentsFrom, hrest]
    rfl
  have hwalk : walk (spell segments) = .ok t := by
    rw [hspell]
    exact ht
  rw [normalize, String.toList_ofList, hwalk]
  show Except.ok (String.ofList t.text) = _
  rw [Trail.text_eq_spell, hsegments]

/-- A path is canonical exactly if it is spelled with ordinary segments. -/
theorem canonical_iff {path : String} : Canonical path ↔
    ∃ segments, (∀ s ∈ segments, Ordinary s) ∧ path = String.ofList (spell segments) := by
  constructor
  · exact exists_of_normalize
  · rintro ⟨segments, hsegments, rfl⟩
    exact normalize_spell hsegments

/-- A canonical path is spelled with its pieces, and they are ordinary. -/
lemma Canonical.pieces {path : String} (h : Canonical path) :
    (∀ s ∈ Path.pieces path, Ordinary s) ∧ path = String.ofList (spell (Path.pieces path)) := by
  obtain ⟨segments, hsegments, rfl⟩ := canonical_iff.1 h
  rw [pieces_spell hsegments]
  exact ⟨hsegments, rfl⟩

lemma canonical_spell {segments : List (List Char)} (h : ∀ s ∈ segments, Ordinary s) :
    Canonical (String.ofList (spell segments)) :=
  normalize_spell h

/-- Between two slashes of a canonical path, or behind the last one, stands an ordinary segment,
unless the path is nothing but a `/`. -/
lemma Canonical.ordinary_between {cs front s rest : List Char} (h : Canonical (String.ofList cs))
    (hne : cs ≠ ['/']) (hs : '/' ∉ s) (hrest : Behind rest)
    (hcs : cs = front ++ '/' :: (s ++ rest)) : Ordinary s := by
  obtain ⟨segments, hsegments, hpath⟩ := canonical_iff.1 h
  obtain rfl : cs = spell segments := by
    rw [← String.toList_ofList (l := cs), hpath, String.toList_ofList]
  have hnil : segments ≠ [] := fun hnil => hne (by rw [hnil, spell_nil])
  rw [spell_of_ne_nil hnil] at hcs
  exact hsegments s (mem_of_flatMap_eq (fun x hx => (hsegments x hx).2.2.2) hs hrest hcs)

/-- A text that starts with a `/` and has only ordinary segments is a canonical path. -/
lemma canonical_of_between {body : List Char} (h : ∀ front s rest, '/' ∉ s → Behind rest →
    '/' :: body = front ++ '/' :: (s ++ rest) → Ordinary s) :
    Canonical (String.ofList ('/' :: body)) := by
  obtain ⟨s, ss, -, hbody, hs, hss⟩ := exists_segments body
  have htext : '/' :: body = (s :: ss).flatMap ('/' :: ·) := by
    rw [hbody]
    rfl
  have hspell : '/' :: body = spell (s :: ss) := by
    rw [htext, spell_of_ne_nil (List.cons_ne_nil s ss)]
  rw [hspell]
  refine canonical_spell fun x hx => ?_
  obtain ⟨before, behind, hsplit⟩ := List.append_of_mem hx
  have hslash : '/' ∉ x := by
    rcases List.mem_cons.1 hx with rfl | hx
    · exact hs
    · exact hss x hx
  refine h (before.flatMap ('/' :: ·)) x _ hslash (behind_flatMap behind) ?_
  rw [htext, hsplit]
  simp

/-- What normalization gives is canonical. -/
lemma canonical_of_normalize {raw path : String} (h : normalize raw = .ok path) : Canonical path :=
  canonical_iff.2 (exists_of_normalize h)

end Path

/-- The canonical form of a request is a canonical path. -/
lemma canonical_of_canonicalPath {raw path : String} (h : canonicalPath raw = .ok path) :
    Path.Canonical path :=
  Path.canonical_of_normalize (Success.mapError_eq_ok.1 h)

/-- A canonical path is requested as it is. -/
lemma Path.Canonical.canonicalPath_eq {path : String} (h : Path.Canonical path) :
    canonicalPath path = .ok path :=
  Success.mapError_eq_ok.2 h

end UriRouting
