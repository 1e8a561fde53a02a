import UriRouting.Proofs.Path.Canonical

/-!
# Cleaning a path

Normalization walks through a path with places and lengths in hand.  What it computes can be said
of the segments alone: it keeps a stack of them, puts an ordinary segment on it and takes the last
one off for a `..`, and what stands on the stack in the end is spelled out (`Path.standing`).  It
fails where a `..` finds the stack empty, which is where the path has had more `..` than ordinary
segments (`Path.ClimbsAbove`).  `Path.advance` is a step of the stack, and `Path.normalize_eq` says
that the walk goes through the same steps.

Two results are drawn from it.  `Path.normalize_cleans` says which paths fail, what the others are
turned into, and which are left as they are: the `Path.Clean` ones.  `Path.normalize_append` says
that the front of a path may be normalized first.
-/

namespace UriRouting.Path

/-! ## The stack of segments -/

/-- The stack after one segment more: an ordinary segment is put on it, and `..` takes the last one
off.  Empty segments and `.` leave it as it is. -/
def stacked (stack : List (List Char)) (s : List Char) : List (List Char) :=
  if s = ['.', '.'] then stack.dropLast else if Ordinary s then stack ++ [s] else stack

/-- The ordinary segments that no `..` takes back. -/
def standing (segments : List (List Char)) : List (List Char) := segments.foldl stacked []

/-- With `height` ordinary segments in front, there is a `..` with which there have been more `..`
than ordinary segments. -/
def ClimbsAbove (height : ℕ) (segments : List (List Char)) : Prop :=
  ∃ i, segments[i]? = some ['.', '.'] ∧
    height + (segments.take (i + 1)).countP (Ordinary ·) <
      (segments.take (i + 1)).count ['.', '.']

instance (height : ℕ) (segments : List (List Char)) : Decidable (ClimbsAbove height segments) :=
  decidable_of_iff (∃ i < segments.length, segments[i]? = some ['.', '.'] ∧
    height + (segments.take (i + 1)).countP (Ordinary ·) <
      (segments.take (i + 1)).count ['.', '.'])
    (exists_congr fun _ => and_iff_right_of_imp fun h => (List.getElem?_eq_some_iff.1 h.1).1)

/-- One segment more on the stack, unless it is a `..` that finds the stack empty. -/
def advance (stack : List (List Char)) (s : List Char) : Except Fault (List (List Char)) :=
  if s = ['.', '.'] ∧ stack = [] then .error .aboveRoot else .ok (stacked stack s)

section Stack

variable {stack : List (List Char)} {s : List Char}

lemma not_ordinary_parent : ¬ Ordinary ['.', '.'] := by decide

lemma stacked_parent (stack : List (List Char)) : stacked stack ['.', '.'] = stack.dropLast :=
  if_pos rfl

lemma ne_parent_of_ordinary (h : Ordinary s) : s ≠ ['.', '.'] := h.2.2.1

lemma stacked_of_ordinary (h : Ordinary s) : stacked stack s = stack ++ [s] := by
  rw [stacked, if_neg (ne_parent_of_ordinary h), if_pos h]

lemma stacked_of_silent (hparent : s ≠ ['.', '.']) (h : ¬ Ordinary s) : stacked stack s = stack := by
  rw [stacked, if_neg hparent, if_neg h]

lemma ordinary_of_mem_stacked (h : ∀ x ∈ stack, Ordinary x) : ∀ x ∈ stacked stack s, Ordinary x := by
  intro x hx
  unfold stacked at hx
  split at hx
  · exact h x (List.mem_of_mem_dropLast hx)
  · split at hx
    · next hs =>
      rcases List.mem_append.1 hx with hx | hx
      · exact h x hx
      · rwa [List.mem_singleton.1 hx]
    · exact h x hx

/-- Only ordinary segments stand. -/
lemma ordinary_of_mem_standing {segments : List (List Char)} :
    ∀ x ∈ standing segments, Ordinary x :=
  List.foldlRecOn (motive := fun stack => ∀ x ∈ stack, Ordinary x) segments stacked (by simp)
    fun _ hstack _ _ => ordinary_of_mem_stacked hstack

lemma mem_of_mem_stacked {x : List Char} (h : x ∈ stacked stack s) : x ∈ stack ∨ x = s := by
  unfold stacked at h
  split at h
  · exact .inl (List.mem_of_mem_dropLast h)
  · split at h
    · exact (List.mem_append.1 h).imp_right List.mem_singleton.1
    · exact .inl h

/-- No segment stands that the path does not have. -/
lemma mem_of_mem_standing {segments : List (List Char)} : ∀ x ∈ standing segments, x ∈ segments :=
  List.foldlRecOn (motive := fun stack => ∀ x ∈ stack, x ∈ segments) segments stacked (by simp)
    fun _ hstack s hs x hx => by
      rcases mem_of_mem_stacked hx with hx | rfl
      · exact hstack x hx
      · exact hs

lemma climbsAbove_parent (height : ℕ) (segments : List (List Char)) :
    ClimbsAbove height (['.', '.'] :: segments) ↔
      height = 0 ∨ ClimbsAbove (height - 1) segments := by
  have hcount (cs : List (List Char)) :
      (['.', '.'] :: cs).countP (Ordinary ·) = cs.countP (Ordinary ·) :=
    List.countP_cons_of_neg (by simp [not_ordinary_parent])
  rw [ClimbsAbove, ← Nat.or_exists_add_one]
  cases height with
  | zero => simp [hcount]
  | succ height =>
    simp only [List.getElem?_cons_succ, List.take_succ_cons, List.take_zero, hcount,
      List.count_cons_self, List.count_nil]
    constructor
    · rintro (⟨-, h⟩ | ⟨i, hi, h⟩)
      · omega
      · exact .inr ⟨i, hi, by omega⟩
    · rintro (h | ⟨i, hi, h⟩)
      · omega
      · exact .inr ⟨i, hi, by omega⟩

lemma climbsAbove_of_ordinary (h : Ordinary s) (height : ℕ) (segments : List (List Char)) :
    ClimbsAbove height (s :: segments) ↔ ClimbsAbove (height + 1) segments := by
  have hparent : s ≠ ['.', '.'] := ne_parent_of_ordinary h
  have hcount (cs : List (List Char)) :
      (s :: cs).countP (Ordinary ·) = cs.countP (Ordinary ·) + 1 :=
    List.countP_cons_of_pos (by simpa using h)
  rw [ClimbsAbove, ← Nat.or_exists_add_one, ClimbsAbove]
  simp only [List.getElem?_cons_zero, Option.some.injEq, hparent, false_and, false_or,
    List.getElem?_cons_succ, List.take_succ_cons, List.count_cons_of_ne hparent, hcount]
  refine exists_congr fun i => and_congr_right fun _ => ?_
  omega

lemma climbsAbove_of_silent (hparent : s ≠ ['.', '.']) (h : ¬ Ordinary s) (height : ℕ)
    (segments : List (List Char)) :
    ClimbsAbove height (s :: segments) ↔ ClimbsAbove height segments := by
  have hcount (cs : List (List Char)) :
      (s :: cs).countP (Ordinary ·) = cs.countP (Ordinary ·) :=
    List.countP_cons_of_neg (by simpa using h)
  rw [ClimbsAbove, ← Nat.or_exists_add_one, ClimbsAbove]
  simp only [List.getElem?_cons_zero, Option.some.injEq, hparent, false_and, false_or,
    List.getElem?_cons_succ, List.take_succ_cons, List.count_cons_of_ne hparent, hcount]

/-- A path climbs too far at its first segment, or behind it from the stack that is left. -/
lemma climbsAbove_cons (stack segments : List (List Char)) (s : List Char) :
    ClimbsAbove stack.length (s :: segments) ↔
      (s = ['.', '.'] ∧ stack = []) ∨ ClimbsAbove (stacked stack s).length segments := by
  by_cases hparent : s = ['.', '.']
  · rw [hparent, climbsAbove_parent, stacked_parent, List.length_dropLast, List.length_eq_zero_iff,
      and_iff_right rfl]
  · rw [or_iff_right fun h => hparent h.1]
    by_cases hs : Ordinary s
    · rw [climbsAbove_of_ordinary hs, stacked_of_ordinary hs, List.length_append,
        List.length_singleton]
    · rw [climbsAbove_of_silent hparent hs, stacked_of_silent hparent hs]

/-- The steps of the stack fail exactly if the path climbs too far, and put the segments on the
stack otherwise. -/
lemma foldlM_advance (segments stack : List (List Char)) :
    (ClimbsAbove stack.length segments → segments.foldlM advance stack = .error .aboveRoot) ∧
      (¬ ClimbsAbove stack.length segments →
        segments.foldlM advance stack = .ok (segments.foldl stacked stack)) := by
  induction segments generalizing stack with
  | nil => exact ⟨by rintro ⟨i, hi, -⟩; simp at hi, fun _ => rfl⟩
  | cons s segments ih =>
    rw [climbsAbove_cons, List.foldlM_cons, List.foldl_cons]
    by_cases hfault : s = ['.', '.'] ∧ stack = []
    · have hstep : advance stack s = .error .aboveRoot := if_pos hfault
      rw [hstep]
      exact ⟨fun _ => rfl, fun h => absurd (.inl hfault) h⟩
    · have hstep : advance stack s = .ok (stacked stack s) := if_neg hfault
      rw [hstep, or_iff_right hfault]
      exact ih (stacked stack s)

lemma standing_of_foldlM {segments stack : List (List Char)}
    (h : segments.foldlM advance [] = .ok stack) : stack = standing segments := by
  obtain ⟨hfault, hstands⟩ := foldlM_advance segments []
  by_cases hclimbs : ClimbsAbove ([] : List (List Char)).length segments
  · rw [hfault hclimbs] at h
    simp at h
  · exact Except.ok.inj (h.symm.trans (hstands hclimbs))

end Stack

/-! ## The walk and the stack -/

/-- A segment does to the trail what its text does to the stack. -/
lemma Trail.map_texts_step {s : Segment} (t : Trail) (hs : '/' ∉ s.text) :
    (t.step s).map Trail.texts = advance t.texts s.text := by
  by_cases hparent : s.text = ['.', '.']
  · have hsilent : ¬ s.isSilent = true := by simp [Segment.isSilent, hparent]
    have htake : s.isParent = true := by simp [Segment.isParent, hparent]
    obtain ⟨segments, total⟩ := t
    rw [Trail.step, if_neg hsilent, if_pos htake, advance, hparent, stacked_parent]
    cases segments with
    | nil => rfl
    | cons last above => simp [Except.map, Trail.texts]
  · have hstep : advance t.texts s.text = .ok (stacked t.texts s.text) :=
      if_neg fun h => hparent h.1
    rw [hstep]
    by_cases hordinary : Ordinary s.text
    · rw [Trail.step_of_ordinary hordinary, stacked_of_ordinary hordinary]
      simp [Except.map, Trail.texts]
    · have hsilent : s.text = [] ∨ s.text = ['.'] := by
        by_contra hnot
        rw [not_or] at hnot
        exact hordinary ⟨hnot.1, hnot.2, hparent, hs⟩
      rw [Trail.step_of_silent hsilent, stacked_of_silent hparent hordinary]
      rfl

lemma Trail.map_texts_foldlM {ss : List Segment} (t : Trail) (hss : ∀ s ∈ ss, '/' ∉ s.text) :
    (ss.foldlM Trail.step t).map Trail.texts = (ss.map Segment.text).foldlM advance t.texts := by
  induction ss generalizing t with
  | nil => rfl
  | cons s ss ih =>
    rw [List.forall_mem_cons] at hss
    rw [List.map_cons, List.foldlM_cons, List.foldlM_cons, ← Trail.map_texts_step t hss.1]
    cases t.step s with
    | error fault => rfl
    | ok t' => exact ih t' hss.2

/-- Normalization takes the segments of a path one by one to the stack, and spells out what stands
on it. -/
theorem normalize_eq (raw : String) : normalize raw =
    if raw.toList.head? = some '/' then
      ((raw.toList.splitOn '/').foldlM advance []).map fun stack => String.ofList (spell stack)
    else .error .relative := by
  cases hraw : raw.toList with
  | nil => simp [normalize, hraw, walk, Except.map]
  | cons c rest =>
    by_cases hc : c = '/'
    · subst hc
      have hsplit : ('/' :: rest).splitOn '/' = [] :: rest.splitOn '/' := by
        rw [List.splitOn_cons_eq_if_modifyHead, if_pos (beq_self_eq_true '/')]
      -- the empty segment in front of the first `/` is silent
      have hfirst : advance [] [] = .ok [] := rfl
      have hslash : ∀ s ∈ segmentsFrom 1 rest, '/' ∉ s.text := fun s hs =>
        slash_not_mem_of_mem_splitOn (text_mem_splitOn hs)
      have hrun := Trail.map_texts_foldlM Trail.root hslash
      have hroot : Trail.root.texts = [] := rfl
      rw [texts_segmentsFrom, hroot] at hrun
      rw [List.head?_cons, if_pos rfl, hsplit, List.foldlM_cons, hfirst, normalize, hraw, walk]
      change _ = ((rest.splitOn '/').foldlM advance []).map _
      rw [← hrun]
      cases (segmentsFrom 1 rest).foldlM Trail.step Trail.root with
      | error fault => rfl
      | ok t =>
        change Except.ok (String.ofList t.text) = .ok (String.ofList (spell t.texts))
        rw [Trail.text_eq_spell]
    · have hwalk : walk (c :: rest) = .error .relative := by
        unfold walk
        split
        · next heq => exact absurd (List.cons.inj heq).1 hc
        · rfl
      rw [normalize, hraw, hwalk, if_neg (by simpa using hc)]
      rfl

/-! ## Clean paths -/

/-- A path that is a `/`, or that starts with a `/`, has no empty segment, no `.` and no `..`
behind it, and does not end with a `/`. -/
def Clean (path : String) : Prop :=
  path.toList.head? = some '/' ∧ (path = "/" ∨
    (∀ s ∈ path.toList.tail.splitOn '/', s ≠ [] ∧ s ≠ ['.'] ∧ s ≠ ['.', '.']) ∧
      path.toList.getLast? ≠ some '/')

instance (path : String) : Decidable (Clean path) :=
  inferInstanceAs (Decidable (_ ∧ (_ ∨ _ ∧ _)))

/-- The clean paths are the canonical ones. -/
theorem canonical_iff_clean {path : String} : Canonical path ↔ Clean path := by
  constructor
  · intro h
    obtain ⟨segments, hsegments, rfl⟩ := canonical_iff.1 h
    cases segments with
    | nil => exact ⟨rfl, .inl rfl⟩
    | cons s ss =>
      have htext : spell (s :: ss) = '/' :: (s ++ ss.flatMap ('/' :: ·)) := by
        rw [spell_of_ne_nil (List.cons_ne_nil s ss), List.flatMap_cons, List.cons_append]
      have hsplit : (spell (s :: ss)).tail.splitOn '/' = s :: ss := by
        rw [htext, List.tail_cons]
        exact splitOn_segments (hsegments s List.mem_cons_self).2.2.2 fun x hx =>
          (hsegments x (List.mem_cons_of_mem s hx)).2.2.2
      have hslash : spell (s :: ss) ≠ ['/'] := by
        simp [htext, (hsegments s List.mem_cons_self).1]
      rw [Clean, String.toList_ofList, hsplit]
      refine ⟨by rw [htext]; rfl, .inr ⟨fun x hx => ?_, fun hlast => ?_⟩⟩
      · obtain ⟨hempty, hdot, hparent, -⟩ := hsegments x hx
        exact ⟨hempty, hdot, hparent⟩
      · -- a `/` at the end would have an empty segment behind it
        obtain ⟨front, hfront⟩ := List.getLast?_eq_some_iff.1 hlast
        have hempty : Ordinary [] :=
          h.ordinary_between hslash List.not_mem_nil (.inl rfl) hfront
        exact hempty.1 rfl
  · rintro ⟨hhead, hclean⟩
    refine canonical_iff.2 ?_
    rcases hclean with rfl | ⟨hbetween, -⟩
    · exact ⟨[], by simp, rfl⟩
    · obtain ⟨rest, hpath⟩ := List.head?_eq_some_iff.1 hhead
      obtain ⟨s, ss, hsplit, hrest, -, -⟩ := exists_segments rest
      rw [hpath, List.tail_cons] at hbetween
      refine ⟨rest.splitOn '/', fun x hx => ?_, ?_⟩
      · obtain ⟨hempty, hdot, hparent⟩ := hbetween x hx
        exact ⟨hempty, hdot, hparent, slash_not_mem_of_mem_splitOn hx⟩
      · rw [hsplit, spell_of_ne_nil (List.cons_ne_nil s ss), List.flatMap_cons, List.cons_append,
          ← hrest, ← hpath, String.ofList_toList]

/-- Normalization fails for what does not start with a `/`, and for the paths in which a `..` is one
too many for the ordinary segments before it.  Any other path is turned into the ordinary segments
that no `..` takes back, each with a `/` in front, or into a `/` if there are none.  This is a clean
path, and the clean paths are those that are left as they are. -/
theorem normalize_cleans (raw : String) :
    (normalize raw = .error .relative ↔ raw.toList.head? ≠ some '/') ∧
    (normalize raw = .error .aboveRoot ↔
      raw.toList.head? = some '/' ∧ ClimbsAbove 0 (raw.toList.splitOn '/')) ∧
    (∀ path, normalize raw = .ok path ↔ raw.toList.head? = some '/' ∧
      ¬ ClimbsAbove 0 (raw.toList.splitOn '/') ∧
      path = String.ofList (spell (standing (raw.toList.splitOn '/')))) ∧
    (∀ path, normalize raw = .ok path → Clean path) ∧
    (normalize raw = .ok raw ↔ Clean raw) := by
  have hclean : ∀ path, normalize raw = .ok path → Clean path := fun path h =>
    canonical_iff_clean.1 (canonical_of_normalize h)
  refine and_assoc.1 (and_assoc.1 ⟨?_, hclean, canonical_iff_clean⟩)
  rw [normalize_eq]
  by_cases hhead : raw.toList.head? = some '/'
  · obtain ⟨hfault, hstands⟩ := foldlM_advance (raw.toList.splitOn '/') []
    rw [if_pos hhead]
    by_cases hclimbs : ClimbsAbove 0 (raw.toList.splitOn '/')
    · rw [hfault hclimbs]
      simp [Except.map, hhead, hclimbs]
    · rw [hstands hclimbs]
      simp [Except.map, hhead, hclimbs, standing, eq_comm]
  · simp [hhead]

/-- Later segments do not make up for a `..` that was one too many, and what stands is spelled out
without the signs that say nothing. -/
theorem climbing_path_refused : normalize "/a/../../b/c" = .error .aboveRoot ∧
    normalize "/a/./b/../café//" = .ok "/a/café" ∧ Clean "/a/café" := by
  have hrefused : normalize "/a/../../b/c" = .error .aboveRoot :=
    (normalize_cleans _).2.1.2 ⟨by decide +kernel, by decide +kernel⟩
  have hcleaned : normalize "/a/./b/../café//" = .ok "/a/café" :=
    ((normalize_cleans _).2.2.1 _).2 ⟨by decide +kernel, by decide +kernel, by decide +kernel⟩
  exact ⟨hrefused, hcleaned, (normalize_cleans _).2.2.2.1 _ hcleaned⟩

/-! ## Paths put together -/

/-- A path in two parts is normalized from the stack that the first part leaves. -/
lemma normalize_append_eq {a : String} {stack : List (List Char)}
    (hhead : a.toList.head? = some '/')
    (hrun : (a.toList.splitOn '/').foldlM advance [] = .ok stack) (b : String) :
    normalize (a ++ "/" ++ b) =
      ((b.toList.splitOn '/').foldlM advance stack).map fun stack =>
        String.ofList (spell stack) := by
  have htext : (a ++ "/" ++ b).toList = a.toList ++ '/' :: b.toList := by
    simp [String.toList_append]
  have hhead' : (a.toList ++ '/' :: b.toList).head? = some '/' := by
    rw [List.head?_append, hhead]
    rfl
  rw [normalize_eq, htext, if_pos hhead', List.splitOn_append_cons_self, List.foldlM_append, hrun]
  rfl

/-- A path that is normalized starts with a `/`, and its stack is what is spelled out. -/
lemma exists_stack_of_normalize {a c : String} (h : normalize a = .ok c) :
    ∃ stack, a.toList.head? = some '/' ∧ (a.toList.splitOn '/').foldlM advance [] = .ok stack ∧
      (∀ s ∈ stack, Ordinary s) ∧ c = String.ofList (spell stack) := by
  rw [normalize_eq, Success.ite_else_error_eq_ok, Success.map_eq_ok] at h
  obtain ⟨hhead, stack, hrun, rfl⟩ := h
  refine ⟨stack, hhead, hrun, ?_, rfl⟩
  rw [standing_of_foldlM hrun]
  exact ordinary_of_mem_standing

/-- The front of a path may be normalized first: with any text behind it the path has the same
canonical form, or is refused for the same reason.  What has been normalized is left as it is. -/
theorem normalize_append {a c : String} (h : normalize a = .ok c) :
    (∀ b, normalize (a ++ "/" ++ b) = normalize (c ++ "/" ++ b)) ∧ normalize c = .ok c := by
  have hc : normalize c = .ok c := canonical_of_normalize h
  refine ⟨fun b => ?_, hc⟩
  obtain ⟨stack, hhead, hrun, hstack, htext⟩ := exists_stack_of_normalize h
  obtain ⟨stack', hhead', hrun', hstack', htext'⟩ := exists_stack_of_normalize hc
  -- both runs leave the stack that `c` spells out
  have heq : stack = stack' := by
    rw [← pieces_spell hstack, ← htext, htext', pieces_spell hstack']
  rw [normalize_append_eq hhead hrun, normalize_append_eq hhead' hrun', heq]

/-- The `..` of the second part take back segments of the first one, and one too many of them is
refused as before. -/
theorem joined_path_normalized : normalize "/a/./b//" = .ok "/a/b" ∧
    normalize ("/a/./b//" ++ "/" ++ "../c") = normalize ("/a/b" ++ "/" ++ "../c") ∧
    normalize ("/a/./b//" ++ "/" ++ "../../..") = normalize ("/a/b" ++ "/" ++ "../../..") := by
  have hfront : normalize "/a/./b//" = .ok "/a/b" := by decide +kernel
  exact ⟨hfront, (normalize_append hfront).1 "../c", (normalize_append hfront).1 "../../.."⟩

end UriRouting.Path
