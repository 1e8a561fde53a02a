import Mathlib.Tactic

/-!
# Texts and their segments

A text is cut at its slashes into segments, and is put together from them again: the first segment,
and behind it every other one with a `/` in front.  A text that starts with a `/` is therefore
`segments.flatMap ('/' :: ·)`, the form in which paths are compared here.  What stands behind a
segment is nothing or starts with a `/` (`Behind`), so a text has one first segment
(`segment_unique`) and one front of any number of segments (`flatMap_eq_append_iff`).
-/

namespace UriRouting

/-- What stands behind a segment: nothing, or more after a `/`. -/
def Behind (cs : List Char) : Prop := cs = [] ∨ ∃ rest, cs = '/' :: rest

lemma mem_of_mem_splitOn {cs s : List Char} (hs : s ∈ cs.splitOn '/') {c : Char} (hc : c ∈ s) :
    c ∈ cs := by
  induction cs generalizing s with
  | nil =>
    obtain rfl : s = [] := by simpa using hs
    simp at hc
  | cons x cs ih =>
    rw [List.splitOn_cons_eq_if_modifyHead] at hs
    split at hs
    · rcases List.mem_cons.1 hs with rfl | hs
      · simp at hc
      · exact List.mem_cons_of_mem _ (ih hs hc)
    · cases hsplit : cs.splitOn '/' with
      | nil => simp [hsplit] at hs
      | cons y ys =>
        rw [hsplit] at hs ih
        rcases List.mem_cons.1 hs with rfl | hs
        · rcases List.mem_cons.1 hc with rfl | hc
          · exact List.mem_cons_self
          · exact List.mem_cons_of_mem _ (ih List.mem_cons_self hc)
        · exact List.mem_cons_of_mem _ (ih (List.mem_cons_of_mem _ hs) hc)

lemma exists_segments (cs : List Char) : ∃ s rest, cs.splitOn '/' = s :: rest ∧
    cs = s ++ rest.flatMap ('/' :: ·) ∧ '/' ∉ s ∧ ∀ x ∈ rest, '/' ∉ x := by
  induction cs with
  | nil => exact ⟨[], [], by simp, by simp, by simp, by simp⟩
  | cons c cs ih =>
    obtain ⟨s, rest, hsplit, hcs, hs, hrest⟩ := ih
    rw [List.splitOn_cons_eq_if_modifyHead, hsplit]
    by_cases hc : c = '/'
    · refine ⟨[], s :: rest, by simp [hc], ?_, by simp, ?_⟩
      · simp [hc, hcs]
      · intro x hx
        rcases List.mem_cons.1 hx with rfl | hx
        · exact hs
        · exact hrest x hx
    · refine ⟨c :: s, rest, by simp [hc], ?_, ?_, hrest⟩
      · rw [hcs]
        rfl
      · simp [hs, Ne.symm hc]

/-- The segments of a text hold no `/`. -/
lemma slash_not_mem_of_mem_splitOn {cs s : List Char} (h : s ∈ cs.splitOn '/') : '/' ∉ s := by
  obtain ⟨first, more, hsplit, -, hfirst, hmore⟩ := exists_segments cs
  rw [hsplit] at h
  rcases List.mem_cons.1 h with rfl | h
  · exact hfirst
  · exact hmore s h

lemma behind_flatMap (rest : List (List Char)) : Behind (rest.flatMap ('/' :: ·)) := by
  cases rest with
  | nil => exact .inl rfl
  | cons s rest => exact .inr ⟨_, rfl⟩

/-- A text has one first segment. -/
lemma segment_unique {a b r r' : List Char} (ha : '/' ∉ a) (hb : '/' ∉ b) (hr : Behind r)
    (hr' : Behind r') (h : a ++ r = b ++ r') : a = b ∧ r = r' := by
  have htake : ∀ {a r : List Char}, '/' ∉ a → Behind r → (a ++ r).takeWhile (· != '/') = a := by
    intro a r ha hr
    have hall : ∀ c ∈ a, (c != '/') = true := by
      intro c hc
      have hne : c ≠ '/' := fun heq => ha (heq ▸ hc)
      simpa using hne
    rw [List.takeWhile_append_of_pos hall]
    rcases hr with rfl | ⟨rest, rfl⟩ <;> simp
  have hab : a = b := by rw [← htake ha hr, h, htake hb hr']
  rw [hab, List.append_cancel_left_eq] at h
  exact ⟨hab, h⟩

/-- A text that is put together from segments is cut into them again. -/
lemma splitOn_segments {s : List Char} {rest : List (List Char)} (hs : '/' ∉ s)
    (hrest : ∀ x ∈ rest, '/' ∉ x) : (s ++ rest.flatMap ('/' :: ·)).splitOn '/' = s :: rest := by
  obtain ⟨t, more, hsplit, htext, ht, hmore⟩ := exists_segments (s ++ rest.flatMap ('/' :: ·))
  rw [hsplit]
  clear hsplit
  induction rest generalizing s t more with
  | nil =>
    have heq : s = t ∧ ([] : List Char) = more.flatMap ('/' :: ·) :=
      segment_unique hs ht (.inl rfl) (behind_flatMap more) htext
    cases more with
    | nil => rw [heq.1]
    | cons x more => simp at heq
  | cons x rest ih =>
    obtain ⟨rfl, htail⟩ := segment_unique hs ht (behind_flatMap _) (behind_flatMap _) htext
    cases more with
    | nil => simp at htail
    | cons y more =>
      rw [List.flatMap_cons, List.flatMap_cons, List.cons_append, List.cons_append,
        List.cons.injEq] at htail
      rw [List.forall_mem_cons] at hrest hmore
      rw [ih hrest.1 hrest.2 y more htail.2 hmore.1 hmore.2]

/-- A text of segments starts with other segments, at the end of one of its own, exactly if they are
its first segments. -/
theorem flatMap_eq_append_iff {ps fs : List (List Char)} (hps : ∀ x ∈ ps, '/' ∉ x)
    (hfs : ∀ x ∈ fs, '/' ∉ x) {rest : List Char} (hrest : Behind rest) :
    ps.flatMap ('/' :: ·) = fs.flatMap ('/' :: ·) ++ rest ↔
      ∃ more, ps = fs ++ more ∧ rest = more.flatMap ('/' :: ·) := by
  constructor
  · intro h
    induction fs generalizing ps with
    | nil => exact ⟨ps, rfl, h.symm⟩
    | cons f fs ih =>
      cases ps with
      | nil => simp at h
      | cons p ps =>
        rw [List.forall_mem_cons] at hps hfs
        rw [List.flatMap_cons, List.flatMap_cons, List.cons_append, List.cons_append,
          List.cons_append, List.append_assoc, List.cons.injEq] at h
        have hbehind : Behind (fs.flatMap ('/' :: ·) ++ rest) := by
          cases fs with
          | nil => exact hrest
          | cons g fs => exact .inr ⟨_, rfl⟩
        obtain ⟨rfl, htail⟩ := segment_unique hps.1 hfs.1 (behind_flatMap ps) hbehind h.2
        obtain ⟨more, rfl, hmore⟩ := ih hps.2 hfs.2 htail
        exact ⟨more, rfl, hmore⟩
  · rintro ⟨more, rfl, rfl⟩
    rw [List.flatMap_append]

/-- What stands between two slashes of a text of segments, or behind the last one, is a segment. -/
lemma mem_of_flatMap_eq {ps : List (List Char)} (hps : ∀ x ∈ ps, '/' ∉ x)
    {front s rest : List Char} (hs : '/' ∉ s) (hrest : Behind rest)
    (h : ps.flatMap ('/' :: ·) = front ++ '/' :: (s ++ rest)) : s ∈ ps := by
  obtain ⟨f, fs, -, hfront, hf, hfs⟩ := exists_segments front
  -- the front is empty or starts with a `/`, so nothing stands before its first one
  have hempty : f = [] := by
    have hbehind : Behind (fs.flatMap ('/' :: ·) ++ '/' :: (s ++ rest)) := by
      cases fs with
      | nil => exact .inr ⟨_, rfl⟩
      | cons g fs => exact .inr ⟨_, rfl⟩
    rw [hfront, List.append_assoc] at h
    have hfirst : f = [] ∧ _ = _ := segment_unique hf List.not_mem_nil hbehind
      (behind_flatMap ps) h.symm
    exact hfirst.1
  subst hempty
  have hall : ∀ x ∈ fs ++ [s], '/' ∉ x := by
    intro x hx
    rcases List.mem_append.1 hx with hx | hx
    · exact hfs x hx
    · rwa [List.mem_singleton.1 hx]
  have hcut : ps.flatMap ('/' :: ·) = (fs ++ [s]).flatMap ('/' :: ·) ++ rest := by
    rw [h, hfront]
    simp
  obtain ⟨more, rfl, -⟩ := (flatMap_eq_append_iff hps hall hrest).1 hcut
  simp

end UriRouting
