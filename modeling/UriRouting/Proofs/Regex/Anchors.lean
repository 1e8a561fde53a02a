import UriRouting.Proofs.Regex.Edits
import UriRouting.Proofs.Regex.Soundness

/-!
# Bodies between anchors

A body is put between `^` and `$` as it stands, without a group around it.  So the anchors belong to
its first and its last alternative and to no other
(`Regex.exists_alternative_of_captures?`), and the second one means what the flags at the end of the
body make of it.

`LedBy` compares what has been read of the body alone with what has been read of it behind the
first anchor: the outermost level has one piece more at its front.  No edit can reach this piece as
long as the body can be read alone.
-/

namespace UriRouting.Regex

/-! ## Reading behind a piece -/

/-- Branches and items with a piece more at the front of the first branch. -/
inductive Led (p : Piece) : List Piece → List Piece → List Piece → List Piece → Prop
  | first (items : List Piece) : Led p [] items [] (items ++ [p])
  | later (more start items : List Piece) :
      Led p (more ++ [.sequence start]) items (more ++ [.sequence (start ++ [p])]) items

namespace Led

variable {p : Piece} {branches items branches' items' : List Piece}

lemma cons (h : Led p branches items branches' items') (q : Piece) :
    Led p branches (q :: items) branches' (q :: items') := by
  cases h with
  | first => exact .first (q :: items)
  | later more start => exact .later more start (q :: items)

lemma nextBranch (h : Led p branches items branches' items') :
    Led p (.sequence items :: branches) [] (.sequence items' :: branches') [] := by
  cases h with
  | first => exact .later [] items []
  | later more start => exact .later (.sequence items :: more) start []

lemma eq_or_eq (h : Led p branches items branches' items') :
    (branches = [] ∧ branches' = [] ∧ items' = items ++ [p]) ∨
      ∃ more start, branches = more ++ [.sequence start] ∧
        branches' = more ++ [.sequence (start ++ [p])] ∧ items' = items := by
  cases h with
  | first => exact .inl ⟨rfl, rfl, rfl⟩
  | later more start => exact .inr ⟨more, start, rfl, rfl, rfl⟩

/-- The last piece is the same, and so are the pieces that it may be exchanged for. -/
lemma exists_eq_cons {q : Piece} (h : Led p branches (q :: items) branches' items') :
    ∃ before, items' = q :: before ∧ ∀ r, Led p branches (r :: items) branches' (r :: before) := by
  cases h with
  | first => exact ⟨items ++ [p], rfl, fun r => .first (r :: items)⟩
  | later more start => exact ⟨items, rfl, fun r => .later more start (r :: items)⟩

end Led

/-- What has been read with a piece more at the front of the outermost level, where no group is open
or where some are. -/
inductive LedBy (p : Piece) : ReaderState → ReaderState → Prop
  | outside {s : ReaderState} {branches items : List Piece} (hs : s.stack = [])
      (h : Led p s.branches s.items branches items) :
      LedBy p s { s with branches := branches, items := items }
  | inside {s : ReaderState} (inner : List OpenGroup) (outer : OpenGroup)
      {branches items : List Piece} (hs : s.stack = inner ++ [outer])
      (h : Led p outer.branches outer.items branches items) :
      LedBy p s { s with stack := inner ++ [{ outer with branches := branches, items := items }] }

/-- Nothing is read of an empty text. -/
lemma readAll_end (fuel : ℕ) (s : ReaderState) : readAll (fuel + 1) s [] = some s := by
  rw [readAll, Flags.skip_nil]

namespace LedBy

variable {p : Piece} {s s' t : ReaderState}

lemma flags_eq (h : LedBy p s s') : s'.flags = s.flags := by cases h <;> rfl

lemma push (h : LedBy p s s') (q : Piece) : LedBy p (s.push q) (s'.push q) := by
  cases h with
  | outside hs h => exact outside hs (h.cons q)
  | inside inner outer hs h => exact inside inner outer hs h

lemma openGroup (h : LedBy p s s') (capture : Option (ℕ × Option String)) (f : Flags) :
    LedBy p (s.openGroup capture f) (s'.openGroup capture f) := by
  cases h with
  | outside hs h =>
    obtain ⟨flags, groups, names, branches, items, stack⟩ := s
    obtain rfl : stack = [] := hs
    exact inside [] ⟨capture, flags, branches, items⟩ rfl h
  | inside inner outer hs h =>
    obtain ⟨flags, groups, names, branches, items, stack⟩ := s
    obtain rfl := hs
    exact inside (⟨capture, flags, branches, items⟩ :: inner) outer rfl h

lemma openCapture (h : LedBy p s s') {name : Option String} (ht : s.openCapture name = some t) :
    ∃ t', s'.openCapture name = some t' ∧ LedBy p t t' := by
  unfold ReaderState.openCapture at ht
  split at ht
  · simp at ht
  · next hname =>
    obtain rfl := Option.some.inj ht
    cases h with
    | outside hs h =>
      have hnamed : LedBy p
          { s with groups := s.groups + 1, names := name.toList ++ s.names } _ := outside hs h
      exact ⟨_, if_neg hname, hnamed.openGroup _ _⟩
    | inside inner outer hs h =>
      have hnamed : LedBy p
          { s with groups := s.groups + 1, names := name.toList ++ s.names } _ :=
        inside inner outer hs h
      exact ⟨_, if_neg hname, hnamed.openGroup _ _⟩

lemma closeGroup (h : LedBy p s s') (ht : s.closeGroup = some t) :
    ∃ t', s'.closeGroup = some t' ∧ LedBy p t t' := by
  cases h with
  | outside hs h => simp [ReaderState.closeGroup, hs] at ht
  | inside inner outer hs h =>
    cases inner with
    | nil =>
      simp only [ReaderState.closeGroup, hs, List.nil_append] at ht
      obtain rfl := Option.some.inj ht
      exact ⟨_, rfl, outside rfl (h.cons _)⟩
    | cons g inner =>
      simp only [ReaderState.closeGroup, hs, List.cons_append] at ht
      obtain rfl := Option.some.inj ht
      exact ⟨_, rfl, inside inner outer rfl h⟩

lemma repeatLast (h : LedBy p s s') {least : ℕ} {most : Option ℕ} {greedy : Bool}
    (ht : s.repeatLast least most greedy = some t) :
    ∃ t', s'.repeatLast least most greedy = some t' ∧ LedBy p t t' := by
  unfold ReaderState.repeatLast at ht
  split at ht
  · simp at ht
  · next q items hitems =>
    split at ht
    · next hq =>
      obtain rfl := Option.some.inj ht
      cases h with
      | outside hs h =>
        rw [hitems] at h
        obtain ⟨before, rfl, hled⟩ := h.exists_eq_cons
        exact ⟨_, if_pos hq, outside hs (hled _)⟩
      | inside inner outer hs h =>
        refine ⟨_, ?_, inside inner outer hs h⟩
        simp only [ReaderState.repeatLast, hitems, if_pos hq]
    · simp at ht

/-- An edit that can be made without the piece is the same with it. -/
theorem apply (h : LedBy p s s') {e : Edit} (ht : e.apply s = some t) :
    ∃ t', e.apply s' = some t' ∧ LedBy p t t' := by
  cases e with
  | push q =>
    obtain rfl := Option.some.inj ht
    exact ⟨_, rfl, h.push q⟩
  | setFlags f =>
    obtain rfl := Option.some.inj ht
    refine ⟨_, rfl, push ?_ .setting⟩
    cases h with
    | outside hs h => exact outside hs h
    | inside inner outer hs h => exact inside inner outer hs h
  | openGroup f =>
    obtain rfl := Option.some.inj ht
    exact ⟨_, rfl, h.openGroup none f⟩
  | openCapture name => exact h.openCapture ht
  | closeGroup => exact h.closeGroup ht
  | nextBranch =>
    obtain rfl := Option.some.inj ht
    refine ⟨_, rfl, ?_⟩
    cases h with
    | outside hs h => exact outside hs h.nextBranch
    | inside inner outer hs h => exact inside inner outer hs h
  | repeatLast least most greedy => exact h.repeatLast ht

/-- Where a body can be read alone, and does not end in verbose mode, it is read in the same way
behind the piece, and the `$` after it for itself. -/
theorem exists_readAll {fuel : ℕ} {cs : List Char} (h : LedBy p s s')
    (ht : readAll fuel s cs = some t) (hverbose : t.flags.verbose = false) :
    ∃ t', LedBy p t t' ∧ readAll (fuel + 1) s' (cs ++ ['$']) =
      some (t'.push (.leaf (.look t.flags.dollar))) := by
  induction fuel generalizing s s' cs with
  | zero => simp [readAll] at ht
  | succ fuel ih =>
    cases hskip : s.flags.skip cs with
    | nil =>
      simp only [readAll, hskip] at ht
      obtain rfl := Option.some.inj ht
      have hcs : cs = [] := by rwa [Flags.skip, if_neg (by simp [hverbose])] at hskip
      have hsign : s'.flags.skip ['$'] = ['$'] := by
        rw [Flags.skip, h.flags_eq, if_neg (by simp [hverbose])]
      refine ⟨s', h, ?_⟩
      rw [hcs, List.nil_append, readAll, hsign]
      simp only [readSign, Option.bind_some, h.flags_eq]
      exact readAll_end fuel _
    | cons c rest =>
      simp only [readAll, hskip] at ht
      obtain ⟨⟨s₁, rest₁⟩, hsign, ht⟩ := Option.bind_eq_some_iff.1 ht
      obtain ⟨e, -, happly, hmakes⟩ := exists_edit_of_readSign hsign
      have hsees : s₁.flags.Sees rest₁ := by
        by_cases hnil : rest₁ = []
        · cases fuel with
          | zero => simp [readAll] at ht
          | succ fuel =>
            simp only [hnil, readAll_end] at ht
            obtain rfl := Option.some.inj ht
            exact .inr hverbose
        · exact .inl hnil
      obtain ⟨s₁', happly', h₁⟩ := h.apply happly
      obtain ⟨t', htt', hread⟩ := ih h₁ ht
      refine ⟨t', htt', ?_⟩
      have hskip' : s'.flags.skip (cs ++ ['$']) = c :: (rest ++ ['$']) := by
        rw [h.flags_eq, Flags.skip_append (hskip ▸ .of_cons _ c rest), hskip]
        rfl
      have hsign' := hmakes hsees s' h.flags_eq
      rw [happly', Option.map_some] at hsign'
      rw [readAll, hskip']
      simp only [hsign', Option.bind_some]
      exact hread

end LedBy

/-! ## Alternatives -/

namespace Piece

lemma spans_sequence_push (ps : List Piece) (l : Look) (c d : Cursor) :
    (sequence (.leaf (.look l) :: ps)).expr.Spans c d ↔
      (sequence ps).expr.Spans c d ∧ l.holds d = true := by
  rw [expr_sequence, expr_sequence, List.reverse_cons, List.map_append, Expr.spans_catList_append]
  constructor
  · rintro ⟨e, hps, hl, rfl⟩
    exact ⟨hps, hl⟩
  · rintro ⟨hps, hl⟩
    exact ⟨d, hps, hl, rfl⟩

lemma spans_sequence_concat (ps : List Piece) (l : Look) (c d : Cursor) :
    (sequence (ps ++ [.leaf (.look l)])).expr.Spans c d ↔
      l.holds c = true ∧ (sequence ps).expr.Spans c d := by
  rw [expr_sequence, expr_sequence, List.reverse_concat, List.map_cons, Expr.spans_catList_cons]
  constructor
  · rintro ⟨e, ⟨hl, rfl⟩, hps⟩
    exact ⟨hl, hps⟩
  · rintro ⟨hl, hps⟩
    exact ⟨c, ⟨hl, rfl⟩, hps⟩

end Piece

namespace ReaderState

/-- The alternatives of the innermost open group, or of the whole text if none is open. -/
def alternatives (s : ReaderState) : List Expr :=
  (Piece.sequence s.items :: s.branches).reverse.map Piece.expr

lemma spans_body (s : ReaderState) (c d : Cursor) :
    s.body.expr.Spans c d ↔ ∃ x ∈ s.alternatives, x.Spans c d := by
  rw [body, Piece.expr_choice, Expr.spans_altList (by simp)]
  rfl

end ReaderState

/-- The alternatives with the anchors: a match of the whole is one of an alternative of the body,
and it passes the first anchor before the first alternative and the second one behind the last. -/
theorem LedBy.exists_alternative {l l' : Look} {s s' : ReaderState}
    (h : LedBy (.leaf (.look l)) s s') (hs : s.stack = []) {c d : Cursor}
    (hspans : (s'.push (.leaf (.look l'))).body.expr.Spans c d) :
    ∃ i x, s.alternatives[i]? = some x ∧ x.Spans c d ∧ (i = 0 → l.holds c = true) ∧
      (i + 1 = s.alternatives.length → l'.holds d = true) := by
  rw [ReaderState.spans_body] at hspans
  obtain ⟨x, hx, hspans⟩ := hspans
  cases h with
  | inside inner outer hstack h => simp [hstack] at hs
  | outside hstack h =>
    rcases h.eq_or_eq with ⟨hbranches, rfl, rfl⟩ | ⟨more, start, hbranches, rfl, rfl⟩
    · obtain rfl := List.mem_singleton.1 hx
      obtain ⟨hspans, hend⟩ := (Piece.spans_sequence_push _ l' c d).1 hspans
      obtain ⟨hstart, hspans⟩ := (Piece.spans_sequence_concat s.items l c d).1 hspans
      refine ⟨0, _, ?_, hspans, fun _ => hstart, fun _ => hend⟩
      rw [ReaderState.alternatives, hbranches]
      rfl
    · have halternatives : ∀ last : Piece, ∀ first : List Piece,
          (last :: (more ++ [Piece.sequence first])).reverse.map Piece.expr =
            (Piece.sequence first).expr :: (more.reverse.map Piece.expr ++ [last.expr]) := by
        intro last first
        simp
      rw [ReaderState.alternatives, hbranches, halternatives]
      simp only [ReaderState.alternatives, ReaderState.push, halternatives] at hx
      rcases List.mem_cons.1 hx with rfl | hx
      · obtain ⟨hstart, hspans⟩ := (Piece.spans_sequence_concat start l c d).1 hspans
        exact ⟨0, _, rfl, hspans, fun _ => hstart, fun hlast => by simp at hlast⟩
      · rcases List.mem_append.1 hx with hx | hx
        · obtain ⟨i, hi, hxi⟩ := List.getElem_of_mem hx
          refine ⟨i + 1, x, ?_, hspans, fun hfirst => by simp at hfirst, fun hlast => ?_⟩
          · rw [List.getElem?_cons_succ, List.getElem?_append_left hi, List.getElem?_eq_getElem hi,
              hxi]
          · rw [List.length_cons, List.length_append, List.length_singleton] at hlast
            omega
        · obtain rfl := List.mem_singleton.1 hx
          obtain ⟨hspans, hend⟩ := (Piece.spans_sequence_push _ l' c d).1 hspans
          refine ⟨more.length + 1, _, ?_, hspans, fun hfirst => by simp at hfirst, fun _ => hend⟩
          simp

/-! ## Searches -/

/-- Reading a body between anchors. -/
lemma exists_ledBy_of_ofText? {body : List Char} {x : Expr} {s : ReaderState}
    (hx : Expr.ofText? ('^' :: (body ++ ['$'])) = some x)
    (hs : readAll (body.length + 1) .start body = some s) (hverbose : s.flags.verbose = false) :
    ∃ s', LedBy (.leaf (.look .textStart)) s s' ∧ s.stack = [] ∧
      x = (s'.push (.leaf (.look s.flags.dollar))).body.expr := by
  have hfirst : LedBy (.leaf (.look .textStart)) .start
      (ReaderState.start.push (.leaf (.look .textStart))) := .outside rfl (.first [])
  obtain ⟨s', hled, hread⟩ := hfirst.exists_readAll hs hverbose
  obtain ⟨t, ht, hfinish⟩ := Option.bind_eq_some_iff.1 hx
  have hsign : readAll (('^' :: (body ++ ['$'])).length + 1) .start ('^' :: (body ++ ['$'])) =
      readAll (body.length + 1 + 1) (ReaderState.start.push (.leaf (.look .textStart)))
        (body ++ ['$']) := by
    rw [List.length_cons, List.length_append, List.length_singleton, readAll]
    rfl
  rw [hsign, hread] at ht
  obtain rfl := Option.some.inj ht
  unfold ReaderState.finish at hfinish
  split at hfinish
  · next hend =>
    rw [Bool.and_eq_true, List.isEmpty_iff] at hend
    refine ⟨s', hled, ?_, (Option.some.inj hfinish).symm⟩
    cases hled with
    | outside hstack _ => exact hstack
    | inside inner outer _ _ => simp [ReaderState.push] at hend
  · simp at hfinish

end UriRouting.Regex

namespace UriRouting

open Regex

/-- Where the search for an anchored body is successful, some alternative of the body matches a part
of the text.  It starts at the start of the text if it is the first alternative, and ends where the
second anchor lets it if it is the last one. -/
theorem Regex.exists_alternative_of_captures? {source : String} {body : List Char} {x : Expr}
    {s : ReaderState} (hx : Expr.ofText? ('^' :: (body ++ ['$'])) = some x)
    (hs : readAll (body.length + 1) .start body = some s) (hverbose : s.flags.verbose = false)
    {text : List Char} (h : ((ofExpr source x).captures? text).isSome) :
    ∃ i y front part back, s.alternatives[i]? = some y ∧ text = front ++ (part ++ back) ∧
      y.MatchesPart front part back ∧ (i = 0 → front = []) ∧
      (i + 1 = s.alternatives.length →
        s.flags.dollar.holds (.between (front ++ part) back) = true) := by
  obtain ⟨front, part, back, htext, hmatches⟩ :=
    exists_part_of_captures? (Expr.proper_of_ofText? hx).ordered h
  obtain ⟨s', hled, hstack, rfl⟩ := exists_ledBy_of_ofText? hx hs hverbose
  obtain ⟨i, y, hy, hspans, hstart, hend⟩ := hled.exists_alternative hstack hmatches
  refine ⟨i, y, front, part, back, hy, htext, hspans, fun hi => ?_, hend⟩
  simpa [Look.holds, Cursor.between] using hstart hi

/-- Where the search for an anchored body with a single alternative is successful, the body matches
the whole text, provided that it does not end in multi-line mode. -/
theorem Regex.matches_of_captures? {source : String} {body : List Char} {x y : Expr}
    {s : ReaderState} (hx : Expr.ofText? ('^' :: (body ++ ['$'])) = some x)
    (hs : readAll (body.length + 1) .start body = some s) (hy : s.finish = some y)
    (hverbose : s.flags.verbose = false) (hmulti : s.flags.multiLine = false)
    (hone : s.alternatives.length = 1) {text : List Char}
    (h : ((ofExpr source x).captures? text).isSome) : y.Matches text := by
  obtain ⟨i, z, front, part, back, hz, rfl, hmatches, hstart, hend⟩ :=
    exists_alternative_of_captures? hx hs hverbose h
  have hi : i = 0 := by
    have hlt := (List.getElem?_eq_some_iff.1 hz).1
    omega
  obtain rfl := hstart hi
  obtain rfl : back = [] := by
    have hdollar : s.flags.dollar = .textEnd := by simp [Flags.dollar, hmulti]
    have hend := hend (by rw [hi, hone])
    rw [hdollar] at hend
    simpa [Look.holds, Cursor.after, Cursor.between] using hend
  have hbody : y = s.body.expr := by
    unfold ReaderState.finish at hy
    split at hy
    · exact (Option.some.inj hy).symm
    · simp at hy
  rw [List.nil_append, List.append_nil, hbody]
  exact (s.spans_body _ _).2 ⟨z, List.mem_of_getElem? hz, hmatches⟩

end UriRouting
