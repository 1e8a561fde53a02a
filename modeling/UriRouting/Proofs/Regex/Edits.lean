import UriRouting.Proofs.Regex.Locality
import UriRouting.Proofs.Regex.Reading

/-!
# What signs do to what has been read

Every sign that the reader takes edits what has been read in one of a few ways (`Edit`), and which
one depends on the text and on the flags alone.  `exists_edit_of_readSign` says so, and that the
same edit is made in front of a `$` more.  What holds of a whole reading then takes one case for
each kind of edit: here, that the bounds of all repetitions are in order and that no name of a
group has a `>` (`Expr.proper_of_ofText?`).
-/

namespace UriRouting.Regex

/-! ## Expressions as they are read -/

namespace Expr

/-- An expression as it can be read: the bounds of every repetition are in order, and no name of a
group has a `>`, which would have ended it. -/
def Proper : Expr → Prop
  | empty => True
  | item _ => True
  | look _ => True
  | cat x y => x.Proper ∧ y.Proper
  | alt x y => x.Proper ∧ y.Proper
  | group _ name x => (∀ n ∈ name, '>' ∉ n.toList) ∧ x.Proper
  | enclosed x => x.Proper
  | rep least most _ x => (∀ m ∈ most, least ≤ m) ∧ x.Proper

lemma proper_catList {xs : List Expr} (h : ∀ x ∈ xs, x.Proper) : (catList xs).Proper := by
  induction xs with
  | nil => trivial
  | cons x xs ih =>
    rw [List.forall_mem_cons] at h
    cases xs with
    | nil => exact h.1
    | cons y ys => exact ⟨h.1, ih h.2⟩

lemma proper_altList {xs : List Expr} (h : ∀ x ∈ xs, x.Proper) : (altList xs).Proper := by
  induction xs with
  | nil => trivial
  | cons x xs ih =>
    rw [List.forall_mem_cons] at h
    cases xs with
    | nil => exact h.1
    | cons y ys => exact ⟨h.1, ih h.2⟩

lemma Proper.ordered {x : Expr} (h : x.Proper) : x.Ordered := by
  induction x with
  | empty => trivial
  | item a => trivial
  | look l => trivial
  | cat x y ihx ihy => exact ⟨ihx h.1, ihy h.2⟩
  | alt x y ihx ihy => exact ⟨ihx h.1, ihy h.2⟩
  | group index name x ih => exact ih h.2
  | enclosed x ih => exact ih h
  | rep least most greedy x ih => exact ⟨h.1, ih h.2⟩

/-- The names of all groups are without a `>`. -/
lemma Proper.not_mem_name {x : Expr} (h : x.Proper) :
    ∀ g ∈ x.groups, ∀ n ∈ g.2, '>' ∉ n.toList := by
  induction x with
  | empty => simp [groups]
  | item a => simp [groups]
  | look l => simp [groups]
  | cat x y ihx ihy => exact List.forall_mem_append.2 ⟨ihx h.1, ihy h.2⟩
  | alt x y ihx ihy => exact List.forall_mem_append.2 ⟨ihx h.1, ihy h.2⟩
  | group index name x ih => exact List.forall_mem_cons.2 ⟨h.1, ih h.2⟩
  | enclosed x ih => exact ih h
  | rep least most greedy x ih =>
    rw [groups]
    split
    · simp
    · exact ih h.2

end Expr

/-! ## Edits -/

/-- What a sign does to what has been read. -/
inductive Edit where
  | push (p : Piece)
  | setFlags (f : Flags)
  | openGroup (f : Flags)
  | openCapture (name : Option String)
  | closeGroup
  | nextBranch
  | repeatLast (least : ℕ) (most : Option ℕ) (greedy : Bool)

namespace Edit

/-- Edit what has been read.  There may be no group to close, no piece to repeat, or a group of the
same name. -/
def apply (s : ReaderState) : Edit → Option ReaderState
  | push p => some (s.push p)
  | setFlags f => some ({ s with flags := f }.push .setting)
  | openGroup f => some (s.openGroup none f)
  | openCapture name => s.openCapture name
  | closeGroup => s.closeGroup
  | nextBranch => some s.nextBranch
  | repeatLast least most greedy => s.repeatLast least most greedy

/-- What an edit brings in is as it can be read. -/
def Proper : Edit → Prop
  | push p => p.expr.Proper
  | openCapture name => ∀ n ∈ name, '>' ∉ n.toList
  | repeatLast least most _ => ∀ m ∈ most, least ≤ m
  | _ => True

end Edit

/-- A sign with what belongs to it makes an edit, and makes it under the same flags wherever else it
stands, also in front of a `$` more. -/
def Makes (f : Flags) (read : ReaderState → List Char → Option (ReaderState × List Char))
    (cs rest : List Char) (e : Edit) : Prop :=
  ∀ s : ReaderState, s.flags = f →
    read s (cs ++ ['$']) = (e.apply s).map fun t => (t, rest ++ ['$'])

section

variable {s t : ReaderState} {cs rest : List Char}

lemma flags_openCapture {name : Option String} (h : s.openCapture name = some t) :
    t.flags = s.flags := by
  unfold ReaderState.openCapture at h
  split at h
  · simp at h
  · rw [← Option.some.inj h]
    rfl

lemma flags_repeatLast {least : ℕ} {most : Option ℕ} {greedy : Bool}
    (h : s.repeatLast least most greedy = some t) : t.flags = s.flags := by
  unfold ReaderState.repeatLast at h
  split at h
  · simp at h
  · split at h
    · rw [← Option.some.inj h]
    · simp at h

/-- A group that captures is opened in the same way wherever its name is new. -/
lemma map_openCapture (s : ReaderState) (name : Option String) (rest : List Char) :
    ((s.openCapture name).bind fun t => some (t, rest)) =
      ((Edit.openCapture name).apply s).map fun t => (t, rest) := by
  rw [Option.map_eq_bind]
  rfl

/-- The name of a group ends at the first `>`. -/
lemma not_mem_of_readGroupName {read : List Char} {r : String × List Char} (hread : '>' ∉ read)
    (h : readGroupName read cs = some r) : '>' ∉ r.1.toList := by
  induction cs generalizing read with
  | nil => simp [readGroupName] at h
  | cons c cs ih =>
    rw [readGroupName] at h
    split at h
    · split at h
      · simp at h
      · rw [← Option.some.inj h, String.toList_ofList, List.mem_reverse]
        exact hread
    · next hc =>
      have hread' : '>' ∉ c :: read := List.not_mem_cons_of_ne_of_not_mem (Ne.symm hc) hread
      split at h
      · exact ih hread' h
      · split at h
        · exact ih hread' h
        · simp at h

/-- A name is read in the same way in front of a `$` more, and the group is opened under it. -/
lemma exists_name_of_bind {more : List Char}
    (h : ((readGroupName [] more).bind fun r =>
      (s.openCapture (some r.1)).bind fun t => some (t, r.2)) = some (t, rest)) :
    ∃ name, '>' ∉ name.toList ∧ s.openCapture (some name) = some t ∧ ∀ s' : ReaderState,
      ((readGroupName [] (more ++ ['$'])).bind fun r =>
        (s'.openCapture (some r.1)).bind fun t => some (t, r.2)) =
      ((Edit.openCapture (some name)).apply s').map fun t => (t, rest ++ ['$']) := by
  obtain ⟨⟨name, behind⟩, hname, h⟩ := Option.bind_eq_some_iff.1 h
  obtain ⟨t', ht, h⟩ := Option.bind_eq_some_iff.1 h
  obtain ⟨rfl, rfl⟩ := Prod.mk.inj (Option.some.inj h)
  refine ⟨name, not_mem_of_readGroupName List.not_mem_nil hname, ht, fun s' => ?_⟩
  rw [readGroupName_append hname]
  exact map_openCapture s' _ _

lemma exists_edit_of_readGroup (h : readGroup s cs = some (t, rest)) :
    ∃ e : Edit, e.Proper ∧ e.apply s = some t ∧
      (t.flags.Sees rest → Makes s.flags readGroup cs rest e) := by
  have hskip (hrest : t.flags.Sees rest) : s.flags.Sees (s.flags.skip cs) := by
    by_cases hnil : s.flags.skip cs = []
    · simp only [readGroup, hnil] at h
      obtain ⟨t', ht, h⟩ := Option.bind_eq_some_iff.1 h
      obtain ⟨rfl, rfl⟩ := Prod.mk.inj (Option.some.inj h)
      rwa [hnil, ← flags_openCapture ht]
    · exact .inl hnil
  unfold readGroup at h
  split at h
  iterate 4 simp at h
  -- a group with a name, in either spelling
  · next rest' heq =>
    obtain ⟨name, hplain, ht, hname⟩ := exists_name_of_bind h
    refine ⟨.openCapture (some name), by simpa [Edit.Proper] using hplain, ht,
      fun hrest s' hs' => ?_⟩
    unfold readGroup
    rw [hs', Flags.skip_append (hskip hrest), heq]
    exact hname s'
  · next rest' hequal hbang heq =>
    obtain ⟨name, hplain, ht, hname⟩ := exists_name_of_bind h
    refine ⟨.openCapture (some name), by simpa [Edit.Proper] using hplain, ht,
      fun hrest s' hs' => ?_⟩
    have hequal' := append_ne_cons (by decide) hequal
    have hbang' := append_ne_cons (by decide) hbang
    unfold readGroup
    rw [hs', Flags.skip_append (hskip hrest), heq]
    simp only [List.cons_append]
    exact hname s'
  -- flags, for a group or for what follows
  · next rest' hequal hbang hangle hangle' hname hangle'' heq =>
    have hequal := append_ne_cons (by decide) hequal
    have hbang := append_ne_cons (by decide) hbang
    have hangle := append_ne_cons_cons (by decide) (by decide) hangle
    have hangle' := append_ne_cons_cons (by decide) (by decide) hangle'
    have hname := append_ne_cons_cons (by decide) (by decide) hname
    have hangle'' := append_ne_cons (by decide) hangle''
    cases hitems : Flags.readItems [] rest' with
    | none => simp [hitems] at h
    | some r =>
      obtain ⟨items, c, behind⟩ := r
      have hitems' := Flags.readItems_append hitems
      simp only [hitems] at h
      split at h
      · next heq' =>
        cases heq'
        obtain ⟨rfl, rfl⟩ := Prod.mk.inj (Option.some.inj h)
        refine ⟨.openGroup (s.flags.apply true items), trivial, rfl, fun hrest s' hs' => ?_⟩
        unfold readGroup
        rw [hs', Flags.skip_append (hskip hrest), heq]
        simp only [List.cons_append, hitems']
        rfl
      · simp at h
      · next hnil hcolon heq' =>
        cases heq'
        obtain ⟨rfl, rfl⟩ := Prod.mk.inj (Option.some.inj h)
        refine ⟨.setFlags (s.flags.apply true items), trivial, rfl, fun hrest s' hs' => ?_⟩
        unfold readGroup
        rw [hs', Flags.skip_append (hskip hrest), heq]
        simp only [List.cons_append, hitems']
        rfl
      · simp at h
  -- a group without a name
  · next hequal hbang hangle hangle' hname hangle'' hquestion =>
    obtain ⟨t', ht, h⟩ := Option.bind_eq_some_iff.1 h
    obtain ⟨rfl, rfl⟩ := Prod.mk.inj (Option.some.inj h)
    refine ⟨.openCapture none, by simp [Edit.Proper], ht, fun hrest s' hs' => ?_⟩
    have hquestion := append_ne_cons (by decide) hquestion
    unfold readGroup
    rw [hs', Flags.skip_append (hskip hrest)]
    split
    iterate 7 next heq => exact absurd heq (hquestion _)
    exact map_openCapture s' _ _

lemma proper_of_literal {f : Flags} {c : Char} {octet : Bool} {x : Expr}
    (h : f.literal c octet = some x) : x.Proper := by
  unfold Flags.literal at h
  split at h
  · simp at h
  · rw [← Option.some.inj h]
    trivial

lemma proper_of_dot {f : Flags} {x : Expr} (h : f.dot = some x) : x.Proper := by
  unfold Flags.dot at h
  split_ifs at h
  all_goals
    rw [← Option.some.inj h]
    trivial

lemma proper_of_expr? {f : Flags} {a : Atom} {x : Expr} (h : a.expr? f = some x) : x.Proper := by
  cases a with
  | char c octet => exact proper_of_literal h
  | cls a =>
    rw [← Option.some.inj h]
    trivial
  | look l =>
    rw [← Option.some.inj h]
    trivial

lemma le_of_readBounds {f : Flags} {least : ℕ} {most : Option ℕ}
    (h : readBounds f cs = some ((least, most), rest)) : ∀ m ∈ most, least ≤ m := by
  obtain ⟨⟨least, behind⟩, -, h⟩ := Option.bind_eq_some_iff.1 h
  simp only at h
  split at h
  · cases h
    rintro m ⟨⟩
    exact le_rfl
  · split at h
    · cases h
      rintro m ⟨⟩
    · obtain ⟨⟨most, behind⟩, -, h⟩ := Option.bind_eq_some_iff.1 h
      simp only at h
      split at h
      · split at h
        · next hle =>
          cases h
          rintro m ⟨⟩
          exact hle
        · simp at h
      · simp at h
  · simp at h

/-- A sign of repetition may have a question mark behind it, but no `$` is one. -/
lemma exists_edit_of_repeatLast {least : ℕ} {most : Option ℕ} (hle : ∀ m ∈ most, least ≤ m)
    (h : ((s.repeatLast least most (readGreed cs).1).map fun t => (t, (readGreed cs).2)) =
      some (t, rest)) :
    ∃ e : Edit, e.Proper ∧ e.apply s = some t ∧
      Makes s.flags (fun s cs => (s.repeatLast least most (readGreed cs).1).map fun t =>
        (t, (readGreed cs).2)) cs rest e := by
  obtain ⟨t', ht, h⟩ := Option.map_eq_some_iff.1 h
  obtain ⟨rfl, rfl⟩ := Prod.mk.inj h
  refine ⟨.repeatLast least most (readGreed cs).1, hle, ht, fun s' _ => ?_⟩
  simp only [readGreed_append]
  rfl

lemma readSign_brace (s : ReaderState) (cs : List Char) :
    readSign s '\x7b' cs = (readBounds s.flags cs).bind fun r =>
      (s.repeatLast r.1.1 r.1.2 (readGreed (s.flags.skip r.2)).1).bind fun t =>
        some (t, (readGreed (s.flags.skip r.2)).2) :=
  rfl

lemma readSign_escape (s : ReaderState) (cs : List Char) :
    readSign s '\\' cs = (readEscape s.flags cs).bind fun r =>
      (r.1.expr? s.flags).bind fun x => some (s.push (.leaf x), r.2) :=
  rfl

/-- Every sign makes an edit. -/
theorem exists_edit_of_readSign {c : Char} (h : readSign s c cs = some (t, rest)) :
    ∃ e : Edit, e.Proper ∧ e.apply s = some t ∧
      (t.flags.Sees rest → Makes s.flags (fun s cs => readSign s c cs) cs rest e) := by
  unfold readSign at h
  split at h
  · exact exists_edit_of_readGroup h
  · obtain ⟨t', ht, h⟩ := Option.map_eq_some_iff.1 h
    obtain ⟨rfl, rfl⟩ := Prod.mk.inj h
    exact ⟨.closeGroup, trivial, ht, fun _ s' _ => rfl⟩
  · obtain ⟨rfl, rfl⟩ := Prod.mk.inj (Option.some.inj h)
    exact ⟨.nextBranch, trivial, rfl, fun _ s' _ => rfl⟩
  · obtain ⟨⟨p, rest'⟩, hp, h⟩ := Option.map_eq_some_iff.1 h
    obtain ⟨rfl, rfl⟩ := Prod.mk.inj h
    refine ⟨.push ⟨.item p.cls, p.depth, true⟩, trivial, rfl, fun _ s' hs' => ?_⟩
    change (readBracket s'.flags (cs ++ ['$'])).map _ = _
    rw [hs', readBracket_append hp]
    rfl
  · obtain ⟨e, he, ht, hmakes⟩ := exists_edit_of_repeatLast (by simp) h
    exact ⟨e, he, ht, fun _ => hmakes⟩
  · obtain ⟨e, he, ht, hmakes⟩ := exists_edit_of_repeatLast (by simp) h
    exact ⟨e, he, ht, fun _ => hmakes⟩
  · obtain ⟨e, he, ht, hmakes⟩ := exists_edit_of_repeatLast (by simp) h
    exact ⟨e, he, ht, fun _ => hmakes⟩
  · change readSign s '\x7b' cs = _ at h
    rw [readSign_brace] at h
    obtain ⟨⟨⟨least, most⟩, behind⟩, hbounds, h⟩ := Option.bind_eq_some_iff.1 h
    obtain ⟨t', ht, h⟩ := Option.bind_eq_some_iff.1 h
    obtain ⟨rfl, rfl⟩ := Prod.mk.inj (Option.some.inj h)
    refine ⟨.repeatLast least most _, le_of_readBounds hbounds, ht, fun hrest s' hs' => ?_⟩
    have hskip : s.flags.Sees (s.flags.skip behind) := by
      rw [← flags_repeatLast ht]
      refine hrest.of_imp fun hnil => ?_
      rw [flags_repeatLast ht] at hnil
      rw [hnil]
      rfl
    simp only [readSign_brace, hs', readBounds_append hbounds, Option.bind_some,
      Flags.skip_append hskip]
    rw [Option.map_eq_bind, readGreed_append]
    rfl
  · change readSign s '\\' cs = _ at h
    rw [readSign_escape] at h
    obtain ⟨⟨a, behind⟩, ha, h⟩ := Option.bind_eq_some_iff.1 h
    obtain ⟨x, hx, h⟩ := Option.bind_eq_some_iff.1 h
    obtain ⟨rfl, rfl⟩ := Prod.mk.inj (Option.some.inj h)
    refine ⟨.push (.leaf x), proper_of_expr? hx, rfl, fun hrest s' hs' => ?_⟩
    have hrest : s.flags.Sees behind := hrest
    simp only [readSign_escape, hs', readEscape_append hrest ha, Option.bind_some, hx]
    rfl
  · obtain ⟨x, hx, h⟩ := Option.map_eq_some_iff.1 h
    obtain ⟨rfl, rfl⟩ := Prod.mk.inj h
    refine ⟨.push (.leaf x), proper_of_dot hx, rfl, fun _ s' hs' => ?_⟩
    simp only [readSign, hs', hx]
    rfl
  · obtain ⟨rfl, rfl⟩ := Prod.mk.inj (Option.some.inj h)
    refine ⟨.push (.leaf (.look s.flags.caret)), trivial, rfl, fun _ s' hs' => ?_⟩
    simp only [readSign, hs']
    rfl
  · obtain ⟨rfl, rfl⟩ := Prod.mk.inj (Option.some.inj h)
    refine ⟨.push (.leaf (.look s.flags.dollar)), trivial, rfl, fun _ s' hs' => ?_⟩
    simp only [readSign, hs']
    rfl
  · obtain ⟨x, hx, h⟩ := Option.map_eq_some_iff.1 h
    obtain ⟨rfl, rfl⟩ := Prod.mk.inj h
    refine ⟨.push (.leaf x), proper_of_literal hx, rfl, fun _ s' hs' => ?_⟩
    simp only [readSign, hs', hx]
    rfl

end

/-! ## Readings -/

lemma Piece.expr_choice (ps : List Piece) :
    (Piece.choice ps).expr = .altList (ps.reverse.map Piece.expr) := by
  cases ps with
  | nil => rfl
  | cons p ps => cases ps <;> rfl

/-- Pieces that are as they can be read. -/
def ProperPieces (ps : List Piece) : Prop := ∀ p ∈ ps, p.expr.Proper

namespace ProperPieces

variable {ps : List Piece} {p : Piece}

lemma cons (hp : p.expr.Proper) (h : ProperPieces ps) : ProperPieces (p :: ps) :=
  List.forall_mem_cons.2 ⟨hp, h⟩

lemma exprs (h : ProperPieces ps) : ∀ x ∈ ps.reverse.map Piece.expr, x.Proper := by
  simpa [ProperPieces] using h

lemma sequence (h : ProperPieces ps) : (Piece.sequence ps).expr.Proper := by
  rw [Piece.expr_sequence]
  exact Expr.proper_catList h.exprs

lemma choice (h : ProperPieces ps) : (Piece.choice ps).expr.Proper := by
  rw [Piece.expr_choice]
  exact Expr.proper_altList h.exprs

end ProperPieces

/-- What was read before an open group, and its name, are as they can be read. -/
structure OpenGroup.Proper (g : OpenGroup) : Prop where
  items : ProperPieces g.items
  branches : ProperPieces g.branches
  name : ∀ c ∈ g.capture, ∀ n ∈ c.2, '>' ∉ n.toList

/-- Everything that has been read is as it can be read. -/
structure ReaderState.Proper (s : ReaderState) : Prop where
  items : ProperPieces s.items
  branches : ProperPieces s.branches
  stack : ∀ g ∈ s.stack, g.Proper

namespace ReaderState.Proper

variable {s t : ReaderState}

lemma body (h : s.Proper) : s.body.expr.Proper := (h.branches.cons h.items.sequence).choice

lemma openGroup (h : s.Proper) {capture : Option (ℕ × Option String)}
    (hname : ∀ c ∈ capture, ∀ n ∈ c.2, '>' ∉ n.toList) (f : Flags) :
    (s.openGroup capture f).Proper where
  items := List.forall_mem_nil _
  branches := List.forall_mem_nil _
  stack := List.forall_mem_cons.2 ⟨⟨h.items, h.branches, hname⟩, h.stack⟩

/-- What has been read stays as it can be read. -/
theorem apply (h : s.Proper) {e : Edit} (he : e.Proper) (ht : e.apply s = some t) :
    t.Proper := by
  cases e with
  | push p =>
    rw [← Option.some.inj ht]
    exact ⟨h.items.cons he, h.branches, h.stack⟩
  | setFlags f =>
    rw [← Option.some.inj ht]
    exact ⟨h.items.cons trivial, h.branches, h.stack⟩
  | openGroup f =>
    rw [← Option.some.inj ht]
    exact h.openGroup (by simp) f
  | openCapture name =>
    change s.openCapture name = some t at ht
    unfold openCapture at ht
    split at ht
    · simp at ht
    · rw [← Option.some.inj ht]
      have hnamed : ReaderState.Proper
          { s with groups := s.groups + 1, names := name.toList ++ s.names } :=
        ⟨h.items, h.branches, h.stack⟩
      refine hnamed.openGroup (fun c hc => ?_) _
      rw [← Option.mem_some_iff.1 hc]
      exact he
  | closeGroup =>
    change s.closeGroup = some t at ht
    unfold closeGroup at ht
    split at ht
    · simp at ht
    · next g below hstack =>
      obtain ⟨hg, hbelow⟩ := List.forall_mem_cons.1 (hstack ▸ h.stack)
      rw [← Option.some.inj ht]
      refine ⟨hg.items.cons ?_, hg.branches, hbelow⟩
      cases hcapture : g.capture with
      | none => exact h.body
      | some capture => exact ⟨hg.name capture hcapture, h.body⟩
  | nextBranch =>
    rw [← Option.some.inj ht]
    exact ⟨List.forall_mem_nil _, h.branches.cons h.items.sequence, h.stack⟩
  | repeatLast least most greedy =>
    change s.repeatLast least most greedy = some t at ht
    unfold repeatLast at ht
    split at ht
    · simp at ht
    · next p before hitems =>
      obtain ⟨hp, hbefore⟩ := List.forall_mem_cons.1 (hitems ▸ h.items)
      split at ht
      · rw [← Option.some.inj ht]
        exact ⟨ProperPieces.cons ⟨he, hp⟩ hbefore, h.branches, h.stack⟩
      · simp at ht

lemma readAll {fuel : ℕ} {cs : List Char} (h : s.Proper) (ht : readAll fuel s cs = some t) :
    t.Proper := by
  induction fuel generalizing s cs with
  | zero => simp [Regex.readAll] at ht
  | succ fuel ih =>
    rw [Regex.readAll] at ht
    split at ht
    · rwa [← Option.some.inj ht]
    · obtain ⟨⟨s', rest⟩, hs', ht⟩ := Option.bind_eq_some_iff.1 ht
      obtain ⟨e, he, happly, -⟩ := exists_edit_of_readSign hs'
      exact ih (h.apply he happly) ht

end ReaderState.Proper

/-- An expression that has been read is as it can be read: the bounds of its repetitions are in
order, and the names of its groups are without a `>`. -/
theorem Expr.proper_of_ofText? {cs : List Char} {x : Expr} (h : ofText? cs = some x) :
    x.Proper := by
  obtain ⟨t, ht, hfinish⟩ := Option.bind_eq_some_iff.1 h
  have hstart : ReaderState.start.Proper :=
    ⟨List.forall_mem_nil _, List.forall_mem_nil _, List.forall_mem_nil _⟩
  unfold ReaderState.finish at hfinish
  split at hfinish
  · rw [← Option.some.inj hfinish]
    exact (hstart.readAll ht).body
  · simp at hfinish

end UriRouting.Regex
