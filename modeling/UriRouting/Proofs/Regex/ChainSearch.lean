import UriRouting.Proofs.Regex.Chain
import UriRouting.Proofs.Regex.Visits
import UriRouting.Regex.Basic

/-!
# Searching for a chain

The search for the plan of a chain finds exactly the cut of the chain (`Link.search_eq`).  It goes
through the places of the text as `Link.cut` does, but passes over a choice that it has visited at
the same place before.  What makes up for this is an invariant of the visits, `Link.Clear`: where
a hole has been visited already, it has been tried in vain.  So nothing is lost by passing over
it.

`Link.captures?_ofExpr` reads the groups off the search: they hold what the cut gives to the holes.
-/

namespace UriRouting.Regex.Link

open Unicode

/-! ## Visits in vain -/

section

variable {text : List Char} {s s' s'' : Seen} {links : List Link} {l i : ℕ}

/-- The holes of a chain by their labels, each with the links behind it. -/
def holes : List Link → ℕ → List (ℕ × List Link)
  | [], _ => []
  | char _ :: links, l => holes links l
  | hole _ :: links, l => (l, links) :: holes links (l + 1)

/-- From `i` on, a hole has been visited only at places from which it has been tried in vain. -/
def Dead (text : List Char) (s : Seen) (e : ℕ × List Link) (i : ℕ) : Prop :=
  ∀ j, i ≤ j → j ≤ text.length → s.contains e.1 j = true → cutHole (cut e.2) (text.drop j) = none

/-- All visits of a chain's holes, from `i` on, have been in vain. -/
def Clear (text : List Char) (s : Seen) (links : List Link) (l i : ℕ) : Prop :=
  ∀ e ∈ holes links l, Dead text s e i

/-- What a search in vain does to the visits: it notes none of other choices, and only ones in
vain of its own. -/
structure Later (text : List Char) (links : List Link) (l : ℕ) (s s' : Seen) : Prop where
  width_eq : s'.width = s.width
  below : ∀ l' < l, ∀ j ≤ text.length, s'.contains l' j = s.contains l' j
  dead : ∀ e ∈ holes links l, ∀ i, Dead text s e i → Dead text s' e i

lemma le_of_mem_holes {e : ℕ × List Link} (h : e ∈ holes links l) : l ≤ e.1 := by
  induction links generalizing l with
  | nil => simp [holes] at h
  | cons link links ih =>
    cases link with
    | char c => exact ih h
    | hole name =>
      rcases List.mem_cons.1 h with rfl | h
      · exact le_rfl
      · exact (Nat.le_succ l).trans (ih h)

lemma Dead.mono {e : ℕ × List Link} {i' : ℕ} (h : Dead text s e i) (hi : i ≤ i') :
    Dead text s e i' :=
  fun j hj => h j (hi.trans hj)

lemma Dead.congr {e : ℕ × List Link} (h : Dead text s e i)
    (hs : ∀ j, i ≤ j → j ≤ text.length → s'.contains e.1 j = s.contains e.1 j) : Dead text s' e i :=
  fun j hij hj hmem => h j hij hj (hs j hij hj ▸ hmem)

lemma Clear.mono {i' : ℕ} (h : Clear text s links l i) (hi : i ≤ i') : Clear text s links l i' :=
  fun e he => (h e he).mono hi

lemma Later.refl (text : List Char) (links : List Link) (l : ℕ) (s : Seen) :
    Later text links l s s :=
  ⟨rfl, fun _ _ _ _ => rfl, fun _ _ _ h => h⟩

lemma Later.trans (h : Later text links l s s') (h' : Later text links l s' s'') :
    Later text links l s s'' :=
  ⟨h'.width_eq.trans h.width_eq, fun l' hl j hj => (h'.below l' hl j hj).trans (h.below l' hl j hj),
    fun e he i hd => h'.dead e he i (h.dead e he i hd)⟩

/-- What the links behind a hole do to the visits does nothing to those of the hole. -/
lemma Later.cons_hole {name : List Char} (h : Later text links (l + 1) s s') :
    Later text (hole name :: links) l s s' := by
  refine ⟨h.width_eq, fun l' hl j hj => h.below l' (by omega) j hj, fun e he i hd => ?_⟩
  rcases List.mem_cons.1 he with rfl | he
  · exact hd.congr fun j _ hj => h.below l (Nat.lt_succ_self l) j hj
  · exact h.dead e he i hd

variable {j : ℕ}

/-- Noting a visit of one hole is nothing to the holes behind it. -/
lemma clear_insert (hwidth : s.width = text.length + 1) (hj : j ≤ text.length)
    (hc : Clear text s links (l + 1) i) : Clear text (s.insert l j) links (l + 1) i := by
  intro e he
  have hlt := le_of_mem_holes he
  refine (hc e he).congr fun k _ hk => ?_
  have hne : ¬ (l = e.1 ∧ j = k) := by omega
  rw [Seen.contains_insert (by omega) (by omega), decide_eq_false hne, Bool.false_or]

/-- A visit that turns out to be in vain may be noted. -/
lemma later_of_insert {name : List Char} (hwidth : s.width = text.length + 1) (hj : j ≤ text.length)
    (hnone : cutHole (cut links) (text.drop j) = none)
    (h : Later text (hole name :: links) l (s.insert l j) s') :
    Later text (hole name :: links) l s s' := by
  have hcontains : ∀ l' k, k ≤ text.length →
      (s.insert l j).contains l' k = (decide (l = l' ∧ j = k) || s.contains l' k) := fun l' k hk =>
    Seen.contains_insert (by omega) (by omega)
  refine ⟨h.width_eq, fun l' hl k hk => ?_, fun e he i hd => h.dead e he i fun k hik hk hmem => ?_⟩
  · have hne : ¬ (l = l' ∧ j = k) := by omega
    rw [h.below l' hl k hk, hcontains l' k hk, decide_eq_false hne, Bool.false_or]
  · rw [hcontains e.1 k hk, Bool.or_eq_true, decide_eq_true_eq] at hmem
    rcases hmem with ⟨hl, rfl⟩ | hmem
    · rcases List.mem_cons.1 he with rfl | he
      · exact hnone
      · have hlt := le_of_mem_holes he
        omega
    · exact hd k hik hk hmem

end

/-! ## Running a plan -/

section

variable {text : List Char} {links : List Link}

/-- A place of a text. -/
structure InText (text : List Char) (c : Cursor) : Prop where
  le_length : c.index ≤ text.length
  rest_eq : c.rest = text.drop c.index

/-- The notes of the groups of a chain, the last one first. -/
def notes : ℕ → List (List Char) → Captures → Captures
  | _, [], g => g
  | i, v :: values, g => notes (i + 1) values ((i, v) :: g)

/-- A search ends as a cut does: with what is found, or in vain with visits in vain. -/
def Answers {α : Type} (text : List Char) (links : List Link) (l : ℕ) (s : Seen)
    (found : α → Captures)
    (result : Option α) (o : Outcome) : Prop :=
  match result with
  | some a => o = .found (found a)
  | none => ∃ s', o = .exhausted s' ∧ Later text links l s s'

lemma InText.next {c : Cursor} {x : Char} {cs : List Char} (h : InText text c)
    (hrest : c.rest = x :: cs) :
    InText text ⟨c.index + 1, some x, cs⟩ := by
  obtain ⟨hle, heq⟩ := h
  rw [hrest] at heq
  have hlt : c.index < text.length := by
    by_contra hge
    rw [List.drop_eq_nil_of_le (by omega)] at heq
    simp at heq
  refine ⟨hlt, ?_⟩
  rw [List.drop_eq_getElem_cons hlt, List.cons.injEq] at heq
  exact heq.2

/-- Leaving the loop of a hole ends as what follows the hole does, if going on has been in vain. -/
lemma leave_answers {name : List Char} {l : ℕ} {g : Captures} {k : Continuation}
    {f : ℕ → List (List Char) → Captures}
    (hk : ∀ d s, InText text d → s.width = text.length + 1 → Clear text s links (l + 1) d.index →
      Answers text links (l + 1) s (f d.index) (cut links d.rest) (k d g s))
    {c : Cursor} {s s' : Seen} (hc : InText text c) (hwidth : s.width = text.length + 1)
    (hclear : Clear text (s.insert l c.index) links (l + 1) c.index)
    (hlater : Later text (hole name :: links) l (s.insert l c.index) s')
    (hcut : cutHole (cut links) c.rest = (cut links c.rest).map fun a => ([], a)) :
    Answers text (hole name :: links) l s (fun r => f (c.index + r.1.length) r.2)
      (cutHole (cut links) c.rest) (k c g s') := by
  have hwidth' : (s.insert l c.index).width = text.length + 1 := hwidth
  have hleft := hk c s' hc (hlater.width_eq.trans hwidth') fun e he =>
    hlater.dead e (List.mem_cons_of_mem _ he) _ (hclear e he)
  rw [hcut]
  cases hvalues : cut links c.rest with
  | some values =>
    rw [hvalues] at hleft
    exact hleft
  | none =>
    rw [hvalues] at hleft
    obtain ⟨s'', ho, hlater'⟩ := hleft
    have hnone : cutHole (cut links) (text.drop c.index) = none := by
      rw [← hc.rest_eq, hcut, hvalues]
      rfl
    exact ⟨s'', ho, later_of_insert hwidth hc.le_length hnone (hlater.trans hlater'.cons_hole)⟩

/-- A visit of the hole says nothing about the places behind it. -/
lemma clear_insert_next {name : List Char} {l : ℕ} {c : Cursor} {s : Seen} (hc : InText text c)
    (hwidth : s.width = text.length + 1) (hclear : Clear text s (hole name :: links) l c.index) :
    Clear text (s.insert l c.index) (hole name :: links) l (c.index + 1) := by
  have hle := hc.le_length
  have htail : Clear text (s.insert l c.index) links (l + 1) c.index :=
    clear_insert hwidth hle fun e he => hclear e (List.mem_cons_of_mem _ he)
  intro e he
  rcases List.mem_cons.1 he with rfl | he
  · refine ((hclear _ List.mem_cons_self).mono (Nat.le_succ _)).congr fun j hij hj => ?_
    have hne : ¬ (l = l ∧ c.index = j) := by omega
    rw [Seen.contains_insert (by omega) (by omega), decide_eq_false hne, Bool.false_or]
  · exact (htail e he).mono (Nat.le_succ _)

/-- The loop of a hole ends as the hole cuts the text, if what follows it ends as the chain behind
the hole does. -/
theorem runLoop_answers {name : List Char} {l : ℕ} {g : Captures} {k : Continuation}
    {f : ℕ → List (List Char) → Captures}
    (hk : ∀ d s, InText text d → s.width = text.length + 1 → Clear text s links (l + 1) d.index →
      Answers text links (l + 1) s (f d.index) (cut links d.rest) (k d g s))
    {c : Cursor} {s : Seen} (hc : InText text c) (hwidth : s.width = text.length + 1)
    (hclear : Clear text s (hole name :: links) l c.index) {fuel : ℕ}
    (hfuel : c.rest.length < fuel) :
    Answers text (hole name :: links) l s (fun r => f (c.index + r.1.length) r.2)
      (cutHole (cut links) c.rest)
      (runLoop l true (Plan.item notSlash).run fuel c g s k) := by
  induction fuel generalizing c s with
  | zero => omega
  | succ fuel ih =>
    have hwidth' : (s.insert l c.index).width = text.length + 1 := hwidth
    have hclear' : Clear text (s.insert l c.index) links (l + 1) c.index :=
      clear_insert hwidth hc.le_length fun e he => hclear e (List.mem_cons_of_mem _ he)
    rw [runLoop]
    by_cases hseen : s.contains l c.index
    · have hnone : cutHole (cut links) c.rest = none := by
        rw [hc.rest_eq]
        exact hclear (l, links) List.mem_cons_self c.index le_rfl hc.le_length hseen
      rw [if_pos hseen, hnone]
      exact ⟨s, rfl, Later.refl _ _ _ _⟩
    · rw [if_neg hseen, if_pos rfl]
      cases hrest : c.rest with
      | nil =>
        have hround : ∀ k', (Plan.item notSlash).run c g (s.insert l c.index) k' =
            .exhausted (s.insert l c.index) := fun k' => by simp only [Plan.run, hrest]
        rw [hround, ← hrest]
        exact leave_answers hk hc hwidth hclear' (Later.refl _ _ _ _) (by rw [hrest, cutHole])
      | cons x cs =>
        by_cases hx : x = '/'
        · have hround : ∀ k', (Plan.item notSlash).run c g (s.insert l c.index) k' =
              .exhausted (s.insert l c.index) := fun k' => by
            simp [Plan.run, hrest, contains_notSlash, hx]
          rw [hround, ← hrest]
          exact leave_answers hk hc hwidth hclear' (Later.refl _ _ _ _)
            (by rw [hrest, cutHole, if_pos hx])
        · have hround : ∀ k', (Plan.item notSlash).run c g (s.insert l c.index) k' =
              k' ⟨c.index + 1, some x, cs⟩ g (s.insert l c.index) := fun k' => by
            simp [Plan.run, hrest, contains_notSlash, hx]
          have hclear'' := clear_insert_next hc hwidth hclear
          have hlength : cs.length < fuel := by
            rw [hrest, List.length_cons] at hfuel
            omega
          have hdeep := ih (hc.next hrest) hwidth' hclear'' hlength
          rw [hround]
          cases hcs : cutHole (cut links) cs with
          | some r =>
            simp only [hcs, Answers] at hdeep
            rw [hdeep, cutHole, if_neg hx, hcs]
            simp only [Outcome.orElse, Answers, Option.map_some, Option.orElse_eq_orElse,
              Option.orElse_some, List.length_cons]
            rw [Nat.add_assoc, Nat.add_comm 1]
          | none =>
            simp only [hcs, Answers] at hdeep
            obtain ⟨s', ho, hlater⟩ := hdeep
            rw [ho, ← hrest]
            have hcut : cutHole (cut links) c.rest = (cut links c.rest).map fun a => ([], a) := by
              rw [hrest, cutHole, if_neg hx, hcs]
              rfl
            exact leave_answers hk hc hwidth hclear' hlater hcut

/-- The plan of a chain ends as the cut of the chain does. -/
theorem run_answers {c : Cursor} {s : Seen} {l : ℕ} (i : ℕ) (g : Captures) (hc : InText text c)
    (hwidth : s.width = text.length + 1) (hclear : Clear text s links l c.index) :
    Answers text links l s (fun values => notes i values g) (cut links c.rest)
      ((plan links i l).run c g s fun _ g _ => .found g) := by
  induction links generalizing c s l i g with
  | nil =>
    rw [plan, Plan.run]
    cases hrest : c.rest with
    | nil => simp [Look.holds, Cursor.after, hrest, cut, Answers, notes]
    | cons x cs =>
      simp only [Look.holds, Cursor.after, hrest, List.head?_cons, Option.isNone_some,
        Bool.false_eq_true, if_false, cut, Answers]
      exact ⟨s, rfl, Later.refl _ _ _ _⟩
  | cons link links ih =>
    cases link with
    | char x =>
      rw [plan, Plan.run, Plan.run]
      cases hrest : c.rest with
      | nil => exact ⟨s, rfl, Later.refl _ _ _ _⟩
      | cons y cs =>
        by_cases hxy : y = x
        · have hnext := ih i g (hc.next hrest) hwidth (Clear.mono hclear (Nat.le_succ _))
          simp only [CharSet.contains_one, hxy, decide_true, if_true, cut]
          rw [hxy] at hnext
          cases hcut : cut links cs with
          | some values =>
            simp only [hcut, Answers] at hnext ⊢
            exact hnext
          | none =>
            simp only [hcut, Answers] at hnext ⊢
            obtain ⟨s', ho, hlater⟩ := hnext
            exact ⟨s', ho, hlater.width_eq, hlater.below, hlater.dead⟩
        · simp only [CharSet.contains_one, hxy, decide_false, Bool.false_eq_true, if_false, cut,
            Answers]
          exact ⟨s, rfl, Later.refl _ _ _ _⟩
    | hole name =>
      have hloop := runLoop_answers (g := g)
        (k := fun d g s => (plan links (i + 1) (l + 1)).run d ((i, c.textTo d) :: g) s
          fun _ g _ => .found g)
        (f := fun j values => notes (i + 1) values ((i, c.rest.take (j - c.index)) :: g))
        (fun d s hd hw hcl => ih (i + 1) ((i, c.textTo d) :: g) hd hw hcl) hc hwidth hclear
        (show c.rest.length < c.rest.length + 2 by omega)
      rw [plan, Plan.run, Plan.run, Plan.run, cut]
      cases hcut : cutHole (cut links) c.rest with
      | none =>
        simp only [hcut, Answers] at hloop
        simpa only [Option.map_none, Answers] using hloop
      | some r =>
        obtain ⟨v, values⟩ := r
        obtain ⟨-, rest, hrest, -⟩ := cutHole_eq_some hcut
        have htake : c.rest.take v.length = v := by rw [hrest, List.take_left]
        simp only [hcut, Answers, Nat.add_sub_cancel_left, htake] at hloop
        simpa only [Option.map_some, Answers, notes] using hloop

/-- A chain starts at the start of the text alone. -/
lemma searchFrom_of_before (p : Plan) (index : ℕ) (x : Char) (s : Seen) (cs : List Char) :
    (Plan.cat (.look .textStart) p).searchFrom index (some x) s cs = .exhausted s := by
  induction cs generalizing index x with
  | nil => rfl
  | cons y cs ih =>
    rw [Plan.searchFrom, Plan.run, Plan.run]
    exact ih (index + 1) y

/-- The search for a chain finds the cut of the chain. -/
theorem search_eq (links : List Link) (text : List Char) :
    (Plan.ofExpr (expr links) 0).1.search text =
      (cut links text).map fun values => notes 1 values [] := by
  have hstart : InText text (Cursor.start text) := ⟨Nat.zero_le _, rfl⟩
  have hclear : Clear text (.empty text.length) links 0 0 := by
    intro e _ j _ _ hmem
    rw [Seen.not_contains_empty] at hmem
    exact absurd hmem Bool.false_ne_true
  have hrun := run_answers 1 [] hstart rfl hclear
  have hfrom : ∀ p : Plan,
      (Plan.cat (.look .textStart) p).searchFrom 0 none (.empty text.length) text =
        (p.run (Cursor.start text) [] (.empty text.length) fun _ g _ => .found g).orElse
          .exhausted := by
    intro p
    cases text with
    | nil =>
      rw [Plan.searchFrom, Plan.run, Plan.run]
      change p.run (Cursor.start []) [] _ _ = _
      cases p.run (Cursor.start []) [] (.empty 0) fun _ g _ => .found g <;> rfl
    | cons x cs =>
      rw [Plan.searchFrom, Plan.run, Plan.run]
      simp only [searchFrom_of_before]
      rfl
  rw [ofExpr_expr, Plan.search, hfrom]
  cases hcut : cut links text with
  | some values =>
    simp only [Cursor.start, hcut, Answers] at hrun
    simp only [Cursor.start, hrun, Outcome.orElse, Option.map_some]
  | none =>
    simp only [Cursor.start, hcut, Answers] at hrun
    obtain ⟨s', ho, -⟩ := hrun
    simp only [Cursor.start, ho, Outcome.orElse, Option.map_none]

end

/-! ## Groups -/

/-- The names of the holes of a chain. -/
def names : List Link → List (List Char)
  | [] => []
  | char _ :: links => names links
  | hole name :: links => name :: names links

lemma length_cut {links : List Link} {text : List Char} {values : List (List Char)}
    (h : cut links text = some values) : values.length = (names links).length := by
  induction links generalizing text values with
  | nil =>
    obtain ⟨-, rfl⟩ := cut_nil_eq_some.1 h
    rfl
  | cons link links ih =>
    cases link with
    | char c =>
      obtain ⟨rest, -, hrest⟩ := cut_char_eq_some.1 h
      exact ih hrest
    | hole name =>
      obtain ⟨v, rest, values', -, -, hrest, rfl⟩ := exists_of_cut_hole h
      rw [List.length_cons, ih hrest, names, List.length_cons]

/-- The groups of a chain, with the number of the first one. -/
def groupsFrom : ℕ → List (List Char) → List (ℕ × Option String)
  | _, [] => []
  | i, name :: names => (i, some (String.ofList name)) :: groupsFrom (i + 1) names

lemma groups_exprs (links : List Link) (i : ℕ) :
    (Expr.catList (exprs links i)).groups = groupsFrom i (names links) := by
  induction links generalizing i with
  | nil => rfl
  | cons link links ih =>
    cases link with
    | char c =>
      rw [exprs, catList_cons_exprs, Expr.groups, ih]
      rfl
    | hole name =>
      rw [exprs, catList_cons_exprs, Expr.groups, ih]
      rfl

lemma lookup_groupsFrom (i j : ℕ) (names : List (List Char)) :
    (groupsFrom i names).lookup (i + j) = names[j]?.map fun name => some (String.ofList name) := by
  induction names generalizing i j with
  | nil => simp [groupsFrom]
  | cons name names ih =>
    cases j with
    | zero => simp [groupsFrom]
    | succ j =>
      have hne : (i + (j + 1) == i) = false := by simp
      rw [groupsFrom, List.lookup_cons, hne]
      simp only
      rw [show i + (j + 1) = i + 1 + j by omega, ih, List.getElem?_cons_succ]

lemma foldl_max_groupsFrom (n i : ℕ) (names : List (List Char)) (h : n < i) :
    ((groupsFrom i names).map Prod.fst).foldl max n =
      if names = [] then n else i + names.length - 1 := by
  induction names generalizing n i with
  | nil => simp [groupsFrom]
  | cons name names ih =>
    rw [groupsFrom, List.map_cons, List.foldl_cons, max_eq_right h.le,
      ih i (i + 1) (Nat.lt_succ_self i)]
    split
    · next hnil => simp [hnil]
    · rw [if_neg (List.cons_ne_nil _ _), List.length_cons]
      omega

/-- The table of the groups of a chain holds the names of its holes. -/
lemma groupTable_expr (links : List Link) :
    groupTable (expr links).groups = (names links).map fun name => some (String.ofList name) := by
  have hgroups : (expr links).groups = groupsFrom 1 (names links) := by
    rw [expr, catList_cons_exprs, Expr.groups, groups_exprs]
    rfl
  have hcount : ((groupsFrom 1 (names links)).map Prod.fst).foldl max 0 = (names links).length := by
    rw [foldl_max_groupsFrom 0 1 _ Nat.one_pos]
    split
    · next hnil => rw [hnil, List.length_nil]
    · omega
  rw [groupTable, hgroups, hcount]
  refine List.ext_getElem (by simp) fun j hj _ => ?_
  rw [List.length_map, List.length_range] at hj
  have hlookup := lookup_groupsFrom 1 j (names links)
  rw [List.getElem?_eq_getElem hj, Option.map_some, Nat.add_comm] at hlookup
  simp [hlookup]

lemma lookup_notes_of_lt {i k : ℕ} (h : k < i) (values : List (List Char)) (g : Captures) :
    (notes i values g).lookup k = g.lookup k := by
  induction values generalizing i g with
  | nil => rfl
  | cons v values ih =>
    have hne : (k == i) = false := by
      rw [beq_eq_false_iff_ne]
      omega
    rw [notes, ih (by omega), List.lookup_cons, hne]

lemma lookup_notes (i j : ℕ) (values : List (List Char)) (g : Captures) (h : j < values.length) :
    (notes i values g).lookup (i + j) = some values[j] := by
  induction values generalizing i j g with
  | nil => simp at h
  | cons v values ih =>
    cases j with
    | zero =>
      rw [notes, Nat.add_zero, lookup_notes_of_lt (Nat.lt_succ_self i), List.lookup_cons]
      simp
    | succ j =>
      rw [List.length_cons, Nat.add_lt_add_iff_right] at h
      rw [notes, show i + (j + 1) = i + 1 + j by omega, ih (i + 1) j _ h, List.getElem_cons_succ]

/-- What a chain captures is what it cuts off. -/
theorem captures?_ofExpr (source : String) (links : List Link) (text : List Char) :
    (Regex.ofExpr source (expr links)).captures? text = (cut links text).map fun values =>
      values.map some := by
  rw [Regex.captures?, Regex.ofExpr, expr_ofExpr, search_eq, groupTable_expr, Option.map_map,
    List.length_map]
  cases hcut : cut links text with
  | none => rfl
  | some values =>
    rw [Option.map_some, Option.map_some, Option.some.injEq, ← length_cut hcut, Function.comp_apply]
    refine List.ext_getElem (by simp) fun j hj _ => ?_
    rw [List.length_map, List.length_range] at hj
    simp [Nat.add_comm j 1, lookup_notes 1 j values [] hj]

end UriRouting.Regex.Link
