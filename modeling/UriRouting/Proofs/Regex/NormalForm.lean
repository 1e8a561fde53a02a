import UriRouting.Proofs.Regex.Meaning
import UriRouting.Regex.Normal

/-!
# What normal forms match

A search follows the normal form of an expression, not the expression as it was read.  This decides
which match it prefers, but not whether there is one: the normal form matches exactly what the
expression does (`Normal.means_ofExpr`).

`Normal.Means` is what carries the argument: a normal form whose repetitions are in order, and which
matches as a relation says.  Every operation that puts normal forms together keeps it.  As
expressions, sequences are equal to what they are made of (`Normal.expr_sequence`); the choices and
the classes are compared by what they match.
-/

namespace UriRouting

/-! ## Sets of characters -/

namespace Unicode.CharSet

lemma contains_one (c d : Char) : (one c).contains d = decide (d = c) := by
  have heq : d = c ↔ d.toNat = c.toNat := Char.toNat_inj.symm
  rw [contains, containsPoint, one, range, Bool.eq_iff_iff]
  simp only [List.any_cons, List.any_nil, Span.contains, Bool.or_false, Bool.and_eq_true,
    decide_eq_true_eq, heq]
  omega

lemma any_insertSpan (s : Span) (ts : List Span) (point : ℕ) :
    ((insertSpan s ts).any fun t => t.contains point) =
      (s.contains point || ts.any fun t => t.contains point) := by
  induction ts generalizing s with
  | nil => rfl
  | cons t ts ih =>
    rw [insertSpan]
    split
    · rfl
    · split
      · rw [List.any_cons, ih, List.any_cons, Bool.or_left_comm]
      · next hlow hhigh =>
        -- spans without a gap between them are one span
        have hjoin : (⟨min s.low t.low, max s.high t.high⟩ : Span).contains point =
            (s.contains point || t.contains point) := by
          rw [Bool.eq_iff_iff]
          simp only [Span.contains, Bool.or_eq_true, Bool.and_eq_true, decide_eq_true_eq]
          omega
        rw [ih, hjoin, List.any_cons, Bool.or_assoc]

lemma contains_union (a b : CharSet) (c : Char) :
    (a.union b).contains c = (a.contains c || b.contains c) := by
  obtain ⟨spans⟩ := b
  induction spans with
  | nil => exact (Bool.or_false _).symm
  | cons s spans ih =>
    have hinsert : (a.union ⟨s :: spans⟩).contains c =
        (s.contains c.toNat || (a.union ⟨spans⟩).contains c) := any_insertSpan s _ c.toNat
    rw [hinsert, ih, Bool.or_left_comm]
    rfl

lemma contains_ofList (sets : List CharSet) (c : Char) :
    (ofList sets).contains c = sets.any fun a => a.contains c := by
  have hfold : ∀ a : CharSet, (sets.foldl union a).contains c =
      (a.contains c || sets.any fun b => b.contains c) := by
    induction sets with
    | nil => exact fun a => (Bool.or_false _).symm
    | cons b sets ih =>
      intro a
      rw [List.foldl_cons, ih, contains_union, List.any_cons, Bool.or_assoc]
  exact (hfold none).trans (Bool.false_or _)

end Unicode.CharSet

namespace Regex

open Unicode

/-! ## Order -/

namespace Expr

lemma ordered_catList {xs : List Expr} : (catList xs).Ordered ↔ ∀ x ∈ xs, x.Ordered := by
  induction xs with
  | nil => simp [catList, Ordered]
  | cons x xs ih =>
    cases xs with
    | nil => simp [catList]
    | cons y ys =>
      rw [catList, Ordered, ih]
      exact List.forall_mem_cons.symm

lemma ordered_altList {xs : List Expr} : (altList xs).Ordered ↔ ∀ x ∈ xs, x.Ordered := by
  induction xs with
  | nil => simp [altList, Ordered]
  | cons x xs ih =>
    cases xs with
    | nil => simp [altList]
    | cons y ys =>
      rw [altList, Ordered, ih]
      exact List.forall_mem_cons.symm

end Expr

namespace Normal

/-! ## Sequences -/

lemma factorExprs_append (xs ys : List Normal) :
    factorExprs (xs ++ ys) = factorExprs xs ++ factorExprs ys := by
  induction xs with
  | nil => rfl
  | cons x xs ih => cases x <;> simp [factorExprs, ih]

lemma expr_ofFactors (xs : List Normal) : (ofFactors xs).expr = .catList (factorExprs xs) := by
  match xs with
  | [] => rfl
  | [x] => cases x <;> simp [ofFactors, factorExprs, expr, Expr.catList]
  | x :: y :: xs => rfl

lemma expr_eq_catList_factors (x : Normal) : x.expr = .catList (factorExprs x.factors) := by
  cases x <;> simp [factors, factorExprs, expr, Expr.catList]

/-- Literals that meet are read character by character as before. -/
lemma factorExprs_joinFactors (xs ys : List Normal) :
    factorExprs (joinFactors xs ys) = factorExprs xs ++ factorExprs ys := by
  fun_induction joinFactors xs ys with
  | case1 ys => rfl
  | case2 cs ds ys => simp [factorExprs]
  | case3 x xs ys _ ih => cases x <;> simp [factorExprs, ih]

theorem expr_sequence (x y : Normal) :
    (sequence x y).expr = .catList (factorExprs x.factors ++ factorExprs y.factors) := by
  rw [sequence, expr_ofFactors, factorExprs_joinFactors]

/-- No factor is a sequence itself. -/
def Flat (xs : List Normal) : Prop := ∀ x ∈ xs, x.factors = [x]

lemma flat_joinFactors {xs ys : List Normal} (hxs : Flat xs) (hys : Flat ys) :
    Flat (joinFactors xs ys) := by
  fun_induction joinFactors xs ys with
  | case1 ys => exact hys
  | case2 cs ds ys => exact List.forall_mem_cons.2 ⟨rfl, (List.forall_mem_cons.1 hys).2⟩
  | case3 x xs ys _ ih =>
    obtain ⟨hx, hxs⟩ := List.forall_mem_cons.1 hxs
    exact List.forall_mem_cons.2 ⟨hx, ih hxs hys⟩

lemma factors_sequence {x y : Normal} (hx : Flat x.factors) (hy : Flat y.factors) :
    (sequence x y).factors = joinFactors x.factors y.factors := by
  have hflat := flat_joinFactors hx hy
  rw [sequence]
  generalize joinFactors x.factors y.factors = zs at hflat
  match zs with
  | [] => rfl
  | [z] => exact hflat z List.mem_cons_self
  | z :: w :: zs => rfl

/-! ## Meanings -/

/-- The repetitions of a normal form are in order, and it matches as a relation says. -/
structure Means (y : Normal) (R : Cursor → Cursor → Prop) : Prop where
  ordered : y.expr.Ordered
  spans_iff : ∀ c d, y.expr.Spans c d ↔ R c d

/-- One of some normal forms matches. -/
def Choose (xs : List Normal) (c d : Cursor) : Prop := ∃ x ∈ xs, x.expr.Spans c d

variable {x y : Normal} {xs : List Normal} {R S : Cursor → Cursor → Prop}

lemma Means.congr (h : y.Means R) (hRS : ∀ c d, R c d ↔ S c d) : y.Means S :=
  ⟨h.ordered, fun c d => (h.spans_iff c d).trans (hRS c d)⟩

lemma means_self (h : x.expr.Ordered) : x.Means x.expr.Spans := ⟨h, fun _ _ => Iff.rfl⟩

theorem means_sequence (hx : x.Means R) (hy : y.Means S) :
    (sequence x y).Means (Relation.Comp R S) := by
  obtain ⟨hox, hsx⟩ := hx
  obtain ⟨hoy, hsy⟩ := hy
  rw [expr_eq_catList_factors] at hox hsx hoy hsy
  refine ⟨?_, fun c d => ?_⟩
  · rw [expr_sequence, Expr.ordered_catList, List.forall_mem_append]
    exact ⟨Expr.ordered_catList.1 hox, Expr.ordered_catList.1 hoy⟩
  · rw [expr_sequence, Expr.spans_catList_append]
    exact exists_congr fun e => and_congr (hsx c e) (hsy e d)

/-! ## Classes -/

lemma spans_item_congr {a b : CharClass} (h : ∀ x, a.contains x = b.contains x) (c d : Cursor) :
    (Expr.item a).Spans c d ↔ (Expr.item b).Spans c d := by
  simp only [Expr.Spans, h]

/-- A class of a single character is a literal. -/
lemma means_ofClass (a : CharClass) : (ofClass a).Means (Expr.item a).Spans := by
  unfold ofClass
  split
  · next s hspans =>
    split
    · next hs =>
      refine ⟨trivial, spans_item_congr fun x => ?_⟩
      have htoNat : (Char.ofNat s.low).toNat = s.low := by
        rw [Char.ofNat, dif_pos hs.2]
        rfl
      have heq : x = Char.ofNat s.low ↔ x.toNat = s.low := by
        rw [← Char.toNat_inj, htoNat]
      rw [CharSet.contains_one, CharSet.contains, CharSet.containsPoint, hspans, Bool.eq_iff_iff]
      simp only [List.any_cons, List.any_nil, Span.contains, Bool.or_false, Bool.and_eq_true,
        decide_eq_true_eq, heq]
      omega
    · exact means_self trivial
  · exact means_self trivial

lemma expr_of_characterClass? {a : CharClass} (h : characterClass? x = some a) :
    x.expr = .item a := by
  unfold characterClass? at h
  split at h
  · obtain rfl := Option.some.inj h
    rfl
  · simp at h

lemma expr_of_class? {a : CharClass} (h : class? x = some a) : x.expr = .item a := by
  unfold class? at h
  split at h
  · obtain rfl := Option.some.inj h
    rfl
  · simp at h

/-- A choice between classes is a class. -/
lemma means_ofClass_ofList {f : Normal → Option CharClass} {classes : List CharClass}
    (hf : ∀ x a, f x = some a → x.expr = .item a) (h : xs.mapM f = some classes) :
    (ofClass (.ofList classes)).Means (Choose xs) := by
  have hall : xs.map expr = classes.map .item := by
    induction xs generalizing classes with
    | nil =>
      obtain rfl : [] = classes := Option.some.inj h
      rfl
    | cons x xs ih =>
      rw [List.mapM_cons] at h
      obtain ⟨a, ha, h⟩ := Option.bind_eq_some_iff.1 h
      obtain ⟨as, has, h⟩ := Option.bind_eq_some_iff.1 h
      obtain rfl := Option.some.inj h
      rw [List.map_cons, hf x a ha, ih has, List.map_cons]
  refine (means_ofClass _).congr fun c d => ?_
  have hchoose : Choose xs c d ↔ ∃ e ∈ xs.map expr, e.Spans c d := by
    simp only [Choose, List.mem_map, exists_exists_and_eq_and]
  rw [hchoose, hall]
  simp only [List.mem_map, exists_exists_and_eq_and, Expr.Spans, CharSet.contains_ofList,
    List.any_eq_true]
  constructor
  · rintro ⟨x, rest, hrest, ⟨a, ha, hx⟩, rfl⟩
    exact ⟨a, ha, x, rest, hrest, hx, rfl⟩
  · rintro ⟨a, ha, x, rest, hrest, hx, rfl⟩
    exact ⟨x, rest, hrest, ⟨a, ha, hx⟩, rfl⟩

/-! ## Choices -/

lemma mem_branchExprs {e : Expr} : e ∈ branchExprs xs ↔ ∃ x ∈ xs, x.expr = e := by
  induction xs with
  | nil => simp [branchExprs]
  | cons x xs ih => simp [branchExprs, ih, eq_comm]

/-- A choice without branches matches nothing. -/
lemma not_spans_none (c d : Cursor) : ¬ (Expr.item .none).Spans c d := by
  rintro ⟨x, rest, -, hx, -⟩
  simp [CharSet.contains, CharSet.containsPoint, CharSet.none] at hx

lemma ordered_alt : (alt xs).expr.Ordered ↔ ∀ x ∈ xs, x.expr.Ordered := by
  cases xs with
  | nil => simp [expr, Expr.Ordered]
  | cons x xs =>
    rw [expr, Expr.ordered_altList, List.forall_mem_cons, List.forall_mem_cons]
    refine and_congr_right fun _ => ⟨fun h y hy => h _ (mem_branchExprs.2 ⟨y, hy, rfl⟩), ?_⟩
    rintro h e he
    obtain ⟨y, hy, rfl⟩ := mem_branchExprs.1 he
    exact h y hy

lemma spans_alt (xs : List Normal) (c d : Cursor) : (alt xs).expr.Spans c d ↔ Choose xs c d := by
  cases xs with
  | nil => simp [expr, Choose, not_spans_none]
  | cons x xs =>
    have hbranches : x.expr :: branchExprs xs = branchExprs (x :: xs) := rfl
    rw [expr, Expr.spans_altList (List.cons_ne_nil _ _), hbranches]
    constructor
    · rintro ⟨e, he, hspans⟩
      obtain ⟨y, hy, rfl⟩ := mem_branchExprs.1 he
      exact ⟨y, hy, hspans⟩
    · rintro ⟨y, hy, hspans⟩
      exact ⟨_, mem_branchExprs.2 ⟨y, hy, rfl⟩, hspans⟩

lemma means_alt (h : ∀ x ∈ xs, x.expr.Ordered) : (alt xs).Means (Choose xs) :=
  ⟨ordered_alt.2 h, spans_alt xs⟩

lemma ordered_of_mem_branches (hx : x.expr.Ordered) : ∀ y ∈ x.branches, y.expr.Ordered := by
  cases x with
  | alt xs => exact ordered_alt.1 hx
  | _ => exact fun y hy => List.mem_singleton.1 hy ▸ hx

lemma choose_branches (x : Normal) (c d : Cursor) :
    Choose x.branches c d ↔ x.expr.Spans c d := by
  cases x with
  | alt xs => exact (spans_alt xs c d).symm
  | _ => simp [Choose, branches]

/-- A choice between choices is a choice between the branches of all. -/
lemma choose_flatMap_branches (xs : List Normal) (c d : Cursor) :
    Choose (xs.flatMap branches) c d ↔ Choose xs c d := by
  constructor
  · rintro ⟨y, hy, hspans⟩
    obtain ⟨x, hx, hy⟩ := List.mem_flatMap.1 hy
    exact ⟨x, hx, (choose_branches x c d).1 ⟨y, hy, hspans⟩⟩
  · rintro ⟨x, hx, hspans⟩
    obtain ⟨y, hy, hspans⟩ := (choose_branches x c d).2 hspans
    exact ⟨y, List.mem_flatMap.2 ⟨x, hx, hy⟩, hspans⟩

/-! ## Common fronts -/

mutual

lemma eq_of_sameAs : ∀ {x y : Normal}, x.sameAs y → x = y
  | empty, y, h => by cases y <;> simp_all [sameAs]
  | literal cs, y, h => by cases y <;> simp_all [sameAs]
  | item a, y, h => by cases y <;> simp_all [sameAs]
  | look l, y, h => by cases y <;> simp_all [sameAs]
  | cat xs, y, h => by
    cases y <;> simp only [sameAs, Bool.false_eq_true] at h
    rw [eq_of_allSame h]
  | alt xs, y, h => by
    cases y <;> simp only [sameAs, Bool.false_eq_true] at h
    rw [eq_of_allSame h]
  | group i n x, y, h => by
    cases y <;> simp only [sameAs, Bool.false_eq_true, Bool.and_eq_true, beq_iff_eq] at h
    obtain ⟨⟨rfl, rfl⟩, h⟩ := h
    rw [eq_of_sameAs h]
  | rep a b g x, y, h => by
    cases y <;> simp only [sameAs, Bool.false_eq_true, Bool.and_eq_true, beq_iff_eq] at h
    obtain ⟨⟨⟨rfl, rfl⟩, rfl⟩, h⟩ := h
    rw [eq_of_sameAs h]

lemma eq_of_allSame : ∀ {xs ys : List Normal}, allSame xs ys → xs = ys
  | [], ys, h => by cases ys <;> simp_all [allSame]
  | x :: xs, ys, h => by
    cases ys <;> simp only [allSame, Bool.false_eq_true, Bool.and_eq_true] at h
    rw [eq_of_sameAs h.1, eq_of_allSame h.2]

end

lemma take_commonLength (xs ys : List Normal) :
    ys.take (commonLength xs ys) = xs.take (commonLength xs ys) := by
  fun_induction commonLength xs ys with
  | case1 x xs y ys h ih => rw [eq_of_sameAs h, List.take_succ_cons, List.take_succ_cons, ih]
  | case2 x xs y ys h => rfl
  | case3 xs ys _ => rfl

lemma foldl_min_le {α : Type} (f : α → ℕ) (n : ℕ) (as : List α) :
    as.foldl (fun n a => min n (f a)) n ≤ n ∧
      ∀ a ∈ as, as.foldl (fun n a => min n (f a)) n ≤ f a := by
  induction as generalizing n with
  | nil => simp
  | cons a as ih =>
    obtain ⟨hn, has⟩ := ih (min n (f a))
    exact ⟨hn.trans (min_le_left _ _),
      List.forall_mem_cons.2 ⟨hn.trans (min_le_right _ _), has⟩⟩

/-- All branches of a choice start with the factors that are counted as common. -/
lemma take_commonFactors (hy : y ∈ x :: xs) :
    y.sequenceFactors.take (commonFactors (x :: xs)) =
      x.sequenceFactors.take (commonFactors (x :: xs)) := by
  rcases List.mem_cons.1 hy with rfl | hy
  · rfl
  · have hle : commonFactors (x :: xs) ≤ commonLength x.sequenceFactors y.sequenceFactors :=
      (foldl_min_le (fun z : Normal => commonLength x.sequenceFactors z.sequenceFactors) _ xs).2
        y hy
    have htake := congrArg (List.take (commonFactors (x :: xs)))
      (take_commonLength x.sequenceFactors y.sequenceFactors)
    rwa [List.take_take, List.take_take, min_eq_left hle] at htake

/-- Branches that have a front in common are sequences. -/
lemma sequenceFactors_ne_nil (hn : commonFactors (x :: xs) ≠ 0) (hy : y ∈ x :: xs) :
    y.sequenceFactors ≠ [] := by
  have hle : commonFactors (x :: xs) ≤ x.sequenceFactors.length :=
    (foldl_min_le (fun z : Normal => commonLength x.sequenceFactors z.sequenceFactors) _ xs).1
  intro hnil
  have htake := congrArg List.length (take_commonFactors hy)
  rw [hnil, List.take_nil, List.length_take, List.length_nil] at htake
  omega

lemma expr_of_sequenceFactors (h : y.sequenceFactors ≠ []) :
    y.expr = .catList (factorExprs y.sequenceFactors) := by
  cases y <;> first | rfl | exact absurd rfl h

/-- A sequence is a front of its factors and then the others. -/
lemma spans_split (h : y.sequenceFactors ≠ []) (n : ℕ) (c d : Cursor) :
    y.expr.Spans c d ↔ ∃ e, (ofFactors (y.sequenceFactors.take n)).expr.Spans c e ∧
      (ofFactors (y.sequenceFactors.drop n)).expr.Spans e d := by
  simp only [expr_ofFactors]
  rw [← Expr.spans_catList_append, ← factorExprs_append, List.take_append_drop,
    expr_of_sequenceFactors h]

lemma ordered_split (h : y.sequenceFactors ≠ []) (hy : y.expr.Ordered) (n : ℕ) :
    (ofFactors (y.sequenceFactors.take n)).expr.Ordered ∧
      (ofFactors (y.sequenceFactors.drop n)).expr.Ordered := by
  rw [expr_of_sequenceFactors h, ← List.take_append_drop n y.sequenceFactors, factorExprs_append,
    Expr.ordered_catList, List.forall_mem_append] at hy
  simp only [expr_ofFactors]
  exact hy.imp Expr.ordered_catList.2 Expr.ordered_catList.2

/-- A choice may be made behind the front that all branches have in common. -/
lemma means_lifted (h : ∀ y ∈ x :: xs, y.expr.Ordered) (hn : commonFactors (x :: xs) ≠ 0)
    (hy : y.Means (Choose ((x :: xs).map fun z =>
      ofFactors (z.sequenceFactors.drop (commonFactors (x :: xs)))))) :
    (sequence (ofFactors (x.sequenceFactors.take (commonFactors (x :: xs)))) y).Means
      (Choose (x :: xs)) := by
  have hx : x ∈ x :: xs := List.mem_cons_self
  have hfront := (ordered_split (sequenceFactors_ne_nil hn hx) (h x hx)
    (commonFactors (x :: xs))).1
  refine (means_sequence (means_self hfront) hy).congr fun c d => ?_
  have hsplit : ∀ z ∈ x :: xs, z.expr.Spans c d ↔ ∃ e,
      (ofFactors (x.sequenceFactors.take (commonFactors (x :: xs)))).expr.Spans c e ∧
        (ofFactors (z.sequenceFactors.drop (commonFactors (x :: xs)))).expr.Spans e d := by
    intro z hz
    rw [spans_split (sequenceFactors_ne_nil hn hz) (commonFactors (x :: xs)),
      take_commonFactors hz]
  constructor
  · rintro ⟨e, hce, w, hw, hed⟩
    obtain ⟨z, hz, rfl⟩ := List.mem_map.1 hw
    exact ⟨z, hz, (hsplit z hz).2 ⟨e, hce, hed⟩⟩
  · rintro ⟨z, hz, hspans⟩
    obtain ⟨e, hce, hed⟩ := (hsplit z hz).1 hspans
    exact ⟨e, hce, _, List.mem_map_of_mem hz, hed⟩

/-- A choice matches what one of its branches does, also if their common front is taken out. -/
theorem means_choiceWithin (fuel : ℕ) (h : ∀ x ∈ xs, x.expr.Ordered) :
    (choiceWithin fuel xs).Means (Choose xs) := by
  induction fuel generalizing xs with
  | zero => exact means_alt h
  | succ fuel ih =>
    have hflat : ∀ y ∈ xs.flatMap branches, y.expr.Ordered := fun y hy => by
      obtain ⟨x, hx, hy⟩ := List.mem_flatMap.1 hy
      exact ordered_of_mem_branches (h x hx) y hy
    suffices hmeans : (choiceWithin (fuel + 1) xs).Means (Choose (xs.flatMap branches)) from
      hmeans.congr (choose_flatMap_branches xs)
    rw [choiceWithin]
    split
    · next hnil =>
      refine ⟨trivial, fun c d => ?_⟩
      simp [hnil, Choose, expr, not_spans_none]
    · next x hone =>
      rw [hone] at hflat ⊢
      exact (means_self (hflat x List.mem_cons_self)).congr fun c d => by simp [Choose]
    · next x rest _ hbranches =>
      rw [hbranches] at hflat ⊢
      split
      · next classes hclasses =>
        rw [Option.orElse_eq_orElse, Option.orElse_eq_or, Option.or_eq_some_iff] at hclasses
        rcases hclasses with hclasses | ⟨-, hclasses⟩
        · exact means_ofClass_ofList (fun _ _ => expr_of_characterClass?) hclasses
        · exact means_ofClass_ofList (fun _ _ => expr_of_class?) hclasses
      · dsimp only
        split
        · exact means_alt hflat
        · next hn =>
          refine means_lifted hflat hn (ih fun z hz => ?_)
          obtain ⟨y, hy, rfl⟩ := List.mem_map.1 hz
          exact (ordered_split (sequenceFactors_ne_nil hn hy) (hflat y hy) _).2

lemma means_ofBranches (h : ∀ x ∈ xs, x.expr.Ordered) : (ofBranches xs).Means (Choose xs) := by
  unfold ofBranches
  split
  · next x => exact (means_self (h x List.mem_cons_self)).congr fun c d => by simp [Choose]
  · exact means_choiceWithin _ h

/-! ## Repetitions -/

lemma eq_of_spans_factors (h : ∀ x ∈ xs, ∀ c d, x.expr.Spans c d → c = d) {c d : Cursor}
    (hspans : (Expr.catList (factorExprs xs)).Spans c d) : c = d := by
  induction xs generalizing c with
  | nil => exact hspans
  | cons x xs ih =>
    have hfactors : factorExprs (x :: xs) = factorExprs [x] ++ factorExprs xs :=
      factorExprs_append [x] xs
    rw [hfactors, Expr.spans_catList_append, ← expr_ofFactors [x]] at hspans
    obtain ⟨e, hx, hspans⟩ := hspans
    obtain rfl := h x List.mem_cons_self _ _ hx
    exact ih (fun y hy => h y (List.mem_cons_of_mem x hy)) hspans

mutual

/-- A silent normal form stays where it is. -/
lemma eq_of_isSilent : ∀ {x : Normal}, x.isSilent → ∀ c d, x.expr.Spans c d → c = d
  | empty, _, _, _, h => h
  | look l, _, _, _, h => h.2
  | cat xs, hx, _, _, h => eq_of_spans_factors (eq_of_allSilent hx) h
  | alt xs, hx, c, d, h => by
    obtain ⟨y, hy, h⟩ := (spans_alt xs c d).1 h
    exact eq_of_allSilent hx y hy c d h
  | group index name x, hx, c, d, h => eq_of_isSilent (x := x) hx c d h
  | rep least most greedy x, hx, c, d, h => by
    obtain ⟨n, -, h⟩ := h
    exact h.invariant (P := (c = ·))
      (fun _ _ hc hround => hc.trans (eq_of_isSilent (x := x) hx _ _ hround)) rfl

lemma eq_of_allSilent :
    ∀ {xs : List Normal}, allSilent xs → ∀ x ∈ xs, ∀ c d, x.expr.Spans c d → c = d
  | [], _ => by simp
  | x :: xs, hxs => by
    rw [allSilent, Bool.and_eq_true] at hxs
    exact List.forall_mem_cons.2 ⟨eq_of_isSilent hxs.1, eq_of_allSilent hxs.2⟩

end

lemma means_bounded {bounds : ℕ × Option ℕ} (greedy : Bool)
    (horder : ∀ m ∈ bounds.2, bounds.1 ≤ m) (hx : x.expr.Ordered) :
    (bounded bounds greedy x).Means fun c d =>
      ∃ n, Within bounds n ∧ Rounds x.expr.Spans n c d := by
  unfold bounded
  split
  · refine ⟨trivial, fun c d => ⟨fun h => ⟨0, ⟨le_rfl, fun m _ => Nat.zero_le m⟩, h⟩, ?_⟩⟩
    rintro ⟨n, ⟨-, hn⟩, h⟩
    obtain rfl : n = 0 := Nat.le_zero.1 (hn 0 rfl)
    exact h
  · refine ⟨hx, fun c d => ⟨fun h => ⟨1, ⟨le_rfl, ?_⟩, .one h⟩, ?_⟩⟩
    · rintro m ⟨⟩
      exact le_rfl
    · rintro ⟨n, ⟨hle, hn⟩, h⟩
      obtain rfl : n = 1 := le_antisymm (hn 1 rfl) hle
      obtain ⟨e, h, rfl⟩ := h
      exact h
  · exact ⟨⟨horder, hx⟩, fun c d => Iff.rfl⟩

/-- Nothing is lost where a repetition is simplified. -/
lemma means_repeated {least : ℕ} {most : Option ℕ} (greedy : Bool)
    (horder : ∀ m ∈ most, least ≤ m) (hx : x.expr.Ordered) :
    (repeated least most greedy x).Means fun c d =>
      ∃ n, Within (least, most) n ∧ Rounds x.expr.Spans n c d := by
  rw [repeated]
  split
  · next hsilent =>
    have horder' : ∀ m ∈ some (min (most.getD 1) 1), min least 1 ≤ m := by
      rintro m ⟨⟩
      cases most with
      | none => exact min_le_right _ _
      | some m => exact min_le_min_right 1 (horder m rfl)
    exact (means_bounded greedy horder' hx).congr fun c d =>
      exists_rounds_atMostOne (eq_of_isSilent hsilent) horder
  · exact means_bounded greedy horder hx

/-! ## Expressions -/

/-- A single branch is no choice. -/
lemma Means.choose (h : y.Means R) :
    (∀ z ∈ [y], z.expr.Ordered) ∧ ∀ c d, Choose [y] c d ↔ R c d :=
  ⟨List.forall_mem_singleton.2 h.ordered, fun c d => by simp [Choose, h.spans_iff]⟩

/-- The normal form of an expression matches exactly what the expression matches. -/
theorem means_ofExpr {x : Expr} (hx : x.Ordered) : (ofExpr x).Means x.Spans := by
  suffices hbranches : (∀ y ∈ branchesOfExpr x, y.expr.Ordered) ∧
      ∀ c d, Choose (branchesOfExpr x) c d ↔ x.Spans c d from
    (means_ofBranches hbranches.1).congr hbranches.2
  -- the branches of a choice are kept apart until the whole choice is known
  induction x with
  | empty => exact (means_self (x := empty) trivial).choose
  | item a => exact (means_ofClass a).choose
  | look l => exact (means_self (x := look l) trivial).choose
  | cat x y ihx ihy =>
    obtain ⟨hox, hsx⟩ := ihx hx.1
    obtain ⟨hoy, hsy⟩ := ihy hx.2
    exact (means_sequence ((means_ofBranches hox).congr hsx)
      ((means_ofBranches hoy).congr hsy)).choose
  | alt x y ihx ihy =>
    obtain ⟨hox, hsx⟩ := ihx hx.1
    obtain ⟨hoy, hsy⟩ := ihy hx.2
    have hfirst := (means_ofBranches hox).congr hsx
    refine ⟨List.forall_mem_cons.2 ⟨hfirst.ordered, hoy⟩, fun c d => ?_⟩
    rw [Expr.Spans, ← hfirst.spans_iff, ← hsy, branchesOfExpr, Choose, List.exists_mem_cons_iff]
    rfl
  | group index name x ih =>
    obtain ⟨ho, hs⟩ := ih hx
    have hinside := (means_ofBranches ho).congr hs
    exact Means.choose ⟨hinside.ordered, hinside.spans_iff⟩
  | enclosed x ih =>
    obtain ⟨ho, hs⟩ := ih hx
    exact ((means_ofBranches ho).congr hs).choose
  | rep least most greedy x ih =>
    obtain ⟨ho, hs⟩ := ih hx.2
    have hinside := (means_ofBranches ho).congr hs
    have hspans : (ofBranches (branchesOfExpr x)).expr.Spans = x.Spans :=
      funext₂ fun c d => propext (hinside.spans_iff c d)
    have hmeans := means_repeated greedy hx.1 hinside.ordered
    rw [hspans] at hmeans
    exact hmeans.choose

/-- The common front of `a?a|a?b` comes to stand before the choice. -/
example :
    let front : Expr := .rep 0 (some 1) true (.item (.one 'a'))
    (ofExpr (.alt (.cat front (.item (.one 'a'))) (.cat front (.item (.one 'b'))))).expr =
      .cat front (.item (.range 'a' 'b')) := by
  decide +kernel

end Normal

end Regex

end UriRouting
