import UriRouting.Proofs.Regex.NormalForm
import UriRouting.Regex.Plan

/-!
# Chains of characters and holes

An escaped template stands for a regular expression of one shape: characters that stand for
themselves, and between them named groups that take any text without a `/`.  `Link` is one of
these, `Link.expr` the expression of a chain of them and `Link.plan` its plan.  A chain offers nothing
to simplify, so its normal form is the same expression again (`Link.expr_ofExpr`).

`Link.cut` says what such a chain matches, without a word about a search: it cuts a text at the
holes, each of which takes as much as the links behind it let it.
-/

namespace UriRouting.Regex

open Unicode

/-- A character that stands for itself, or a named group that takes text within a segment. -/
inductive Link where
  | char (c : Char)
  | hole (name : List Char)
  deriving DecidableEq, Repr

namespace Link

/-! ## Expressions and plans -/

/-- Any character but `/`. -/
def notSlash : CharClass := (CharSet.ofList [.one '/']).compl

lemma contains_notSlash (c : Char) : notSlash.contains c = decide (c ≠ '/') := by
  have hspans : notSlash = ⟨[⟨0, 46⟩, ⟨48, 1114111⟩]⟩ := by decide +kernel
  have hlast : c.toNat < 1114112 := by
    have hvalid := c.valid
    simp only [UInt32.isValidChar, Nat.isValidChar] at hvalid
    change c.val.toNat < 1114112
    omega
  have hslash : c = '/' ↔ c.toNat = 47 := ⟨fun h => h ▸ rfl, fun h => Char.toNat_inj.1 h⟩
  rw [CharSet.contains, CharSet.containsPoint, hspans, Bool.eq_iff_iff]
  simp only [List.any_cons, List.any_nil, Span.contains, Bool.or_false, Bool.or_eq_true,
    Bool.and_eq_true, decide_eq_true_eq, ne_eq, hslash]
  omega

/-- The expressions of a chain up to the end of the text; `i` is the number of the next group. -/
def exprs : List Link → ℕ → List Expr
  | [], _ => [.look .textEnd]
  | char c :: links, i => .item (.one c) :: exprs links i
  | hole name :: links, i =>
    .group i (some (String.ofList name)) (.rep 0 none true (.item notSlash)) :: exprs links (i + 1)

/-- The expression of a chain that has to match a text from its start to its end. -/
def expr (links : List Link) : Expr := .catList (.look .textStart :: exprs links 1)

/-- The plan of a chain up to the end of the text, with the number of the next group and the next
label. -/
def plan : List Link → ℕ → ℕ → Plan
  | [], _, _ => .look .textEnd
  | char c :: links, i, l => .cat (.item (.one c)) (plan links i l)
  | hole _ :: links, i, l =>
    .cat (.group i (.star l true (.item notSlash))) (plan links (i + 1) (l + 1))

lemma catList_cons_exprs (x : Expr) (links : List Link) (i : ℕ) :
    Expr.catList (x :: exprs links i) = .cat x (.catList (exprs links i)) := by
  cases links with
  | nil => rfl
  | cons link links => cases link <;> rfl

lemma ofExpr_exprs (links : List Link) (i l : ℕ) :
    (Plan.ofExpr (.catList (exprs links i)) l).1 = plan links i l := by
  induction links generalizing i l with
  | nil => rfl
  | cons link links ih =>
    cases link with
    | char c =>
      rw [exprs, catList_cons_exprs, plan, ← ih]
      rfl
    | hole name =>
      rw [exprs, catList_cons_exprs, plan, ← ih]
      rfl

/-- The plan that the search runs for a chain. -/
lemma ofExpr_expr (links : List Link) :
    (Plan.ofExpr (expr links) 0).1 = .cat (.look .textStart) (plan links 1 0) := by
  rw [expr, catList_cons_exprs, ← ofExpr_exprs]
  rfl

/-! ## Normal forms -/

lemma ofClass_one (c : Char) : Normal.ofClass (.one c) = .literal [c] := by
  have hc : c.toNat.isValidChar := c.valid
  have hone : (CharSet.one c).spans = [⟨c.toNat, c.toNat⟩] := rfl
  simp only [Normal.ofClass, hone, hc, and_self, if_true, Char.ofNat_toNat]

/-- The characters of a chain are joined to literals, and are the same characters still. -/
lemma factors_ofExpr (links : List Link) (i : ℕ) :
    Normal.Flat (Normal.ofExpr (.catList (exprs links i))).factors ∧
      Normal.factorExprs (Normal.ofExpr (.catList (exprs links i))).factors = exprs links i := by
  have hcat : ∀ x y, Normal.ofExpr (.cat x y) = (Normal.ofExpr x).sequence (Normal.ofExpr y) :=
    fun _ _ => rfl
  induction links generalizing i with
  | nil => exact ⟨List.forall_mem_singleton.2 rfl, rfl⟩
  | cons link links ih =>
    cases link with
    | char c =>
      obtain ⟨hflat, hexprs⟩ := ih i
      have hc : (Normal.ofExpr (.item (.one c))).factors = [.literal [c]] := by
        change (Normal.ofClass (.one c)).factors = _
        rw [ofClass_one]
        rfl
      have hflatc : Normal.Flat (Normal.ofExpr (.item (.one c))).factors := by
        rw [hc]
        exact List.forall_mem_singleton.2 rfl
      rw [exprs, catList_cons_exprs, hcat, Normal.factors_sequence hflatc hflat,
        Normal.factorExprs_joinFactors, hexprs, hc]
      exact ⟨hc ▸ Normal.flat_joinFactors hflatc hflat, rfl⟩
    | hole name =>
      obtain ⟨hflat, hexprs⟩ := ih (i + 1)
      have hround : (Normal.ofExpr (.rep 0 none true (.item notSlash))).expr =
          .rep 0 none true (.item notSlash) := by
        decide +kernel
      have hflath : Normal.Flat (Normal.ofExpr (.group i (some (String.ofList name))
          (.rep 0 none true (.item notSlash)))).factors := List.forall_mem_singleton.2 rfl
      rw [exprs, catList_cons_exprs, hcat, Normal.factors_sequence hflath hflat,
        Normal.factorExprs_joinFactors, hexprs]
      refine ⟨Normal.flat_joinFactors hflath hflat, ?_⟩
      change [Expr.group i (some (String.ofList name)) _] ++ _ = _
      rw [← hround]
      rfl

/-- A chain is searched for as it is. -/
theorem expr_ofExpr (links : List Link) : (Normal.ofExpr (expr links)).expr = expr links := by
  have hstart : Normal.ofExpr (expr links) =
      Normal.sequence (.look .textStart) (Normal.ofExpr (.catList (exprs links 1))) := by
    rw [expr, catList_cons_exprs]
    rfl
  rw [hstart, Normal.expr_sequence, (factors_ofExpr links 1).2]
  rfl

/-! ## Cuts -/

/-- Let a hole take as much of a text as it can, so that `k` can deal with the rest. -/
def cutHole {α : Type} (k : List Char → Option α) : List Char → Option (List Char × α)
  | [] => (k []).map fun a => ([], a)
  | x :: cs =>
    if x = '/' then (k (x :: cs)).map fun a => ([], a)
    else
      ((cutHole k cs).map fun r => (x :: r.1, r.2)) <|> (k (x :: cs)).map fun a => ([], a)

/-- What the holes of a chain take of a text that the chain matches, the first ones as much as
possible. -/
def cut : List Link → List Char → Option (List (List Char))
  | [], [] => some []
  | [], _ :: _ => none
  | char _ :: _, [] => none
  | char c :: links, x :: cs => if x = c then cut links cs else none
  | hole _ :: links, cs => (cutHole (cut links) cs).map fun r => r.1 :: r.2

/-- A hole takes the front of the text, which holds no `/`, and leaves the rest to what follows. -/
lemma cutHole_eq_some {α : Type} {k : List Char → Option α} {cs v : List Char} {a : α}
    (h : cutHole k cs = some (v, a)) : '/' ∉ v ∧ ∃ rest, cs = v ++ rest ∧ k rest = some a := by
  induction cs generalizing v with
  | nil =>
    simp only [cutHole, Option.map_eq_some_iff, Prod.mk.injEq] at h
    obtain ⟨b, hb, rfl, rfl⟩ := h
    exact ⟨by simp, [], rfl, hb⟩
  | cons x cs ih =>
    have hempty : ∀ {b}, k (x :: cs) = some b → ([], b) = (v, a) →
        '/' ∉ v ∧ ∃ rest, x :: cs = v ++ rest ∧ k rest = some a := by
      rintro b hb heq
      obtain ⟨rfl, rfl⟩ := Prod.mk.inj heq
      exact ⟨by simp, x :: cs, rfl, hb⟩
    rw [cutHole] at h
    split at h
    · obtain ⟨b, hb, heq⟩ := Option.map_eq_some_iff.1 h
      exact hempty hb heq
    · next hx =>
      cases hdeep : cutHole k cs with
      | none =>
        simp only [hdeep, Option.map_none, Option.orElse_eq_orElse, Option.orElse_none] at h
        obtain ⟨b, hb, heq⟩ := Option.map_eq_some_iff.1 h
        exact hempty hb heq
      | some r =>
        obtain ⟨w, b⟩ := r
        simp only [hdeep, Option.map_some, Option.orElse_eq_orElse, Option.orElse_some,
          Option.some.injEq, Prod.mk.injEq] at h
        obtain ⟨rfl, rfl⟩ := h
        obtain ⟨hw, rest, rfl, hk⟩ := ih hdeep
        exact ⟨by simp [hw, Ne.symm hx], rest, rfl, hk⟩

/-- What stands in front of the rest, if it holds no `/`, is no obstacle to a hole. -/
lemma isSome_cutHole_append {α : Type} {k : List Char → Option α} {v rest : List Char}
    (hv : '/' ∉ v) (h : (k rest).isSome) : (cutHole k (v ++ rest)).isSome := by
  induction v with
  | nil =>
    obtain ⟨a, ha⟩ := Option.isSome_iff_exists.1 h
    rw [List.nil_append]
    cases rest with
    | nil => simp [cutHole, ha]
    | cons x cs =>
      rw [cutHole]
      split
      · simp [ha]
      · cases cutHole k cs <;> simp [ha]
  | cons x v ih =>
    simp only [List.mem_cons, not_or] at hv
    obtain ⟨r, hr⟩ := Option.isSome_iff_exists.1 (ih hv.2)
    rw [List.cons_append, cutHole, if_neg (Ne.symm hv.1), hr]
    rfl

section Cut

variable {ls : List Link} {cs : List Char} {vs : List (List Char)}

lemma cut_nil_eq_some : cut [] cs = some vs ↔ cs = [] ∧ vs = [] := by
  cases cs <;> simp [cut, eq_comm]

lemma cut_char_eq_some {c : Char} :
    cut (.char c :: ls) cs = some vs ↔ ∃ rest, cs = c :: rest ∧ cut ls rest = some vs := by
  cases cs with
  | nil => simp [cut]
  | cons x cs =>
    rw [cut]
    by_cases hx : x = c
    · simp [hx]
    · simp [hx]

/-- The first hole takes the front of the text, and the rest of the chain cuts what is left. -/
lemma exists_of_cut_hole {name : List Char} (h : cut (.hole name :: ls) cs = some vs) :
    ∃ v rest vs', '/' ∉ v ∧ cs = v ++ rest ∧ cut ls rest = some vs' ∧ vs = v :: vs' := by
  obtain ⟨⟨v, vs'⟩, hv, rfl⟩ := Option.map_eq_some_iff.1 h
  obtain ⟨hslash, rest, rfl, hrest⟩ := cutHole_eq_some hv
  exact ⟨v, rest, vs', hslash, rfl, hrest, rfl⟩

/-- What the holes take holds no `/`. -/
lemma slash_not_mem_of_cut (h : cut ls cs = some vs) : ∀ v ∈ vs, '/' ∉ v := by
  induction ls generalizing cs vs with
  | nil =>
    obtain ⟨-, rfl⟩ := cut_nil_eq_some.1 h
    simp
  | cons link ls ih =>
    cases link with
    | char c =>
      obtain ⟨rest, -, hrest⟩ := cut_char_eq_some.1 h
      exact ih hrest
    | hole name =>
      obtain ⟨v, rest, vs', hslash, -, hrest, rfl⟩ := exists_of_cut_hole h
      exact List.forall_mem_cons.2 ⟨hslash, ih hrest⟩

end Cut

/-- Induction along a chain and a text that it matches: a character meets itself, and a hole takes
the front of the text, which holds no `/`. -/
@[elab_as_elim]
theorem cut_induction {motive : (ls : List Link) → (cs : List Char) → (cut ls cs).isSome → Prop}
    (nil : motive [] [] rfl)
    (char : ∀ c ls cs (h : (cut ls cs).isSome) h', motive ls cs h →
      motive (.char c :: ls) (c :: cs) h')
    (hole : ∀ name ls v rest (h : (cut ls rest).isSome) h', '/' ∉ v → motive ls rest h →
      motive (.hole name :: ls) (v ++ rest) h')
    (ls : List Link) (cs : List Char) (h : (cut ls cs).isSome) : motive ls cs h := by
  induction ls generalizing cs with
  | nil =>
    obtain ⟨vs, hvs⟩ := Option.isSome_iff_exists.1 h
    obtain ⟨rfl, -⟩ := cut_nil_eq_some.1 hvs
    exact nil
  | cons link ls ih =>
    obtain ⟨vs, hvs⟩ := Option.isSome_iff_exists.1 h
    cases link with
    | char c =>
      obtain ⟨rest, rfl, hcut⟩ := cut_char_eq_some.1 hvs
      have hrest : (cut ls rest).isSome := Option.isSome_of_mem hcut
      exact char c ls rest hrest h (ih rest hrest)
    | hole name =>
      obtain ⟨v, rest, vs', hslash, rfl, hcut, -⟩ := exists_of_cut_hole hvs
      have hrest : (cut ls rest).isSome := Option.isSome_of_mem hcut
      exact hole name ls v rest hrest h hslash (ih rest hrest)

/-! ## Other characters -/

section Renamed

variable {σ : Char → Char} (hslash : ∀ x, σ x = '/' ↔ x = '/')

include hslash in
/-- A hole takes some front of a text as before if a `/` is put nowhere and taken from nowhere. -/
lemma isSome_cutHole_map {α : Type} {k : List Char → Option α}
    (hk : ∀ cs, (k (cs.map σ)).isSome = (k cs).isSome) (cs : List Char) :
    (cutHole k (cs.map σ)).isSome = (cutHole k cs).isSome := by
  induction cs with
  | nil =>
    rw [List.map_nil]
  | cons x cs ih =>
    have hrest := hk (x :: cs)
    rw [List.map_cons] at hrest ⊢
    simp only [cutHole, hslash]
    split
    · rw [Option.isSome_map, Option.isSome_map, hrest]
    · simp only [Option.orElse_eq_orElse, Option.orElse_eq_or, Option.isSome_or, Option.isSome_map,
        ih, hrest]

include hslash in
/-- A chain matches a text as before if the characters of the chain are put nowhere and taken from
nowhere. -/
theorem isSome_cut_map {ls : List Link} (hchars : ∀ c, .char c ∈ ls → ∀ x, σ x = c ↔ x = c)
    (cs : List Char) : (cut ls (cs.map σ)).isSome = (cut ls cs).isSome := by
  induction ls generalizing cs with
  | nil => cases cs <;> rfl
  | cons link ls ih =>
    have hrest := ih fun c hc => hchars c (List.mem_cons_of_mem link hc)
    cases link with
    | char c =>
      cases cs with
      | nil => rfl
      | cons x cs =>
        have hx := hchars c List.mem_cons_self x
        simp only [List.map_cons, cut, hx]
        split
        · exact hrest cs
        · rfl
    | hole name =>
      rw [cut, cut, Option.isSome_map, Option.isSome_map]
      exact isSome_cutHole_map hslash hrest cs

end Renamed

end Link

end UriRouting.Regex
