import Mathlib.Tactic
import UriRouting.Regex.Search

/-!
# What expressions match

`Expr.Spans` says which stretches of a text an expression matches, without regard to which of them
a search would prefer.  It is a relation between places, for an assertion looks at the characters
around a place; `Expr.MatchesPart` and `Expr.Matches` are its readings for a part of a text and for
a whole one.

A repetition matches as often as its bounds allow.  Where a round takes no character, more rounds than
one are of no use (`exists_rounds_atMostOne`), provided that the bounds of the repetition are in order
(`Expr.Ordered`).
-/

namespace UriRouting.Regex

/-! ## Places -/

namespace Cursor

/-- The place between two parts of a text. -/
def between (front back : List Char) : Cursor := ⟨front.length, front.getLast?, back⟩

lemma between_concat (front : List Char) (x : Char) (back : List Char) :
    between (front ++ [x]) back = ⟨front.length + 1, some x, back⟩ := by
  simp [between]

end Cursor

/-! ## Rounds -/

/-- A number of steps of a relation, one after another. -/
def Rounds (R : Cursor → Cursor → Prop) : ℕ → Cursor → Cursor → Prop
  | 0 => Eq
  | n + 1 => Relation.Comp R (Rounds R n)

namespace Rounds

variable {R S : Cursor → Cursor → Prop} {c d e : Cursor} {m n : ℕ}

lemma one (h : R c d) : Rounds R 1 c d := ⟨d, h, rfl⟩

lemma add (h : Rounds R m c d) (h' : Rounds R n d e) : Rounds R (m + n) c e := by
  induction m generalizing c with
  | zero =>
    obtain rfl : c = d := h
    rwa [Nat.zero_add]
  | succ m ih =>
    obtain ⟨b, hb, h⟩ := h
    rw [Nat.succ_add]
    exact ⟨b, hb, ih h⟩

/-- A step that stays where it is can be made any number of times. -/
lemma of_refl (h : R c c) (n : ℕ) : Rounds R n c c := by
  induction n with
  | zero => rfl
  | succ n ih => exact ⟨c, h, ih⟩

/-- What every step keeps is kept by all of them. -/
lemma invariant {P : Cursor → Prop} (hstep : ∀ c d, P c → R c d → P d) (h : Rounds R n c d)
    (hc : P c) : P d := by
  induction n generalizing c with
  | zero =>
    obtain rfl : c = d := h
    exact hc
  | succ n ih =>
    obtain ⟨b, hb, h⟩ := h
    exact ih h (hstep c b hc hb)

end Rounds

/-- A number that keeps to bounds, of which the upper one may be missing. -/
def Within (bounds : ℕ × Option ℕ) (n : ℕ) : Prop := bounds.1 ≤ n ∧ ∀ m ∈ bounds.2, n ≤ m

/-- Steps that stay where they are need not be made more than once to make up a repetition. -/
lemma exists_rounds_atMostOne {R : Cursor → Cursor → Prop} (hR : ∀ c d, R c d → c = d)
    {least : ℕ} {most : Option ℕ} (horder : ∀ m ∈ most, least ≤ m) {c d : Cursor} :
    (∃ n, Within (min least 1, some (min (most.getD 1) 1)) n ∧ Rounds R n c d) ↔
      ∃ n, Within (least, most) n ∧ Rounds R n c d := by
  constructor
  · rintro ⟨n, ⟨hleast, hmost⟩, h⟩
    have hmost : n ≤ min (most.getD 1) 1 := hmost _ rfl
    match n, h with
    | 0, h => exact ⟨0, ⟨by simpa using hleast, fun m _ => Nat.zero_le m⟩, h⟩
    | 1, ⟨e, hround, heq⟩ =>
      obtain rfl : e = d := heq
      obtain rfl := hR _ _ hround
      -- one round can be made as often as the bounds ask for
      refine ⟨max least 1, ⟨le_max_left _ _, ?_⟩, .of_refl hround _⟩
      rintro m ⟨⟩
      exact max_le (horder m rfl) (hmost.trans (min_le_left _ _))
    | n + 2, h => exact absurd (hmost.trans (min_le_right _ _)) (by omega)
  · rintro ⟨n, ⟨hleast, hmost⟩, h⟩
    cases n with
    | zero => exact ⟨0, ⟨(min_le_left _ _).trans hleast, fun m _ => Nat.zero_le m⟩, h⟩
    | succ n =>
      obtain rfl : c = d :=
        h.invariant (P := (c = ·)) (fun _ _ hc hround => hc.trans (hR _ _ hround)) rfl
      obtain ⟨e, hround, -⟩ := h
      obtain rfl := hR _ _ hround
      refine ⟨1, ⟨min_le_right _ _, ?_⟩, .one hround⟩
      rintro m ⟨⟩
      refine le_min ?_ le_rfl
      cases most with
      | none => exact le_rfl
      | some m => exact (Nat.le_add_left 1 n).trans (hmost m rfl)

/-! ## Expressions -/

namespace Expr

/-- The expression matches the text from one place to another. -/
def Spans : Expr → Cursor → Cursor → Prop
  | empty, c, d => c = d
  | item a, c, d => ∃ x rest, c.rest = x :: rest ∧ a.contains x ∧ d = ⟨c.index + 1, some x, rest⟩
  | look l, c, d => l.holds c ∧ c = d
  | cat x y, c, d => ∃ e, x.Spans c e ∧ y.Spans e d
  | alt x y, c, d => x.Spans c d ∨ y.Spans c d
  | group _ _ x, c, d => x.Spans c d
  | enclosed x, c, d => x.Spans c d
  | rep least most _ x, c, d => ∃ n, Within (least, most) n ∧ Rounds x.Spans n c d

/-- The expression matches `part` where this stands between `front` and `back`. -/
def MatchesPart (x : Expr) (front part back : List Char) : Prop :=
  x.Spans (.between front (part ++ back)) (.between (front ++ part) back)

/-- The expression matches a text from its first character to its last. -/
def Matches (x : Expr) (text : List Char) : Prop := x.MatchesPart [] text []

/-- The bounds of every repetition are in order. -/
def Ordered : Expr → Prop
  | empty => True
  | item _ => True
  | look _ => True
  | cat x y => x.Ordered ∧ y.Ordered
  | alt x y => x.Ordered ∧ y.Ordered
  | group _ _ x => x.Ordered
  | enclosed x => x.Ordered
  | rep least most _ x => (∀ m ∈ most, least ≤ m) ∧ x.Ordered

/-! ## Lists of expressions -/

lemma spans_catList_cons (x : Expr) (xs : List Expr) (c d : Cursor) :
    (catList (x :: xs)).Spans c d ↔ ∃ e, x.Spans c e ∧ (catList xs).Spans e d := by
  cases xs with
  | nil =>
    constructor
    · exact fun h => ⟨d, h, rfl⟩
    · rintro ⟨e, h, rfl⟩
      exact h
  | cons y ys => rfl

lemma spans_catList_append (xs ys : List Expr) (c d : Cursor) :
    (catList (xs ++ ys)).Spans c d ↔ ∃ e, (catList xs).Spans c e ∧ (catList ys).Spans e d := by
  induction xs generalizing c with
  | nil =>
    constructor
    · exact fun h => ⟨c, rfl, h⟩
    · rintro ⟨e, rfl, h⟩
      exact h
  | cons x xs ih =>
    rw [List.cons_append, spans_catList_cons]
    simp only [ih, spans_catList_cons]
    constructor
    · rintro ⟨e, hx, e', hxs, hys⟩
      exact ⟨e', ⟨e, hx, hxs⟩, hys⟩
    · rintro ⟨e', ⟨e, hx, hxs⟩, hys⟩
      exact ⟨e, hx, e', hxs, hys⟩

/-- A choice matches what one of its branches does. -/
lemma spans_altList {xs : List Expr} (hxs : xs ≠ []) (c d : Cursor) :
    (altList xs).Spans c d ↔ ∃ x ∈ xs, x.Spans c d := by
  induction xs with
  | nil => exact absurd rfl hxs
  | cons x xs ih =>
    cases xs with
    | nil => simp [altList]
    | cons y ys =>
      have htail := ih (List.cons_ne_nil y ys)
      constructor
      · rintro (h | h)
        · exact ⟨x, List.mem_cons_self, h⟩
        · obtain ⟨z, hz, h⟩ := htail.1 h
          exact ⟨z, List.mem_cons_of_mem x hz, h⟩
      · rintro ⟨z, hz, h⟩
        rcases List.mem_cons.1 hz with rfl | hz
        · exact .inl h
        · exact .inr (htail.2 ⟨z, hz, h⟩)

/-! ## Places of a text -/

/-- A match ends behind where it starts, in the same text. -/
lemma Spans.exists_part {x : Expr} {front rest : List Char} {d : Cursor}
    (h : x.Spans (.between front rest) d) :
    ∃ part back, rest = part ++ back ∧ d = .between (front ++ part) back := by
  induction x generalizing front rest d with
  | empty =>
    obtain rfl := h
    exact ⟨[], rest, rfl, by rw [List.append_nil]⟩
  | item a =>
    obtain ⟨x, rest', hrest, -, rfl⟩ := h
    exact ⟨[x], rest', hrest, (Cursor.between_concat front x rest').symm⟩
  | look l =>
    obtain ⟨-, rfl⟩ := h
    exact ⟨[], rest, rfl, by rw [List.append_nil]⟩
  | cat x y ihx ihy =>
    obtain ⟨e, hx, hy⟩ := h
    obtain ⟨part, back, rfl, rfl⟩ := ihx hx
    obtain ⟨part', back', rfl, rfl⟩ := ihy hy
    exact ⟨part ++ part', back', (List.append_assoc ..).symm, by rw [List.append_assoc]⟩
  | alt x y ihx ihy => exact h.elim ihx ihy
  | group index name x ih => exact ih h
  | enclosed x ih => exact ih h
  | rep least most greedy x ih =>
    obtain ⟨n, -, h⟩ := h
    refine h.invariant (P := fun d =>
      ∃ part back, rest = part ++ back ∧ d = .between (front ++ part) back) ?_
      ⟨[], rest, rfl, by rw [List.append_nil]⟩
    rintro c d ⟨part, back, rfl, rfl⟩ hround
    obtain ⟨part', back', rfl, rfl⟩ := ih hround
    exact ⟨part ++ part', back', (List.append_assoc ..).symm, by rw [List.append_assoc]⟩

end Expr

end UriRouting.Regex
