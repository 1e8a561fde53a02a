import UriRouting.Proofs.Regex.NormalForm
import UriRouting.Regex.Basic

/-!
# Matches that a search finds

A search finds nothing but matches: `Regex.exists_part_of_captures?` says that the text holds a part
which the expression matches.  The visits of choices play no part in this, for all they do is to
leave out attempts.  Nor does it matter that the search follows the normal form of the expression,
since this matches the same.

`Finds` is what carries the argument.  A run of a plan that is successful has gone from its cursor
to another one, as a relation allows, and what had to follow was successful from there.  Every plan
that is built from plans gives such a run if its parts do.
-/

namespace UriRouting.Regex

/-- How a plan is run, or a round of a loop. -/
abbrev Run := Cursor → Captures → Seen → Continuation → Outcome

/-- A successful run has gone to a place to which a relation leads, and what had to follow was
successful there. -/
def Finds (run : Run) (R : Cursor → Cursor → Prop) : Prop :=
  ∀ c g s k groups, run c g s k = .found groups →
    ∃ d g' s', R c d ∧ k d g' s' = .found groups

lemma Outcome.orElse_eq_found {o : Outcome} {other : Seen → Outcome} {groups : Captures}
    (h : o.orElse other = .found groups) :
    o = .found groups ∨ ∃ s, other s = .found groups := by
  cases o with
  | found found => exact .inl h
  | exhausted s => exact .inr ⟨s, h⟩

section

variable {run : Run} {R S : Cursor → Cursor → Prop} {p q : Plan}

lemma Finds.mono (h : Finds run R) (hRS : ∀ c d, R c d → S c d) : Finds run S := by
  intro c g s k groups hrun
  obtain ⟨d, g', s', hR, hk⟩ := h c g s k groups hrun
  exact ⟨d, g', s', hRS c d hR, hk⟩

/-! ## Plans -/

namespace Plan

lemma finds_empty : Finds empty.run Eq := fun c g s _ _ hrun => ⟨c, g, s, rfl, hrun⟩

lemma finds_item (a : CharClass) : Finds (item a).run (Expr.item a).Spans := by
  intro c g s k groups hrun
  rw [run] at hrun
  split at hrun
  · simp at hrun
  · next x rest hrest =>
    split at hrun
    · next hx => exact ⟨_, g, s, ⟨x, rest, hrest, hx, rfl⟩, hrun⟩
    · simp at hrun

lemma finds_look (l : Look) : Finds (look l).run (Expr.look l).Spans := by
  intro c g s k groups hrun
  rw [run] at hrun
  split at hrun
  · next hl => exact ⟨c, g, s, ⟨hl, rfl⟩, hrun⟩
  · simp at hrun

lemma finds_cat (hp : Finds p.run R) (hq : Finds q.run S) :
    Finds (cat p q).run (Relation.Comp R S) := by
  intro c g s k groups hrun
  obtain ⟨e, g₁, s₁, hR, hrun⟩ := hp c g s _ groups hrun
  obtain ⟨d, g₂, s₂, hS, hrun⟩ := hq e g₁ s₁ k groups hrun
  exact ⟨d, g₂, s₂, ⟨e, hR, hS⟩, hrun⟩

lemma finds_alt (label : ℕ) (hp : Finds p.run R) (hq : Finds q.run S) :
    Finds (alt label p q).run fun c d => R c d ∨ S c d := by
  intro c g s k groups hrun
  rw [run] at hrun
  split at hrun
  · simp at hrun
  · rcases Outcome.orElse_eq_found hrun with hrun | ⟨s', hrun⟩
    · obtain ⟨d, g', s', hR, hk⟩ := hp c g _ k groups hrun
      exact ⟨d, g', s', .inl hR, hk⟩
    · obtain ⟨d, g', s', hS, hk⟩ := hq c g _ k groups hrun
      exact ⟨d, g', s', .inr hS, hk⟩

lemma finds_group (index : ℕ) (hp : Finds p.run R) : Finds (group index p).run R := by
  intro c g s k groups hrun
  obtain ⟨d, g', s', hR, hk⟩ := hp c g s _ groups hrun
  exact ⟨d, _, s', hR, hk⟩

end Plan

/-! ## Loops -/

lemma finds_runLoop (label : ℕ) (greedy : Bool) (h : Finds run R) (fuel : ℕ) :
    Finds (runLoop label greedy run fuel) fun c d => ∃ n, Rounds R n c d := by
  induction fuel with
  | zero =>
    intro c g s k groups hrun
    simp [runLoop] at hrun
  | succ fuel ih =>
    intro c g s k groups hrun
    -- one round more and then the rest of the loop, or what has to follow at once
    have hmore : ∀ s', run c g s' (fun c g s => runLoop label greedy run fuel c g s k) =
        .found groups → ∃ d g' s', (∃ n, Rounds R n c d) ∧ k d g' s' = .found groups := by
      intro s' hround
      obtain ⟨e, g₁, s₁, hR, hloop⟩ := h c g s' _ groups hround
      obtain ⟨d, g₂, s₂, ⟨n, hn⟩, hk⟩ := ih e g₁ s₁ k groups hloop
      exact ⟨d, g₂, s₂, ⟨n + 1, e, hR, hn⟩, hk⟩
    have hstop : ∀ s', k c g s' = .found groups →
        ∃ d g' s', (∃ n, Rounds R n c d) ∧ k d g' s' = .found groups :=
      fun s' hk => ⟨c, g, s', ⟨0, rfl⟩, hk⟩
    rw [runLoop] at hrun
    split at hrun
    · simp at hrun
    · split at hrun
      · rcases Outcome.orElse_eq_found hrun with hrun | ⟨s', hrun⟩
        · exact hmore _ hrun
        · exact hstop _ hrun
      · rcases Outcome.orElse_eq_found hrun with hrun | ⟨s', hrun⟩
        · exact hstop _ hrun
        · exact hmore _ hrun

namespace Plan

lemma finds_star (label : ℕ) (greedy : Bool) (hp : Finds p.run R) :
    Finds (star label greedy p).run fun c d => ∃ n, Rounds R n c d :=
  fun c => finds_runLoop label greedy hp (c.rest.length + 2) c

lemma finds_plus (label : ℕ) (greedy : Bool) (hp : Finds p.run R) :
    Finds (plus label greedy p).run fun c d => ∃ n, 1 ≤ n ∧ Rounds R n c d := by
  intro c g s k groups hrun
  obtain ⟨e, g₁, s₁, hR, hrun⟩ := hp c g s _ groups hrun
  obtain ⟨d, g₂, s₂, ⟨n, hn⟩, hk⟩ := finds_runLoop label greedy hp _ e g₁ s₁ k groups hrun
  exact ⟨d, g₂, s₂, ⟨n + 1, Nat.le_add_left 1 n, e, hR, hn⟩, hk⟩

/-! ## Repetitions -/

variable {make : ℕ → Labelled}

lemma finds_copies (h : ∀ next, Finds (make next).1.run R) (count next : ℕ) :
    Finds (copies make count next).1.run (Rounds R count) := by
  induction count generalizing next with
  | zero => exact finds_empty
  | succ count ih => exact finds_cat (h next) (ih _)

lemma finds_optional (greedy : Bool) (hp : Finds p.run R) (next : ℕ) :
    Finds (optional greedy p next).1.run fun c d => c = d ∨ R c d := by
  cases greedy with
  | true => exact (finds_alt next hp finds_empty).mono fun _ _ => Or.symm
  | false => exact finds_alt next finds_empty hp

lemma finds_upTo (greedy : Bool) (h : ∀ next, Finds (make next).1.run R) (count next : ℕ) :
    Finds (upTo greedy make count next).1.run fun c d => ∃ n ≤ count, Rounds R n c d := by
  induction count generalizing next with
  | zero => exact finds_empty.mono fun c d hcd => ⟨0, le_rfl, hcd⟩
  | succ count ih =>
    refine (finds_optional greedy (finds_cat (h next) (ih _)) _).mono ?_
    rintro c d (rfl | ⟨e, hR, n, hn, hrounds⟩)
    · exact ⟨0, Nat.zero_le _, rfl⟩
    · exact ⟨n + 1, Nat.succ_le_succ hn, e, hR, hrounds⟩

lemma finds_atLeast (greedy consumes : Bool) (h : ∀ next, Finds (make next).1.run R)
    (count next : ℕ) :
    Finds (atLeast greedy consumes make count next).1.run
      fun c d => ∃ n, count ≤ n ∧ Rounds R n c d := by
  cases count with
  | zero =>
    cases consumes with
    | true =>
      exact (finds_star _ greedy (h next)).mono fun c d ⟨n, hn⟩ => ⟨n, Nat.zero_le n, hn⟩
    | false =>
      refine (finds_optional greedy (finds_plus _ greedy (h next)) _).mono ?_
      rintro c d (rfl | ⟨n, -, hn⟩)
      · exact ⟨0, le_rfl, rfl⟩
      · exact ⟨n, Nat.zero_le n, hn⟩
  | succ count =>
    refine (finds_cat (finds_copies h count next) (finds_plus _ greedy (h _))).mono ?_
    rintro c d ⟨e, hcopies, n, hn, hrounds⟩
    exact ⟨count + n, Nat.add_le_add_left hn count, hcopies.add hrounds⟩

lemma finds_repeated {bounds : ℕ × Option ℕ} (hbounds : ∀ m ∈ bounds.2, bounds.1 ≤ m)
    (greedy consumes : Bool) (h : ∀ next, Finds (make next).1.run R) (next : ℕ) :
    Finds (repeated bounds greedy consumes make next).1.run
      fun c d => ∃ n, Within bounds n ∧ Rounds R n c d := by
  unfold repeated
  split
  · next least most =>
    have hle : least ≤ most := hbounds most rfl
    refine (finds_cat (finds_copies h least next) (finds_upTo greedy h (most - least) _)).mono ?_
    rintro c d ⟨e, hcopies, n, hn, hrounds⟩
    refine ⟨least + n, ⟨Nat.le_add_right least n, ?_⟩, hcopies.add hrounds⟩
    rintro m ⟨⟩
    omega
  · next least =>
    refine (finds_atLeast greedy consumes h least next).mono ?_
    rintro c d ⟨n, hn, hrounds⟩
    refine ⟨n, ⟨hn, ?_⟩, hrounds⟩
    rintro m ⟨⟩

/-! ## Expressions -/

/-- The plan of an expression finds only what the expression matches. -/
theorem finds_ofExpr {x : Expr} (hx : x.Ordered) (next : ℕ) :
    Finds (ofExpr x next).1.run x.Spans := by
  induction x generalizing next with
  | empty => exact finds_empty
  | item a => exact finds_item a
  | look l => exact finds_look l
  | cat x y ihx ihy => exact finds_cat (ihx hx.1 next) (ihy hx.2 _)
  | alt x y ihx ihy => exact finds_alt _ (ihx hx.1 next) (ihy hx.2 _)
  | group index name x ih => exact finds_group index (ih hx next)
  | enclosed x ih => exact ih hx next
  | rep least most greedy x ih => exact finds_repeated hx.1 greedy x.consumes (ih hx.2) next

lemma exists_of_searchFrom (hp : Finds p.run R) (front : List Char) {back : List Char} {s : Seen}
    {groups : Captures}
    (h : p.searchFrom front.length front.getLast? s back = .found groups) :
    ∃ more back' d, back = more ++ back' ∧ R (.between (front ++ more) back') d := by
  induction back generalizing front s with
  | nil =>
    obtain ⟨d, -, -, hR, -⟩ := hp _ _ _ _ _ h
    exact ⟨[], [], d, rfl, by rwa [List.append_nil]⟩
  | cons x back ih =>
    rw [searchFrom] at h
    rcases Outcome.orElse_eq_found h with h | ⟨s', h⟩
    · obtain ⟨d, -, -, hR, -⟩ := hp _ _ _ _ _ h
      exact ⟨[], x :: back, d, rfl, by rwa [List.append_nil]⟩
    · have hnext : p.searchFrom (front ++ [x]).length (front ++ [x]).getLast? s' back =
          .found groups := by
        rwa [List.length_append, List.getLast?_concat]
      obtain ⟨more, back', d, rfl, hR⟩ := ih _ hnext
      exact ⟨x :: more, back', d, rfl, by rwa [List.append_assoc] at hR⟩

end Plan

end

end Regex

/-- Where a search is successful, the expression matches a part of the text. -/
theorem Regex.exists_part_of_captures? {source : String} {x : Regex.Expr} (hx : x.Ordered)
    {text : List Char} (h : ((ofExpr source x).captures? text).isSome) :
    ∃ front part back, text = front ++ (part ++ back) ∧ x.MatchesPart front part back := by
  rw [captures?, Option.isSome_map, Plan.search] at h
  split at h
  · next groups hfound =>
    obtain ⟨hordered, hspans_iff⟩ := Normal.means_ofExpr hx
    obtain ⟨front, rest, d, rfl, hspans⟩ :=
      Plan.exists_of_searchFrom (Plan.finds_ofExpr hordered 0) [] hfound
    rw [hspans_iff] at hspans
    obtain ⟨part, back, rfl, rfl⟩ := hspans.exists_part
    exact ⟨front, part, back, rfl, hspans⟩
  · simp at h

end UriRouting
