import Mathlib.Tactic
import UriRouting.Config.Basic

/-!
# What validation reports

`Config.Breaks c p` says that an entry of the configuration breaks the rule which the problem `p`
names: a route needs a method, a handler and a path that starts with a `/`, and both sides of an
alias have to start with a `/`.  `Config.Report c ps` are the problems of a configuration as they are
reported: each of them once, routes before aliases, in the order of the entries.

Validation reports all of them (`Config.problems_report`), and refuses a configuration exactly if
there is one (`Config.validate_cases`).
-/

namespace UriRouting

namespace ConfigProblem

/-- Routes are reported before aliases. -/
def group : ConfigProblem → ℕ
  | noMethods .. => 0
  | noHandler .. => 0
  | relativeRoute .. => 0
  | relativeAlias .. => 1

/-- The entry that the problem is found in. -/
def index : ConfigProblem → ℕ
  | noMethods i _ => i
  | noHandler i _ => i
  | relativeRoute i _ => i
  | relativeAlias i _ _ => i

/-- The rule that is broken, among the rules for an entry. -/
def rule : ConfigProblem → ℕ
  | noMethods .. => 0
  | noHandler .. => 1
  | relativeRoute .. => 2
  | relativeAlias .. => 0

/-- One problem is reported before another. -/
def Before (p q : ConfigProblem) : Prop :=
  p.group < q.group ∨ p.group = q.group ∧ (p.index < q.index ∨ p.index = q.index ∧ p.rule < q.rule)

end ConfigProblem

namespace Config

open ConfigProblem

/-- An entry of the configuration breaks a rule. -/
inductive Breaks (c : Config) : ConfigProblem → Prop
  | noMethods {i : ℕ} {r : RouteEntry} (entry : c.routes[i]? = some r) (none : r.methods = []) :
      Breaks c (.noMethods i r.path)
  | noHandler {i : ℕ} {r : RouteEntry} (entry : c.routes[i]? = some r) (unnamed : r.handler = "") :
      Breaks c (.noHandler i r.path)
  | relativeRoute {i : ℕ} {r : RouteEntry} (entry : c.routes[i]? = some r)
      (relative : r.path.toList.head? ≠ some '/') : Breaks c (.relativeRoute i r.path)
  | relativeAlias {i : ℕ} {a : AliasEntry} (entry : c.aliases[i]? = some a)
      (relative : a.front.toList.head? ≠ some '/' ∨ a.target.toList.head? ≠ some '/') :
      Breaks c (.relativeAlias i a.front a.target)

/-- The problems of a configuration in the order in which they are reported. -/
structure Report (c : Config) (ps : List ConfigProblem) : Prop where
  mem_iff : ∀ p, p ∈ ps ↔ c.Breaks p
  ordered : ps.Pairwise Before

/-! ## Entry by entry -/

lemma isAbsolute_iff {path : String} : isAbsolute path = true ↔ path.toList.head? = some '/' := by
  simp [isAbsolute]

lemma mem_routeProblems_iff {i : ℕ} {r : RouteEntry} {p : ConfigProblem} :
    p ∈ routeProblems i r ↔ (r.methods = [] ∧ p = .noMethods i r.path) ∨
      (r.handler = "" ∧ p = .noHandler i r.path) ∨
      (r.path.toList.head? ≠ some '/' ∧ p = .relativeRoute i r.path) := by
  have hif : ∀ (b : Prop) [Decidable b] (q : ConfigProblem),
      p ∈ (if b then [q] else []) ↔ b ∧ p = q := by
    intro b _ q
    by_cases hb : b <;> simp [hb]
  have habsolute : (if isAbsolute r.path then [] else [ConfigProblem.relativeRoute i r.path]) =
      if r.path.toList.head? ≠ some '/' then [.relativeRoute i r.path] else [] := by
    rw [ite_not]
    exact if_congr isAbsolute_iff rfl rfl
  rw [routeProblems, habsolute]
  simp only [List.mem_append, hif, List.isEmpty_iff, String.isEmpty_iff, or_assoc]

lemma mem_aliasProblems_iff {i : ℕ} {a : AliasEntry} {p : ConfigProblem} :
    p ∈ aliasProblems i a ↔
      (a.front.toList.head? ≠ some '/' ∨ a.target.toList.head? ≠ some '/') ∧
        p = .relativeAlias i a.front a.target := by
  rw [aliasProblems, ← not_and_or, ← isAbsolute_iff, ← isAbsolute_iff, ← Bool.and_eq_true]
  by_cases h : (isAbsolute a.front && isAbsolute a.target) = true
  · simp [h]
  · simp [h]

lemma place_of_mem_routeProblems {i : ℕ} {r : RouteEntry} {p : ConfigProblem}
    (h : p ∈ routeProblems i r) : p.group = 0 ∧ p.index = i := by
  rcases mem_routeProblems_iff.1 h with ⟨-, rfl⟩ | ⟨-, rfl⟩ | ⟨-, rfl⟩ <;> exact ⟨rfl, rfl⟩

lemma place_of_mem_aliasProblems {i : ℕ} {a : AliasEntry} {p : ConfigProblem}
    (h : p ∈ aliasProblems i a) : p.group = 1 ∧ p.index = i := by
  obtain ⟨-, rfl⟩ := mem_aliasProblems_iff.1 h
  exact ⟨rfl, rfl⟩

/-! ## All entries -/

section

variable {α : Type} {problems : ℕ → α → List ConfigProblem}

lemma mem_problemsFrom_iff {start : ℕ} {entries : List α} {p : ConfigProblem} :
    p ∈ problemsFrom problems start entries ↔
      ∃ i a, entries[i]? = some a ∧ p ∈ problems (start + i) a := by
  induction entries generalizing start with
  | nil => simp [problemsFrom]
  | cons first rest ih =>
    rw [problemsFrom, List.mem_append, ih]
    constructor
    · rintro (h | ⟨i, a, hentry, h⟩)
      · exact ⟨0, first, rfl, h⟩
      · have hplace : start + 1 + i = start + (i + 1) := by omega
        exact ⟨i + 1, a, hentry, hplace ▸ h⟩
    · rintro ⟨i, a, hentry, h⟩
      cases i with
      | zero =>
        obtain rfl := Option.some.inj hentry
        exact .inl h
      | succ i =>
        have hplace : start + (i + 1) = start + 1 + i := by omega
        exact .inr ⟨i, a, hentry, hplace ▸ h⟩

/-- If the problems of an entry are in order and belong to the entry, then all are in order. -/
lemma pairwise_problemsFrom {number : ℕ}
    (hplace : ∀ i a, ∀ p ∈ problems i a, p.group = number ∧ p.index = i)
    (hentry : ∀ i a, (problems i a).Pairwise Before) (start : ℕ) (entries : List α) :
    (problemsFrom problems start entries).Pairwise Before := by
  induction entries generalizing start with
  | nil => exact List.Pairwise.nil
  | cons first rest ih =>
    rw [problemsFrom, List.pairwise_append]
    refine ⟨hentry start first, ih (start + 1), ?_⟩
    intro p hp q hq
    obtain ⟨i, a, -, hq⟩ := mem_problemsFrom_iff.1 hq
    obtain ⟨hgroup, hindex⟩ := hplace _ _ p hp
    obtain ⟨hgroup', hindex'⟩ := hplace _ _ q hq
    exact .inr ⟨by omega, .inl (by omega)⟩

end

lemma pairwise_routeProblems (i : ℕ) (r : RouteEntry) : (routeProblems i r).Pairwise Before := by
  have hmethods : Before (.noMethods i r.path) (.noHandler i r.path) :=
    .inr ⟨rfl, .inr ⟨rfl, Nat.zero_lt_one⟩⟩
  have hfirst : Before (.noMethods i r.path) (.relativeRoute i r.path) :=
    .inr ⟨rfl, .inr ⟨rfl, Nat.zero_lt_two⟩⟩
  have hhandler : Before (.noHandler i r.path) (.relativeRoute i r.path) :=
    .inr ⟨rfl, .inr ⟨rfl, Nat.one_lt_two⟩⟩
  unfold routeProblems
  split <;> split <;> split <;> simp [hmethods, hfirst, hhandler]

lemma pairwise_aliasProblems (i : ℕ) (a : AliasEntry) : (aliasProblems i a).Pairwise Before := by
  unfold aliasProblems
  split <;> simp

/-! ## The report -/

theorem mem_problems_iff {c : Config} {p : ConfigProblem} : p ∈ c.problems ↔ c.Breaks p := by
  rw [problems, List.mem_append, mem_problemsFrom_iff, mem_problemsFrom_iff]
  simp only [Nat.zero_add, mem_routeProblems_iff, mem_aliasProblems_iff]
  constructor
  · rintro (⟨i, r, hentry, ⟨h, rfl⟩ | ⟨h, rfl⟩ | ⟨h, rfl⟩⟩ | ⟨i, a, hentry, h, rfl⟩)
    · exact .noMethods hentry h
    · exact .noHandler hentry h
    · exact .relativeRoute hentry h
    · exact .relativeAlias hentry h
  · intro h
    cases h with
    | noMethods entry none => exact .inl ⟨_, _, entry, .inl ⟨none, rfl⟩⟩
    | noHandler entry unnamed => exact .inl ⟨_, _, entry, .inr (.inl ⟨unnamed, rfl⟩)⟩
    | relativeRoute entry relative => exact .inl ⟨_, _, entry, .inr (.inr ⟨relative, rfl⟩)⟩
    | relativeAlias entry relative => exact .inr ⟨_, _, entry, relative, rfl⟩

/-- Validation finds what breaks a rule, and lists it in order. -/
theorem problems_report (c : Config) : c.Report c.problems := by
  refine ⟨fun p => mem_problems_iff, ?_⟩
  rw [problems, List.pairwise_append]
  refine ⟨pairwise_problemsFrom (fun _ _ _ => place_of_mem_routeProblems) pairwise_routeProblems _ _,
    pairwise_problemsFrom (fun _ _ _ => place_of_mem_aliasProblems) pairwise_aliasProblems _ _, ?_⟩
  intro p hp q hq
  obtain ⟨i, r, -, hp⟩ := mem_problemsFrom_iff.1 hp
  obtain ⟨j, a, -, hq⟩ := mem_problemsFrom_iff.1 hq
  have hgroup := (place_of_mem_routeProblems hp).1
  have hgroup' := (place_of_mem_aliasProblems hq).1
  exact .inl (by omega)

/-- A configuration is valid if no rule is broken, and is refused with a report otherwise. -/
theorem validate_cases (c : Config) :
    ((∀ p, ¬ c.Breaks p) ∧ c.validate = .ok ()) ∨
    ((∃ p, c.Breaks p) ∧ c.validate = .error (.invalidConfig c.problems)) := by
  unfold validate
  cases hproblems : c.problems with
  | nil =>
    refine .inl ⟨fun p hp => ?_, rfl⟩
    simpa [hproblems] using mem_problems_iff.2 hp
  | cons p ps =>
    refine .inr ⟨⟨p, mem_problems_iff.1 ?_⟩, rfl⟩
    rw [hproblems]
    exact List.mem_cons_self

end Config

end UriRouting
