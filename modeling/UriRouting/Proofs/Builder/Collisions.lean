import UriRouting.Proofs.Builder.Refusal
import UriRouting.Proofs.Router.Literal
import UriRouting.Proofs.Template.Outline

/-!
# Which declarations collide

Two declarations collide if a key of one is a key of the other.  A key holds the method, whether the
route is literal, and the key of the template; so literal and variable declarations collide with
their like only, and only if they share a method and have the same text up to the names of the
variables (`Builder.routeKey_eq_iff`).  Where duplicates are refused, a declaration that compiles is
refused exactly if an accepted one before it collides with it (`Builder.keys_up_to_names`).

Pattern templates are left out.  The key of one may well be that of a variable template, since both
have a `*` for a hole.
-/

namespace UriRouting

variable {H : Type}

/-! ## Keys of one style -/

namespace Template

variable {style style' : TemplateStyle} {text text' : String} {escaped escaped' : Bool}
  {t t' : Template}

lemma key_eq_iff_outline_eq (hstyle : style ≠ .pattern) (h : compile style text escaped = .ok t)
    (h' : compile style text' escaped' = .ok t') : t.key = t'.key ↔ t.outline = t'.outline := by
  cases style with
  | literal =>
    rw [outline_of_literal h, outline_of_literal h']
    exact key_eq_iff_of_literal h h'
  | «variable» => exact key_eq_iff_of_variable h h'
  | pattern => exact absurd rfl hstyle

/-- Among literal and variable templates the kind of a route tells the style. -/
lemma isLiteral_eq_iff (hstyle : style ≠ .pattern) (hstyle' : style' ≠ .pattern)
    (h : compile style text escaped = .ok t) (h' : compile style' text' escaped' = .ok t') :
    t.isLiteral = t'.isLiteral ↔ style = style' := by
  rw [Bool.eq_iff_iff, style_of_isLiteral h, style_of_isLiteral h']
  cases style <;> cases style' <;> simp_all

end Template

namespace Builder

/-- Literal and variable routes have the same key exactly if they have the same method and the same
style, and the same text up to the names of the variables. -/
theorem routeKey_eq_iff {style style' : TemplateStyle} {text text' : String}
    {escaped escaped' : Bool} {t t' : Template} (hstyle : style ≠ .pattern)
    (hstyle' : style' ≠ .pattern) (h : Template.compile style text escaped = .ok t)
    (h' : Template.compile style' text' escaped' = .ok t') {method method' : Method} :
    routeKey t method = routeKey t' method' ↔
      method = method' ∧ style = style' ∧ t.outline = t'.outline := by
  rw [routeKey, routeKey, RouteKey.mk.injEq, Template.isLiteral_eq_iff hstyle hstyle' h h']
  refine and_congr_right fun _ => and_congr_right fun heq => ?_
  subst heq
  exact Template.key_eq_iff_outline_eq hstyle h h'

/-! ## Collisions in a history -/

lemma declaration_mem_of_mem_tried {b : Builder H} {ds : List (Declaration H)} {x : Trial H}
    (h : x ∈ b.tried ds) : x.declaration ∈ ds := by
  induction ds generalizing b with
  | nil => simp [tried] at h
  | cons d ds ih =>
    rw [tried, List.mem_cons] at h
    rcases h with rfl | h
    · exact List.mem_cons_self
    · cases hrefusal : (b.addRoute d).refusal with
      | some e => simp [hrefusal] at h
      | none =>
        simp only [hrefusal] at h
        exact List.mem_cons_of_mem d (ih h)

lemma declaration_mem_of_mem_trials {b : Builder H} {ops : List (Operation H)} {x : Trial H}
    (h : x ∈ b.trials ops) : ∃ op ∈ ops, x.declaration ∈ op.declarations := by
  induction ops generalizing b with
  | nil => simp [trials] at h
  | cons op ops ih =>
    rw [trials, List.mem_append] at h
    rcases h with h | h
    · exact ⟨op, List.mem_cons_self, declaration_mem_of_mem_tried h⟩
    · obtain ⟨op', hop', hmem⟩ := ih h
      exact ⟨op', List.mem_cons_of_mem op hop', hmem⟩

section

variable {options : RouterOptions} {ops : List (Operation H)} {d : Declaration H} {t : Template}

/-- A key of a literal or a variable declaration is registered by an accepted declaration of the
same style for the same method, which has the same text up to the names of the variables. -/
lemma registered_iff (hops : ∀ op ∈ ops, ∀ e ∈ op.declarations, e.style ≠ .pattern)
    (hstyle : d.style ≠ .pattern)
    (h : Template.compile d.style d.template options.escapeLiterals = .ok t) {method : Method} :
    (withOptions options).Registered ops (routeKey t method) ↔
      ∃ x ∈ (withOptions options).trials ops, x.Accepted ∧ x.declaration.style = d.style ∧
        method ∈ x.declaration.methods ∧ ∃ u,
          Template.compile x.declaration.style x.declaration.template options.escapeLiterals =
            .ok u ∧ u.outline = t.outline := by
  refine exists_congr fun x => and_congr_right fun hx => and_congr_right fun haccepted => ?_
  obtain ⟨op, hop, hmem⟩ := declaration_mem_of_mem_trials hx
  have hother : x.declaration.style ≠ .pattern := hops op hop _ hmem
  -- the builder that the declaration met has compiled it under the same options
  have hoptions : x.builder.options = options := options_of_mem_trials hx
  have hcompiles := ((x.builder.addRoute_refusal_eq_none_iff x.declaration).1 haccepted).1
  rw [hoptions] at hcompiles
  obtain ⟨u, hu⟩ : ∃ u, Template.compile x.declaration.style x.declaration.template
      options.escapeLiterals = .ok u := ⟨_, Success.eq_ok_get hcompiles⟩
  rw [show (withOptions options : Builder H).options = options from rfl, mem_keys_iff hu]
  simp only [routeKey_eq_iff hother hstyle hu h]
  constructor
  · rintro ⟨m, hm, rfl, hsame, houtline⟩
    exact ⟨hsame, hm, u, hu, houtline⟩
  · rintro ⟨hsame, hm, v, hv, houtline⟩
    obtain rfl : u = v := Except.ok.inj (hu.symm.trans hv)
    exact ⟨method, hm, rfl, hsame, houtline⟩

/-- Where duplicates are refused, a declaration that compiles is refused as a duplicate exactly if
one of its keys is registered. -/
lemma exists_duplicate_iff (hreject : options.duplicates = .reject)
    (h : Template.compile d.style d.template options.escapeLiterals = .ok t) :
    (∃ method template, (((withOptions options).run ops).addRoute d).refusal =
        some (.duplicateRoute method template)) ↔
      ∃ method ∈ d.methods, (withOptions options).Registered ops (routeKey t method) := by
  set b : Builder H := (withOptions options).run ops with hb
  have hoptions : b.options = options := ((withOptions options).run_grown ops).options_eq
  have hseen : ∀ k, k ∈ b.seen ↔ (withOptions options).Registered ops k :=
    mem_seen_iff_registered options ops
  have hcompile := h
  rw [← hoptions] at hcompile
  constructor
  · rintro ⟨method, template, hrefusal⟩
    obtain ⟨-, before, m, after, hmethods, hkey, -, -⟩ :=
      (addRoute_refusal_eq_some_iff hcompile).1 hrefusal
    refine ⟨m, ?_, (hseen _).1 hkey⟩
    rw [hmethods]
    exact List.mem_append_right before List.mem_cons_self
  · rintro ⟨m, hm, hregistered⟩
    have hrefused : (b.addRoute d).refusal ≠ none := by
      rw [ne_eq, addRoute_refusal_eq_none_iff, hoptions]
      rintro ⟨-, hnew⟩
      exact hnew hreject _ ((mem_keys_iff h).2 ⟨m, hm, rfl⟩) ((hseen _).2 hregistered)
    obtain ⟨e, he⟩ := Option.ne_none_iff_exists'.1 hrefused
    obtain ⟨-, before, method, after, -, -, -, rfl⟩ := (addRoute_refusal_eq_some_iff hcompile).1 he
    exact ⟨method, t.path, he⟩

end

/-- The key of a compiled template ends with a NUL and holds no other.  Variable templates have the
same key exactly if they differ in the names of their variables at most, literal templates exactly
if they are the same text, and a literal and a variable route are never registered under one key.

So, in a history of literal and variable declarations where duplicates are refused, a further
declaration that compiles is refused as a duplicate exactly if one that was accepted before it has
the same style, a method in common, and the same text up to the names of the variables. -/
theorem keys_up_to_names :
    (∀ t : Template, t.Compiled → Ended t.key) ∧
    (∀ text text' escaped escaped' t t', Template.variableTemplate text escaped = .ok t →
      Template.variableTemplate text' escaped' = .ok t' →
        (t.key = t'.key ↔ t.outline = t'.outline)) ∧
    (∀ text text' t t', Template.literal text = .ok t → Template.literal text' = .ok t' →
      t.outline = t.path ∧ (t.key = t'.key ↔ t.path = t'.path)) ∧
    (∀ text text' escaped t t' method method', Template.literal text = .ok t →
      Template.variableTemplate text' escaped = .ok t' → routeKey t method ≠ routeKey t' method') ∧
    ∀ (escaped : Bool) (ops : List (Operation H)),
      (∀ op ∈ ops, ∀ d ∈ op.declarations, d.style ≠ .pattern) →
      ∀ (d : Declaration H) (t : Template), d.style ≠ .pattern →
        Template.compile d.style d.template escaped = .ok t →
        ((∃ method template, (((withOptions ⟨escaped, .reject⟩).run ops).addRoute d).refusal =
            some (.duplicateRoute method template)) ↔
          ∃ x ∈ (withOptions ⟨escaped, .reject⟩).trials ops, x.Accepted ∧
            x.declaration.style = d.style ∧ (∃ method ∈ d.methods, method ∈ x.declaration.methods) ∧
            ∃ u, Template.compile x.declaration.style x.declaration.template escaped = .ok u ∧
              u.outline = t.outline) := by
  refine ⟨fun t ht => ht.ended, ?_, ?_, ?_, ?_⟩
  · intro text text' escaped escaped' t t' h h'
    exact Template.key_eq_iff_of_variable h h'
  · intro text text' t t' h h'
    exact ⟨Template.outline_of_literal h, Template.key_eq_iff_of_literal h h'⟩
  · intro text text' escaped t t' method method' h h' heq
    have hliteral : Template.compile .literal text escaped = .ok t := h
    have hvariable : Template.compile .variable text' escaped = .ok t' := h'
    have hl : TemplateStyle.literal ≠ .pattern := by decide
    have hv : TemplateStyle.variable ≠ .pattern := by decide
    obtain ⟨-, hstyle, -⟩ := (routeKey_eq_iff hl hv hliteral hvariable).1 heq
    cases hstyle
  · intro escaped ops hops d t hstyle h
    let options : RouterOptions := ⟨escaped, .reject⟩
    have hcompile : Template.compile d.style d.template options.escapeLiterals = .ok t := h
    have hreject : options.duplicates = .reject := rfl
    rw [exists_duplicate_iff hreject hcompile]
    simp only [registered_iff hops hstyle hcompile]
    constructor
    · rintro ⟨method, hm, x, hx, haccepted, hsame, hmethod, hu⟩
      exact ⟨x, hx, haccepted, hsame, ⟨method, hm, hmethod⟩, hu⟩
    · rintro ⟨x, hx, haccepted, hsame, ⟨method, hm, hmethod⟩, hu⟩
      exact ⟨method, hm, x, hx, haccepted, hsame, hmethod, hu⟩

/-- A literal route whose text has a `*`, and a group of variable routes that is refused at its
second declaration. -/
def starredFiles : List (Operation ℕ) :=
  [.route ⟨[.get], "/files/*", .literal, 1⟩,
    .routes [⟨[.get, .put], "/files/\x7bname\x7d", .variable, 2⟩,
      ⟨[.get], "/files/\x7bkey\x7d/", .variable, 3⟩, ⟨[.post], "/files/new", .literal, 4⟩]]

/-- Files by their names. -/
def fileByName : Template := .ofText .variable "/files/./\x7bname\x7d" true (by decide +kernel)

/-- The same files under another name for the variable. -/
def fileById : Template := .ofText .variable "//files/\x7bid\x7d" true (by decide +kernel)

/-- The file whose name is a `*`. -/
def starredFile : Template := .ofText .literal "/files/*" true (by decide +kernel)

/-- A variable under another name collides with the accepted declaration of `starredFiles` that it
shares a method with, and not with the literal route of the same bytes. -/
theorem renamed_file_collides :
    let start : Builder ℕ := withOptions ⟨true, .reject⟩
    let d : Declaration ℕ := ⟨[.post, .put], "//files/\x7bid\x7d", .variable, 5⟩
    Ended starredFile.key ∧ fileByName.key = fileById.key ∧ starredFile.key = fileById.key ∧
      starredFile.outline = "/files/*" ∧ routeKey starredFile .get ≠ routeKey fileById .get ∧
      ((start.run starredFiles).addRoute d).refusal =
        some (.duplicateRoute .put "/files/\x7bid\x7d") ∧
      ∃ x ∈ start.trials starredFiles, x.Accepted ∧ x.declaration.style = .variable ∧
        (∃ method ∈ d.methods, method ∈ x.declaration.methods) ∧
        ∃ u, Template.compile x.declaration.style x.declaration.template true = .ok u ∧
          u.outline = "/files/\x7b\x7d" := by
  intro start d
  obtain ⟨hended, hvariable, hliteral, hapart, hcollides⟩ := @keys_up_to_names ℕ
  have hname : Template.compile .variable "/files/./\x7bname\x7d" true = .ok fileByName :=
    Template.compile_eq_ofText _
  have hid : Template.compile .variable "//files/\x7bid\x7d" true = .ok fileById :=
    Template.compile_eq_ofText _
  have hstar : Template.compile .literal "/files/*" true = .ok starredFile :=
    Template.compile_eq_ofText _
  have houtlines : fileByName.outline = "/files/\x7b\x7d" ∧ fileById.outline = "/files/\x7b\x7d" ∧
      starredFile.path = "/files/*" := by
    decide +kernel
  obtain ⟨hnamed, hided, hpath⟩ := houtlines
  have hrefusal : ((start.run starredFiles).addRoute d).refusal =
      some (.duplicateRoute .put "/files/\x7bid\x7d") := by
    decide +kernel
  refine ⟨hended _ ⟨.literal, _, true, hstar⟩, ?_, by decide +kernel, ?_, ?_, hrefusal, ?_⟩
  · exact (hvariable _ _ _ _ _ _ hname hid).2 (hnamed.trans hided.symm)
  · exact (hliteral _ _ _ _ hstar hstar).1.trans hpath
  · exact hapart _ _ _ _ _ _ _ hstar hid
  · have hops : ∀ op ∈ starredFiles, ∀ e ∈ op.declarations, e.style ≠ .pattern := by decide
    have h := (hcollides true starredFiles hops d fileById (by decide) hid).1 ⟨_, _, hrefusal⟩
    rwa [hided] at h

end Builder

end UriRouting
