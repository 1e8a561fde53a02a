import UriRouting.Proofs.Builder.Order
import UriRouting.Proofs.Router.Redirect

/-!
# Builders and their histories

A builder comes about by calls: declarations added one by one or in groups, aliases, an observer.
Some of the calls may be refused, and the next ones go on with what they left behind.
`Builder.perform` is one call and `Builder.run` the builder after any number of them.

What holds of every such builder is carried by one lemma about a call and one about a run.  Here
these are that the registered routes are compiled (`Builder.routesCompiled_run`) and that the
aliases are canonical (`Builder.aliasesCanonical_run`).
-/

namespace UriRouting

variable {H : Type}

/-- A call on a builder. -/
inductive Operation (H : Type) where
  /-- Register a declaration. -/
  | route (d : Declaration H)
  /-- Register some declarations, up to the first that is refused. -/
  | routes (ds : List (Declaration H))
  /-- Register an alias. -/
  | redirect (front target : String)
  /-- Install an observer. -/
  | observe (observer : Observer)

namespace Builder

/-- What comes of a call. -/
def perform (b : Builder H) : Operation H → Registration H
  | .route d => b.addRoute d
  | .routes ds => b.addRoutes ds
  | .redirect front target => b.addAlias front target
  | .observe observer => ⟨b.observe observer, [], none⟩

/-- The builder after some calls, refused or not. -/
def run (b : Builder H) (ops : List (Operation H)) : Builder H :=
  ops.foldl (fun b op => (b.perform op).builder) b

/-- What every call keeps, every run keeps. -/
theorem run_invariant {P : Builder H → Prop}
    (hstep : ∀ b op, P b → P (Builder.perform b op).builder) {b : Builder H} (h : P b)
    (ops : List (Operation H)) : P (b.run ops) := by
  induction ops generalizing b with
  | nil => exact h
  | cons op ops ih => exact ih (hstep b op h)

/-! ## Single calls -/

/-- A compiled declaration leaves everything but the routes and their keys as it is, and adds
nothing but its own mapping. -/
lemma addCompiled_spec (b : Builder H) (methods : List Method) (t : Template) (handler : H) :
    (b.addCompiled methods t handler).builder.aliases = b.aliases ∧
      ∀ r ∈ (b.addCompiled methods t handler).builder.routes,
        r ∈ b.routes ∨ r.2 = ⟨methods, t, handler⟩ := by
  unfold addCompiled
  split
  · exact ⟨rfl, fun r hr => .inl hr⟩
  · refine ⟨rfl, fun r hr => ?_⟩
    rcases List.mem_append.1 hr with hr | hr
    · exact .inl hr
    · obtain ⟨method, -, rfl⟩ := List.mem_map.1 hr
      exact .inr rfl

/-- A declaration adds no alias, and no mapping that is not compiled. -/
lemma addRoute_spec (b : Builder H) (d : Declaration H) :
    (b.addRoute d).builder.aliases = b.aliases ∧
      ∀ r ∈ (b.addRoute d).builder.routes, r ∈ b.routes ∨ r.2.Compiled := by
  unfold addRoute
  cases hc : Template.compile d.style d.template b.options.escapeLiterals with
  | error e => exact ⟨rfl, fun r hr => .inl hr⟩
  | ok t =>
    obtain ⟨haliases, hroutes⟩ := b.addCompiled_spec (uniqueMethods d.methods) t d.handler
    refine ⟨haliases, fun r hr => ?_⟩
    rcases hroutes r hr with hr | hr
    · exact .inl hr
    · rw [hr]
      exact .inr ⟨d.style, d.template, b.options.escapeLiterals, hc⟩

lemma addRoutes_spec (b : Builder H) (ds : List (Declaration H)) :
    (b.addRoutes ds).builder.aliases = b.aliases ∧
      ∀ r ∈ (b.addRoutes ds).builder.routes, r ∈ b.routes ∨ r.2.Compiled := by
  induction ds generalizing b with
  | nil => exact ⟨rfl, fun r hr => .inl hr⟩
  | cons d ds ih =>
    obtain ⟨haliases, hroutes⟩ := b.addRoute_spec d
    rw [addRoutes, Registration.andThen]
    split
    · exact ⟨haliases, hroutes⟩
    · obtain ⟨haliases', hroutes'⟩ := ih (b.addRoute d).builder
      refine ⟨haliases'.trans haliases, fun r hr => ?_⟩
      rcases hroutes' r hr with hr | hr
      · exact hroutes r hr
      · exact .inr hr

/-- An alias is added with both of its paths made canonical, and changes nothing else. -/
lemma addAlias_spec (b : Builder H) (front target : String) :
    (b.addAlias front target).builder.routes = b.routes ∧
      ∀ a ∈ (b.addAlias front target).builder.aliases, a ∈ b.aliases ∨ a.Canonical := by
  unfold addAlias
  cases hfront : canonicalPath front with
  | error e => exact ⟨rfl, fun a ha => .inl ha⟩
  | ok f =>
    cases htarget : canonicalPath target with
    | error e => exact ⟨rfl, fun a ha => .inl ha⟩
    | ok t =>
      refine ⟨rfl, fun a ha => ?_⟩
      rcases List.mem_append.1 ha with ha | ha
      · exact .inl ha
      · rw [List.mem_singleton.1 ha]
        exact .inr ⟨canonical_of_canonicalPath hfront, canonical_of_canonicalPath htarget⟩

/-! ## Runs -/

/-- Every registered route has been compiled. -/
def RoutesCompiled (b : Builder H) : Prop := ∀ r ∈ b.routes, r.2.Compiled

/-- Every registered alias is one between canonical paths. -/
def AliasesCanonical (b : Builder H) : Prop := ∀ a ∈ b.aliases, a.Canonical

lemma routesCompiled_perform (b : Builder H) (op : Operation H) (h : b.RoutesCompiled) :
    (b.perform op).builder.RoutesCompiled := by
  have hadded : ∀ {b' : Builder H}, (∀ r ∈ b'.routes, r ∈ b.routes ∨ r.2.Compiled) →
      b'.RoutesCompiled := fun hroutes r hr => (hroutes r hr).elim (h r) id
  cases op with
  | route d => exact hadded (b.addRoute_spec d).2
  | routes ds => exact hadded (b.addRoutes_spec ds).2
  | redirect front target =>
    intro r hr
    rw [perform, (b.addAlias_spec front target).1] at hr
    exact h r hr
  | observe observer => exact h

lemma aliasesCanonical_perform (b : Builder H) (op : Operation H) (h : b.AliasesCanonical) :
    (b.perform op).builder.AliasesCanonical := by
  intro a ha
  cases op with
  | route d =>
    rw [perform, (b.addRoute_spec d).1] at ha
    exact h a ha
  | routes ds =>
    rw [perform, (b.addRoutes_spec ds).1] at ha
    exact h a ha
  | redirect front target =>
    rcases (b.addAlias_spec front target).2 a ha with ha | ha
    · exact h a ha
    · exact ha
  | observe observer => exact h a ha

theorem routesCompiled_run (options : RouterOptions) (ops : List (Operation H)) :
    ((withOptions options).run ops).RoutesCompiled :=
  run_invariant routesCompiled_perform (by simp [RoutesCompiled, withOptions]) ops

theorem aliasesCanonical_run (options : RouterOptions) (ops : List (Operation H)) :
    ((withOptions options : Builder H).run ops).AliasesCanonical :=
  run_invariant aliasesCanonical_perform (by simp [AliasesCanonical, withOptions]) ops

end Builder

end UriRouting
