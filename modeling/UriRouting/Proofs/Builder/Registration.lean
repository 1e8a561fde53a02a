import UriRouting.Proofs.Builder.Operations

/-!
# What declarations add

A declaration that is not refused adds those of its routes whose keys are new (`Builder.added`), and
a refused one adds nothing.  So the routes of a builder can be told from its history: they are what
the declarations have added that were put on trial, one after another (`Builder.run_grown`).
`Builder.trials` lists these declarations, each with the builder that it met.
-/

namespace UriRouting

variable {H : Type}

/-! ## One declaration -/

lemma Builder.mem_uniqueMethods {method : Method} {methods : List Method} :
    method ∈ uniqueMethods methods ↔ method ∈ methods := by
  have hfold : ∀ unique : List Method,
      method ∈ methods.foldl (fun unique m => if unique.contains m then unique else unique ++ [m])
        unique ↔ method ∈ unique ∨ method ∈ methods := by
    induction methods with
    | nil => simp
    | cons m methods ih =>
      intro unique
      rw [List.foldl_cons, ih, List.mem_cons]
      split
      · next htaken =>
        rw [List.contains_iff_mem] at htaken
        constructor
        · rintro (h | h)
          · exact .inl h
          · exact .inr (.inr h)
        · rintro (h | rfl | h)
          · exact .inl h
          · exact .inl htaken
          · exact .inr h
      · rw [List.mem_append, List.mem_singleton, or_assoc]
  exact (hfold []).trans (or_iff_right List.not_mem_nil)

lemma Declaration.routes_of_eq_error {options : RouterOptions} {d : Declaration H} {e : RouteError}
    (h : Template.compile d.style d.template options.escapeLiterals = .error e) :
    d.routes options = [] := by
  rw [routes, h]

lemma Declaration.routes_of_eq_ok {options : RouterOptions} {d : Declaration H} {t : Template}
    (h : Template.compile d.style d.template options.escapeLiterals = .ok t) :
    d.routes options = (Builder.uniqueMethods d.methods).map fun method =>
      (method, ⟨Builder.uniqueMethods d.methods, t, d.handler⟩) := by
  rw [routes, h]

/-- A declaration stands for one route for each of its methods, all with the same mapping. -/
lemma Declaration.mem_routes_iff {options : RouterOptions} {d : Declaration H}
    {route : Method × Mapping H} : route ∈ d.routes options ↔
      ∃ t, Template.compile d.style d.template options.escapeLiterals = .ok t ∧
        route.1 ∈ d.methods ∧ route.2 = ⟨Builder.uniqueMethods d.methods, t, d.handler⟩ := by
  obtain ⟨method, m⟩ := route
  cases hc : Template.compile d.style d.template options.escapeLiterals with
  | error e => simp [routes_of_eq_error hc]
  | ok t => simp [routes_of_eq_ok hc, Builder.mem_uniqueMethods, eq_comm (a := m)]

namespace Builder

/-- The routes that a declaration adds to a builder: none if it is refused, and otherwise those of
its routes whose keys are new. -/
def added (b : Builder H) (d : Declaration H) : List (Method × Mapping H) :=
  if (b.addRoute d).refusal = none then
    (d.routes b.options).filter fun route => keyOfRoute route ∉ b.seen
  else []

/-- Only an accepted declaration adds routes, and none but its own. -/
lemma of_mem_added {b : Builder H} {d : Declaration H} {route : Method × Mapping H}
    (h : route ∈ b.added d) :
    (b.addRoute d).refusal = none ∧ route ∈ d.routes b.options := by
  unfold added at h
  split at h
  · next haccepted => exact ⟨haccepted, (List.mem_filter.1 h).1⟩
  · simp at h

/-- A compiled declaration is refused only where a duplicate is. -/
lemma addCompiled_refusal (b : Builder H) (methods : List Method) (t : Template) (handler : H) :
    (b.addCompiled methods t handler).refusal = none ↔
      (b.options.duplicates = .reject → ∀ m ∈ methods, routeKey t m ∉ b.seen) := by
  have htaken : b.taken? t methods = none ↔ ∀ m ∈ methods, routeKey t m ∉ b.seen := by
    simp [taken?]
  unfold addCompiled
  cases hpolicy : b.options.duplicates with
  | ignore => simp
  | reject =>
    rw [← htaken]
    cases b.taken? t methods <;> simp

/-- A compiled declaration that is not refused is registered under the methods for which it is
new. -/
lemma addCompiled_builder {b : Builder H} {methods : List Method} {t : Template} {handler : H}
    (h : (b.addCompiled methods t handler).refusal = none) :
    (b.addCompiled methods t handler).builder =
      b.register ⟨methods, t, handler⟩ (b.fresh t methods) := by
  unfold addCompiled at h ⊢
  split at h
  · simp at h
  · next hcase =>
    cases hpolicy : b.options.duplicates with
    | ignore => rfl
    | reject =>
      cases htaken : b.taken? t methods with
      | none => rfl
      | some m => exact absurd htaken (hcase m hpolicy)

/-- A refused declaration leaves the builder as it is. -/
lemma addRoute_builder_of_refused {b : Builder H} {d : Declaration H}
    (h : (b.addRoute d).refusal ≠ none) : (b.addRoute d).builder = b := by
  unfold addRoute at h ⊢
  cases hc : Template.compile d.style d.template b.options.escapeLiterals with
  | error e => rfl
  | ok t =>
    simp only [hc] at h ⊢
    unfold addCompiled at h ⊢
    split
    · rfl
    · next hcase =>
      split at h
      · next method hpolicy htaken => exact absurd htaken (hcase method hpolicy)
      · simp at h

/-- A declaration is accepted exactly if its template compiles and, where duplicates are refused,
all of its keys are new. -/
theorem addRoute_refusal_eq_none_iff (b : Builder H) (d : Declaration H) :
    (b.addRoute d).refusal = none ↔ d.Compiles b.options ∧
      (b.options.duplicates = .reject → ∀ k ∈ d.keys b.options, k ∉ b.seen) := by
  unfold addRoute Declaration.Compiles Declaration.keys Declaration.routes
  cases hc : Template.compile d.style d.template b.options.escapeLiterals with
  | error e => simp [Except.toOption]
  | ok t =>
    simp only [addCompiled_refusal, Except.toOption, Option.isSome_some, true_and, List.map_map,
      List.forall_mem_map]
    rfl

/-- What a declaration does to the routes and their keys. -/
theorem addRoute_builder (b : Builder H) (d : Declaration H) :
    (b.addRoute d).builder = b.append (b.added d) := by
  by_cases haccepted : (b.addRoute d).refusal = none
  · rw [added, if_pos haccepted]
    unfold addRoute at haccepted ⊢
    unfold Declaration.routes
    cases hc : Template.compile d.style d.template b.options.escapeLiterals with
    | error e => simp [hc] at haccepted
    | ok t =>
      simp only [hc] at haccepted ⊢
      rw [addCompiled_builder haccepted, List.filter_map]
      have hfresh : b.fresh t (uniqueMethods d.methods) =
          (uniqueMethods d.methods).filter fun m => routeKey t m ∉ b.seen :=
        List.filter_congr fun m _ => by simp
      rw [hfresh, register, append, List.map_map]
      rfl
  · rw [addRoute_builder_of_refused haccepted, added, if_neg haccepted]
    simp [append]

end Builder

/-! ## Histories -/

/-- A declaration on trial: the builder that it meets, and the declaration. -/
structure Trial (H : Type) where
  builder : Builder H
  declaration : Declaration H

namespace Trial

/-- Whether the declaration is accepted. -/
def Accepted (x : Trial H) : Prop := (x.builder.addRoute x.declaration).refusal = none

/-- The routes that the declaration adds. -/
def added (x : Trial H) : List (Method × Mapping H) := x.builder.added x.declaration

end Trial

/-- The declarations that a call hands over. -/
def Operation.declarations : Operation H → List (Declaration H)
  | .route d => [d]
  | .routes ds => ds
  | .redirect _ _ => []
  | .observe _ => []

namespace Builder

/-- The declarations of a list that are put on trial: all up to the first that is refused. -/
def tried (b : Builder H) : List (Declaration H) → List (Trial H)
  | [] => []
  | d :: ds =>
    ⟨b, d⟩ ::
      match (b.addRoute d).refusal with
      | some _ => []
      | none => (b.addRoute d).builder.tried ds

/-- The declarations that are put on trial in the course of some calls. -/
def trials (b : Builder H) : List (Operation H) → List (Trial H)
  | [] => []
  | op :: ops => b.tried op.declarations ++ (b.perform op).builder.trials ops

/-- One builder has come from another by the registration of some routes, whatever has been done
to aliases and observer. -/
structure Grown (b : Builder H) (routes : List (Method × Mapping H)) (b' : Builder H) : Prop where
  options_eq : b'.options = b.options
  routes_eq : b'.routes = b.routes ++ routes
  seen_eq : b'.seen = b.seen ++ routes.map keyOfRoute

namespace Grown

variable {b b' b'' : Builder H} {routes routes' : List (Method × Mapping H)}

lemma refl (b : Builder H) : Grown b [] b := ⟨rfl, by simp, by simp⟩

lemma append (b : Builder H) (routes : List (Method × Mapping H)) :
    Grown b routes (b.append routes) :=
  ⟨rfl, rfl, rfl⟩

lemma trans (h : Grown b routes b') (h' : Grown b' routes' b'') :
    Grown b (routes ++ routes') b'' where
  options_eq := h'.options_eq.trans h.options_eq
  routes_eq := by rw [h'.routes_eq, h.routes_eq, List.append_assoc]
  seen_eq := by rw [h'.seen_eq, h.seen_eq, List.map_append, List.append_assoc]

end Grown

/-- The keys that a builder keeps are those of its routes. -/
def Keyed (b : Builder H) : Prop := b.seen = b.routes.map keyOfRoute

lemma Grown.keyed {b b' : Builder H} {routes : List (Method × Mapping H)} (h : Grown b routes b')
    (hb : b.Keyed) : b'.Keyed := by
  rw [Keyed, h.seen_eq, h.routes_eq, List.map_append, ← hb]

lemma addRoute_grown (b : Builder H) (d : Declaration H) :
    Grown b (b.added d) (b.addRoute d).builder := by
  rw [addRoute_builder]
  exact .append b _

lemma addRoutes_grown (b : Builder H) (ds : List (Declaration H)) :
    Grown b ((b.tried ds).flatMap Trial.added) (b.addRoutes ds).builder := by
  induction ds generalizing b with
  | nil => exact .refl b
  | cons d ds ih =>
    rw [tried, List.flatMap_cons, addRoutes, Registration.andThen]
    cases hrefusal : (b.addRoute d).refusal with
    | some e => simpa [Trial.added] using b.addRoute_grown d
    | none => exact (b.addRoute_grown d).trans (ih _)

/-- A call registers what the declarations add that it puts on trial. -/
theorem perform_grown (b : Builder H) (op : Operation H) :
    Grown b ((b.tried op.declarations).flatMap Trial.added) (b.perform op).builder := by
  cases op with
  | route d =>
    have hone : (b.tried [d]).flatMap Trial.added = b.added d := by
      rw [tried]
      cases (b.addRoute d).refusal <;> simp [tried, Trial.added]
    rw [Operation.declarations, hone]
    exact b.addRoute_grown d
  | routes ds => exact b.addRoutes_grown ds
  | redirect front target =>
    change Grown b [] (b.addAlias front target).builder
    unfold addAlias
    cases canonicalPath front with
    | error e => exact .refl b
    | ok f =>
      cases canonicalPath target with
      | error e => exact .refl b
      | ok t => exact ⟨rfl, by simp, by simp⟩
  | observe observer =>
    change Grown b [] (b.observe observer)
    exact ⟨rfl, by simp [Builder.observe], by simp [Builder.observe]⟩

/-- A run registers what the declarations add that it puts on trial. -/
theorem run_grown (b : Builder H) (ops : List (Operation H)) :
    Grown b ((b.trials ops).flatMap Trial.added) (b.run ops) := by
  induction ops generalizing b with
  | nil => exact .refl b
  | cons op ops ih =>
    rw [trials, List.flatMap_append]
    exact (b.perform_grown op).trans (ih _)

/-- The builder that a declaration of a list meets has what those before it have added. -/
lemma grown_of_tried {b : Builder H} {ds : List (Declaration H)} {before after : List (Trial H)}
    {x : Trial H} (h : b.tried ds = before ++ x :: after) :
    Grown b (before.flatMap Trial.added) x.builder := by
  induction ds generalizing b before with
  | nil => simp [tried] at h
  | cons d ds ih =>
    cases before with
    | nil =>
      obtain ⟨rfl, -⟩ := List.cons.inj h
      exact .refl b
    | cons y before =>
      obtain ⟨rfl, hrest⟩ := List.cons.inj h
      cases hrefusal : (b.addRoute d).refusal with
      | some e => simp [hrefusal] at hrest
      | none =>
        simp only [hrefusal] at hrest
        rw [List.flatMap_cons]
        exact (b.addRoute_grown d).trans (ih hrest)

/-- The builder that a declaration meets in a run has what those before it have added. -/
theorem grown_of_trials {b : Builder H} {ops : List (Operation H)} {before after : List (Trial H)}
    {x : Trial H} (h : b.trials ops = before ++ x :: after) :
    Grown b (before.flatMap Trial.added) x.builder := by
  induction ops generalizing b before with
  | nil => simp [trials] at h
  | cons op ops ih =>
    rw [trials] at h
    rcases List.append_eq_append_iff.1 h with ⟨more, rfl, hmore⟩ | ⟨more, hbefore, hmore⟩
    · rw [List.flatMap_append]
      exact (b.perform_grown op).trans (ih hmore)
    · cases more with
      | nil =>
        rw [List.append_nil] at hbefore
        have hgrown := b.perform_grown op
        rw [hbefore] at hgrown
        have hrest : Grown (b.perform op).builder ([].flatMap Trial.added) x.builder :=
          ih hmore.symm
        simpa using hgrown.trans hrest
      | cons y more =>
        obtain ⟨rfl, -⟩ := List.cons.inj hmore
        exact grown_of_tried hbefore

/-- All declarations of a run meet the same options. -/
lemma options_of_mem_trials {b : Builder H} {ops : List (Operation H)} {x : Trial H}
    (h : x ∈ b.trials ops) : x.builder.options = b.options := by
  obtain ⟨before, after, hsplit⟩ := List.append_of_mem h
  exact (grown_of_trials hsplit).options_eq

end Builder

end UriRouting
