import UriRouting.Proofs.Builder.Deduplication

/-!
# The methods of a builder apart

Routes that are registered under other methods have no influence on what a method resolves to.  A
route's key holds its method, so of a method's routes the same come first under their keys whether
or not routes of other methods are declared among them (`filter_firstByKey`).
`Builder.methods_apart` compares a builder with one that is told of one method only
(`Declaration.only`, `restrictTo`).
-/

namespace UriRouting

variable {H : Type}

open Builder

/-! ## The routes of one method -/

lemma filter_firstByKey (method : Method) {seen seen' : List RouteKey}
    (h : ∀ k, k.method = method → (k ∈ seen ↔ k ∈ seen')) (routes : List (Method × Mapping H)) :
    (firstByKey seen routes).filter (·.1 = method) =
      firstByKey seen' (routes.filter (·.1 = method)) := by
  induction routes generalizing seen seen' with
  | nil => rfl
  | cons route routes ih =>
    by_cases hmethod : route.1 = method
    · have htail : (firstByKey (seen ++ [keyOfRoute route]) routes).filter (·.1 = method) =
          firstByKey (seen' ++ [keyOfRoute route]) (routes.filter (·.1 = method)) :=
        ih fun k hk => by rw [List.mem_append, List.mem_append, h k hk]
      rw [List.filter_cons_of_pos (by simpa using hmethod), firstByKey, firstByKey, ← htail]
      by_cases hseen : keyOfRoute route ∈ seen
      · rw [if_pos hseen, if_pos ((h _ hmethod).1 hseen)]
      · rw [if_neg hseen, if_neg (mt (h _ hmethod).2 hseen),
          List.filter_cons_of_pos (by simpa using hmethod)]
    · have htail : (firstByKey (seen ++ [keyOfRoute route]) routes).filter (·.1 = method) =
          firstByKey seen' (routes.filter (·.1 = method)) := by
        refine ih fun k hk => ?_
        have hne : k ≠ keyOfRoute route := by
          rintro rfl
          exact hmethod hk
        rw [List.mem_append, List.mem_singleton, or_iff_left hne, h k hk]
      rw [List.filter_cons_of_neg (by simpa using hmethod), firstByKey, ← htail]
      split
      · rfl
      · rw [List.filter_cons_of_neg (by simpa using hmethod)]

/-- A method's tables are filled with its own routes. -/
lemma Builder.mappingsOf_filter (literal : Bool) (method : Method)
    (routes : List (Method × Mapping H)) :
    mappingsOf literal method (routes.filter (·.1 = method)) =
      mappingsOf literal method routes := by
  rw [mappingsOf, mappingsOf, List.filter_filter]
  congr 2
  funext route
  by_cases hmethod : route.1 = method <;> simp [hmethod]

lemma Builder.mappingsOf_filter_of_ne (literal : Bool) {method method' : Method}
    (h : method' ≠ method) (routes : List (Method × Mapping H)) :
    mappingsOf literal method' (routes.filter (·.1 = method)) = [] := by
  rw [mappingsOf, List.filter_filter, List.map_eq_nil_iff, List.filter_eq_nil_iff]
  rintro route -
  simp only [Bool.and_eq_true, decide_eq_true_eq, not_and]
  rintro ⟨hmethod', -⟩ hmethod
  exact h (hmethod'.symm.trans hmethod)

/-! ## Declarations for one method -/

/-- The declaration for one method only. -/
def Declaration.only (method : Method) (d : Declaration H) : Declaration H :=
  { d with methods := [method] }

/-- The declarations that name the method, each of them for this method only. -/
def restrictTo (method : Method) (ds : List (Declaration H)) : List (Declaration H) :=
  (ds.filter (method ∈ ·.methods)).map (Declaration.only method)

/-- A declaration for one method stands for the method's route. -/
lemma Declaration.routes_only (options : RouterOptions) {method : Method} {d : Declaration H}
    (h : method ∈ d.methods) : ((d.only method).routes options).map bareRoute =
      ((d.routes options).filter (·.1 = method)).map bareRoute := by
  cases hc : Template.compile d.style d.template options.escapeLiterals with
  | error e =>
    rw [routes_of_eq_error hc, routes_of_eq_error (d := d.only method) hc]
    rfl
  | ok t =>
    have hone : (uniqueMethods d.methods).filter (· = method) = [method] := by
      rw [List.filter_eq, List.count_eq_one_of_mem (nodup_uniqueMethods d.methods)
        (mem_uniqueMethods.2 h), List.replicate_one]
    rw [routes_of_eq_ok hc, routes_of_eq_ok (d := d.only method) hc, List.filter_map,
      List.map_map, List.map_map]
    exact (congrArg _ hone).symm

lemma Declaration.filter_routes_of_not_mem (options : RouterOptions) {method : Method}
    {d : Declaration H} (h : method ∉ d.methods) :
    (d.routes options).filter (·.1 = method) = [] := by
  rw [List.filter_eq_nil_iff]
  intro route hroute hmethod
  obtain ⟨-, -, hmem, -⟩ := Declaration.mem_routes_iff.1 hroute
  exact h (of_decide_eq_true hmethod ▸ hmem)

/-- The routes of the declarations for one method are the method's routes. -/
theorem routes_restrictTo (options : RouterOptions) (method : Method) (ds : List (Declaration H)) :
    ((restrictTo method ds).flatMap (Declaration.routes options)).map bareRoute =
      ((ds.flatMap (Declaration.routes options)).filter (·.1 = method)).map bareRoute := by
  induction ds with
  | nil => rfl
  | cons d ds ih =>
    rw [List.flatMap_cons, List.filter_append, List.map_append, ← ih]
    by_cases h : method ∈ d.methods
    · have hcons : restrictTo method (d :: ds) = d.only method :: restrictTo method ds := by
        rw [restrictTo, List.filter_cons_of_pos (by simpa using h)]
        rfl
      rw [hcons, List.flatMap_cons, List.map_append, Declaration.routes_only options h]
    · have hcons : restrictTo method (d :: ds) = restrictTo method ds := by
        rw [restrictTo, List.filter_cons_of_neg (by simpa using h)]
        rfl
      rw [hcons, Declaration.filter_routes_of_not_mem options h, List.map_nil, List.nil_append]

/-! ## Builders for one method -/

namespace Builder

/-- A method resolves every path as if nothing had been declared for other methods.  The
declarations for it alone are accepted too, and build a router wherever all of them do. -/
theorem methods_apart (escapeLiterals : Bool) (aliases : List Alias) (observer : Option Observer)
    {ds : List (Declaration H)} (hc : ∀ d ∈ ds, d.Compiles ⟨escapeLiterals, .ignore⟩)
    (method : Method) :
    let b : Builder H := ⟨⟨escapeLiterals, .ignore⟩, [], [], aliases, observer⟩
    let alone := restrictTo method ds
    (b.addRoutes ds).refusal = none ∧ (b.addRoutes alone).refusal = none ∧
    ((b.addRoutes ds).builder.build.toOption.isSome →
      (b.addRoutes alone).builder.build.toOption.isSome) ∧
    ∀ r r' events events', (b.addRoutes ds).builder.build = .ok (r, events) →
      (b.addRoutes alone).builder.build = .ok (r', events') →
      ∀ raw, Router.AnswersAlike (r.resolve method raw).answer (r'.resolve method raw).answer := by
  intro b alone
  have hcalone : ∀ d ∈ alone, d.Compiles b.options := by
    intro d hd
    obtain ⟨e, he, rfl⟩ := List.mem_map.1 hd
    exact hc e (List.mem_filter.1 he).1
  obtain ⟨hrefusal, hbuilder⟩ := addRoutes_ignore (b := b) rfl hc
  obtain ⟨hrefusal', hbuilder'⟩ := addRoutes_ignore (b := b) rfl hcalone
  set routes := ds.flatMap (Declaration.routes b.options)
  have halone : (b.addRoutes alone).builder.routes.map bareRoute =
      ((b.addRoutes ds).builder.routes.filter (·.1 = method)).map bareRoute := by
    have hroutes : (b.addRoutes ds).builder.routes = firstByKey [] routes := by
      rw [hbuilder]
      rfl
    have hroutes' : (b.addRoutes alone).builder.routes =
        firstByKey [] (alone.flatMap (Declaration.routes b.options)) := by
      rw [hbuilder']
      rfl
    rw [hroutes, hroutes', filter_firstByKey method fun _ _ => Iff.rfl, ← firstByKey_bareRoute,
      ← firstByKey_bareRoute, routes_restrictTo]
  have hsame : ∀ literal, (mappingsOf literal method (b.addRoutes ds).builder.routes).map
      Mapping.bare =
        (mappingsOf literal method (b.addRoutes alone).builder.routes).map Mapping.bare := by
    intro literal
    rw [mappingsOf_bareRoute literal method (b.addRoutes alone).builder.routes, halone,
      ← mappingsOf_bareRoute, mappingsOf_filter]
  refine ⟨hrefusal, hrefusal', ?_, ?_⟩
  · rw [build_isSome_iff, build_isSome_iff]
    intro hall method'
    by_cases hmethod : method' = method
    · subst hmethod
      rw [← admits_bare, ← hsame false, admits_bare]
      exact hall method'
    · rw [← admits_bare, mappingsOf_bareRoute, halone, ← mappingsOf_bareRoute,
        mappingsOf_filter_of_ne false hmethod]
      trivial
  · intro r r' events events' hr hr'
    refine (built_alike hr hr' ?_ hsame).2.2
    rw [hbuilder, hbuilder']
    rfl

/-- Users are created by the same handler if no route is declared for other methods. -/
theorem created_user_alone :
    (∀ d ∈ repeatedRoutes, d.Compiles ⟨true, .ignore⟩) ∧
    let b : Builder ℕ := ⟨⟨true, .ignore⟩, [], [], [⟨"/u", "/users"⟩], none⟩
    ∃ r events r' events', (b.addRoutes repeatedRoutes).builder.build = .ok (r, events) ∧
      (b.addRoutes (restrictTo .post repeatedRoutes)).builder.build = .ok (r', events') ∧
      ((r.resolve .post "/u//me").answer.toOption.bind (·.map (·.mapping.handler))) = some 1 ∧
      Router.AnswersAlike (r.resolve .post "/u//me").answer (r'.resolve .post "/u//me").answer := by
  have hc : ∀ d ∈ repeatedRoutes, d.Compiles ⟨true, .ignore⟩ := by decide +kernel
  refine ⟨hc, ?_⟩
  intro b
  have hserved : ((b.addRoutes repeatedRoutes).builder.build.toOption.bind fun built =>
      (built.1.resolve .post "/u//me").answer.toOption.bind (·.map (·.mapping.handler))) =
        some 1 := by
    decide +kernel
  obtain ⟨⟨r, events⟩, hr⟩ : ∃ built, (b.addRoutes repeatedRoutes).builder.build = .ok built :=
    ⟨_, Success.eq_ok_get (by decide +kernel)⟩
  obtain ⟨-, -, hbuilds, halike⟩ := methods_apart true [⟨"/u", "/users"⟩] none hc .post
  obtain ⟨⟨r', events'⟩, hr'⟩ : ∃ built,
      (b.addRoutes (restrictTo .post repeatedRoutes)).builder.build = .ok built :=
    ⟨_, Success.eq_ok_get (hbuilds (by decide +kernel))⟩
  rw [hr] at hserved
  exact ⟨r, events, r', events', hr, hr', hserved, halike r r' events events' hr hr' _⟩

end Builder

end UriRouting
