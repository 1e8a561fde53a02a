import UriRouting.Proofs.Builder.Tables

/-!
# The order of registration

Declarations whose routes have different keys may be registered in any order.  Registration
appends their routes (`Builder.addRoutes_eq`), so a permutation of the declarations permutes the
routes, and with them the history of every table.  `Builder.registration_perm` says that no router
can tell the orders apart, and that none can be built in one order only.
-/

namespace UriRouting

variable {H : Type}

open Builder

/-! ## The routes of a declaration -/

/-- What a route is registered under. -/
def keyOfRoute (route : Method × Mapping H) : RouteKey := routeKey route.2.template route.1

/-- The routes that a declaration stands for: one for each of its methods, if its template
compiles. -/
def Declaration.routes (options : RouterOptions) (d : Declaration H) : List (Method × Mapping H) :=
  match Template.compile d.style d.template options.escapeLiterals with
  | .error _ => []
  | .ok t =>
    (uniqueMethods d.methods).map fun method => (method, ⟨uniqueMethods d.methods, t, d.handler⟩)

/-- The keys under which a declaration is registered. -/
def Declaration.keys (options : RouterOptions) (d : Declaration H) : List RouteKey :=
  (d.routes options).map keyOfRoute

/-- A template that compiles under the options. -/
def Declaration.Compiles (options : RouterOptions) (d : Declaration H) : Prop :=
  (Template.compile d.style d.template options.escapeLiterals).toOption.isSome

instance (options : RouterOptions) (d : Declaration H) : Decidable (d.Compiles options) :=
  inferInstanceAs (Decidable ((Template.compile _ _ _).toOption.isSome = true))

lemma Builder.nodup_uniqueMethods (methods : List Method) : (uniqueMethods methods).Nodup := by
  have hfold : ∀ unique : List Method, unique.Nodup →
      (methods.foldl (fun unique m => if unique.contains m then unique else unique ++ [m])
        unique).Nodup := by
    induction methods with
    | nil => exact fun unique h => h
    | cons m methods ih =>
      intro unique h
      rw [List.foldl_cons]
      refine ih _ ?_
      split
      · exact h
      · next hnew =>
        rw [List.contains_iff_mem] at hnew
        refine List.nodup_append.2 ⟨h, List.nodup_singleton m, ?_⟩
        rintro a ha b hb rfl
        exact hnew (List.mem_singleton.1 hb ▸ ha)
  exact hfold [] List.nodup_nil

namespace Declaration

variable {options : RouterOptions} {d : Declaration H}

lemma nodup_keys (options : RouterOptions) (d : Declaration H) : (d.keys options).Nodup := by
  unfold keys routes
  cases Template.compile d.style d.template options.escapeLiterals with
  | error e => simp
  | ok t =>
    rw [List.map_map]
    refine (nodup_uniqueMethods d.methods).map fun m n h => ?_
    exact congrArg RouteKey.method h

lemma compiled_of_mem_routes {route : Method × Mapping H} (h : route ∈ d.routes options) :
    route.2.Compiled := by
  unfold routes at h
  cases hc : Template.compile d.style d.template options.escapeLiterals with
  | error e => simp [hc] at h
  | ok t =>
    simp only [hc, List.mem_map] at h
    obtain ⟨method, -, rfl⟩ := h
    exact ⟨d.style, d.template, options.escapeLiterals, hc⟩

end Declaration

/-! ## Registration -/

namespace Builder

/-- The builder with some routes more. -/
def append (b : Builder H) (routes : List (Method × Mapping H)) : Builder H :=
  { b with routes := b.routes ++ routes, seen := b.seen ++ routes.map keyOfRoute }

lemma append_append (b : Builder H) (routes routes' : List (Method × Mapping H)) :
    (b.append routes).append routes' = b.append (routes ++ routes') := by
  simp [append]

/-- A declaration whose keys are new is registered as a whole. -/
lemma addRoute_eq {b : Builder H} {d : Declaration H} (hc : d.Compiles b.options)
    (hnew : ∀ k ∈ d.keys b.options, k ∉ b.seen) :
    (b.addRoute d).refusal = none ∧ (b.addRoute d).builder = b.append (d.routes b.options) := by
  unfold Declaration.Compiles at hc
  unfold Declaration.keys Declaration.routes at hnew
  unfold addRoute Declaration.routes
  cases ht : Template.compile d.style d.template b.options.escapeLiterals with
  | error e => simp [ht, Except.toOption] at hc
  | ok t =>
    simp only [ht, List.map_map, List.mem_map] at hnew
    have hseen : ∀ m ∈ uniqueMethods d.methods, routeKey t m ∉ b.seen := fun m hm =>
      hnew _ ⟨m, hm, rfl⟩
    have htaken : b.taken? t (uniqueMethods d.methods) = none := by
      simpa [taken?] using hseen
    have hfresh : b.fresh t (uniqueMethods d.methods) = uniqueMethods d.methods := by
      simpa [fresh] using hseen
    simp only [addCompiled, htaken, hfresh]
    refine ⟨?_, ?_⟩
    · cases b.options.duplicates <;> rfl
    · cases b.options.duplicates <;> simp [register, append, keyOfRoute, Function.comp_def]

/-- Declarations with different keys are all registered, in their order. -/
theorem addRoutes_eq {b : Builder H} {ds : List (Declaration H)}
    (hc : ∀ d ∈ ds, d.Compiles b.options) (hnew : ∀ d ∈ ds, ∀ k ∈ d.keys b.options, k ∉ b.seen)
    (hapart : ds.Pairwise fun d e => (d.keys b.options).Disjoint (e.keys b.options)) :
    (b.addRoutes ds).refusal = none ∧
      (b.addRoutes ds).builder = b.append (ds.flatMap (Declaration.routes b.options)) := by
  induction ds generalizing b with
  | nil => simp [addRoutes, append]
  | cons d ds ih =>
    rw [List.pairwise_cons] at hapart
    obtain ⟨hrefusal, hbuilder⟩ :=
      addRoute_eq (hc d List.mem_cons_self) (hnew d List.mem_cons_self)
    have hoptions : (b.append (d.routes b.options)).options = b.options := rfl
    have htail := ih (b := b.append (d.routes b.options))
      (fun e he => hc e (List.mem_cons_of_mem d he)) (fun e he k hk hmem => ?_) hapart.2
    · simp only [addRoutes, Registration.andThen, hrefusal, hbuilder, List.flatMap_cons]
      rw [htail.2, append_append]
      exact ⟨htail.1, rfl⟩
    · rcases List.mem_append.1 hmem with hmem | hmem
      · exact hnew e (List.mem_cons_of_mem d he) k hk hmem
      · exact hapart.1 e he hmem hk

end Builder

/-! ## Routes with different keys -/

section

variable {routes routes' : List (Method × Mapping H)}

/-- The dynamic routes of a method have different keys. -/
lemma nodup_keys_mappingsOf (hd : (routes.map keyOfRoute).Nodup) (method : Method) :
    ((mappingsOf false method routes).map Mapping.key).Nodup := by
  refine List.Nodup.of_map (RouteKey.mk method false) ?_
  have hsub : ((routes.filter fun r =>
      r.1 = method ∧ r.2.template.isLiteral = false).map keyOfRoute).Nodup :=
    hd.sublist (List.filter_sublist.map _)
  rw [mappingsOf, List.map_map, List.map_map]
  refine (List.map_congr_left fun r hr => ?_) ▸ hsub
  have hr' := (List.mem_filter.1 hr).2
  simp only [decide_eq_true_eq] at hr'
  simp [keyOfRoute, routeKey, hr'.1, hr'.2]

/-- The literal routes of a method have different paths, for the path makes the key. -/
lemma nodup_paths_mappingsOf (hc : ∀ r ∈ routes, r.2.Compiled) (hd : (routes.map keyOfRoute).Nodup)
    (method : Method) : ((mappingsOf true method routes).map (·.template.path)).Nodup := by
  refine List.Nodup.of_map (fun path => RouteKey.mk method true
    (Template.keyOf (path.toList ++ [TemplatePart.terminator]))) ?_
  have hsub : ((routes.filter fun r =>
      r.1 = method ∧ r.2.template.isLiteral = true).map keyOfRoute).Nodup :=
    hd.sublist (List.filter_sublist.map _)
  rw [mappingsOf, List.map_map, List.map_map]
  refine (List.map_congr_left fun r hr => ?_) ▸ hsub
  obtain ⟨hmem, hr'⟩ := List.mem_filter.1 hr
  simp only [decide_eq_true_eq] at hr'
  simp [keyOfRoute, routeKey, hr'.1, hr'.2, (hc r hmem).key_of_isLiteral hr'.2]

end

/-! ## Routers that answer alike -/

namespace Router

/-- A method's answers come from its tables, the aliases and the observer. -/
lemma resolve_congr {r s : Router H} {method : Method} (haliases : r.aliases = s.aliases)
    (hobserver : r.observer = s.observer)
    (hexact : ∀ path, (r.exact.get method).get? path = (s.exact.get method).get? path)
    (htries : ∀ path, (r.tries.get method).lookup path = (s.tries.get method).lookup path)
    (raw : String) : r.resolve method raw = s.resolve method raw := by
  have hexact' : (r.exact.get method).get? = (s.exact.get method).get? := funext hexact
  have htries' : (r.tries.get method).lookup = (s.tries.get method).lookup := funext htries
  have hfind : ∀ path, r.find method path = s.find method path := by
    intro path
    simp only [find, haliases, hexact', htries']
  simp only [resolve, lookup, hfind, hobserver]

end Router

namespace Builder

/-- What a builder builds, table by table. -/
lemma build_eq_ok {b : Builder H} {r : Router H} {events : List Event}
    (h : b.build = .ok (r, events)) :
    r.aliases = Alias.sort b.aliases ∧ r.observer = b.observer ∧ ∀ method,
      r.exact.get method = ExactTable.empty.insertAll (mappingsOf true method b.routes) ∧
      r.tries.get method = RouteTrie.ofHistory (mappingsOf false method b.routes) := by
  obtain ⟨t, ht, hr⟩ := Success.map_eq_ok.1 h
  simp only [Prod.mk.injEq] at hr
  obtain ⟨rfl, -⟩ := hr
  refine ⟨rfl, rfl, fun method => ?_⟩
  have hspec := Tables.foldlM_spec ht method
  simpa only [Tables.empty, MethodMap.get_replicate] using hspec

/-- A builder builds a router exactly if the tries admit its routes. -/
lemma build_isSome_iff (b : Builder H) : b.build.toOption.isSome ↔
    ∀ method, (RouteTrie.empty : RouteTrie H).Admits (mappingsOf false method b.routes) := by
  have hmap : b.build.toOption.isSome = b.tables.toOption.isSome := by
    unfold build
    cases b.tables <;> rfl
  rw [hmap, tables, Tables.foldlM_isSome_iff]
  simp only [Tables.empty, MethodMap.get_replicate]

/-- Two builders with the same aliases and observer, whose routes are the same up to their order and
have different keys, cannot be told apart by the routers that they build. -/
theorem build_perm {b b' : Builder H} (hp : b.routes.Perm b'.routes)
    (haliases : b.aliases = b'.aliases)
    (hobserver : b.observer = b'.observer) (hc : ∀ r ∈ b.routes, r.2.Compiled)
    (hd : (b.routes.map keyOfRoute).Nodup) :
    (b.build.toOption.isSome ↔ b'.build.toOption.isSome) ∧
    ∀ r r' events events', b.build = .ok (r, events) → b'.build = .ok (r', events') → ∀ method,
      (∀ raw, r.resolve method raw = r'.resolve method raw) ∧
      r.literalCount method = r'.literalCount method ∧
      r.dynamicCount method = r'.dynamicCount method := by
  have hended : ∀ method, ∀ m ∈ mappingsOf false method b.routes, Ended m.key := fun _ m hm =>
    (compiled_of_mem_mappingsOf hc m hm).ended
  have hperm : ∀ literal method,
      (mappingsOf literal method b.routes).Perm (mappingsOf literal method b'.routes) :=
    fun literal method => (hp.filter _).map _
  constructor
  · rw [build_isSome_iff, build_isSome_iff]
    exact forall_congr' fun method => RouteTrie.admits_perm (hended method) (hperm false method)
  · intro r r' events events' hr hr' method
    have hadmits := (build_isSome_iff b).1 (by rw [hr]; rfl) method
    obtain ⟨hal, hobs, htables⟩ := build_eq_ok hr
    obtain ⟨hal', hobs', htables'⟩ := build_eq_ok hr'
    obtain ⟨hexact, htries⟩ := htables method
    obtain ⟨hexact', htries'⟩ := htables' method
    obtain ⟨hget, hliteral⟩ := ExactTable.insertAll_perm (hperm true method)
      (nodup_paths_mappingsOf hc hd method)
    obtain ⟨hlookup, hdynamic⟩ := RouteTrie.ofHistory_perm (hended method) (hperm false method)
      hadmits (nodup_keys_mappingsOf hd method)
    refine ⟨Router.resolve_congr (by rw [hal, hal', haliases])
      (by rw [hobs, hobs', hobserver]) ?_ ?_,
      ?_, ?_⟩
    · rwa [hexact, hexact']
    · rwa [htries, htries']
    · rwa [Router.literalCount, Router.literalCount, hexact, hexact']
    · rwa [Router.dynamicCount, Router.dynamicCount, htries, htries']

/-- Declarations that compile and share no key may be registered in any order.  All of them are
registered, a router can be built in one order exactly if it can be built in the other, and then
both resolve every path of every method alike and hold as many routes. -/
theorem registration_perm (options : RouterOptions) (aliases : List Alias)
    (observer : Option Observer)
    {ds es : List (Declaration H)} (hp : ds.Perm es) (hc : ∀ d ∈ ds, d.Compiles options)
    (hapart : ds.Pairwise fun d e => (d.keys options).Disjoint (e.keys options)) :
    let b : Builder H := ⟨options, [], [], aliases, observer⟩
    (b.addRoutes ds).refusal = none ∧ (b.addRoutes es).refusal = none ∧
    ((b.addRoutes ds).builder.build.toOption.isSome ↔
      (b.addRoutes es).builder.build.toOption.isSome) ∧
    ∀ r r' events events', (b.addRoutes ds).builder.build = .ok (r, events) →
      (b.addRoutes es).builder.build = .ok (r', events') → ∀ method,
      (∀ raw, r.resolve method raw = r'.resolve method raw) ∧
      r.literalCount method = r'.literalCount method ∧
      r.dynamicCount method = r'.dynamicCount method := by
  intro b
  have hce : ∀ e ∈ es, e.Compiles options := fun e he => hc e (hp.mem_iff.2 he)
  have hapart' : es.Pairwise fun d e => (d.keys options).Disjoint (e.keys options) :=
    (hp.pairwise_iff fun h => h.symm).1 hapart
  obtain ⟨hrefusal, hbuilder⟩ := addRoutes_eq (b := b) hc (by simp [b]) hapart
  obtain ⟨hrefusal', hbuilder'⟩ := addRoutes_eq (b := b) hce (by simp [b]) hapart'
  refine ⟨hrefusal, hrefusal', ?_⟩
  rw [hbuilder, hbuilder']
  refine build_perm ?_ rfl rfl ?_ ?_
  · exact (hp.flatMap_right _).append_left _
  · intro r hr
    obtain ⟨d, -, hmem⟩ := List.mem_flatMap.1 (by simpa [append, b] using hr)
    exact Declaration.compiled_of_mem_routes hmem
  · have hkeys : (b.append (ds.flatMap (Declaration.routes b.options))).routes.map keyOfRoute =
        ds.flatMap (Declaration.keys options) := by
      simp only [append, b, List.nil_append, List.map_flatMap]
      rfl
    rw [hkeys, List.nodup_flatMap]
    exact ⟨fun d _ => d.nodup_keys options, hapart⟩

/-- Routes of two methods that share their first segments. -/
def userRoutes : List (Declaration ℕ) :=
  [⟨[.get], "/users/me", .literal, 1⟩, ⟨[.get, .delete], "/users/\x7bid\x7d", .variable, 2⟩,
    ⟨[.get], "/users/\x7bid\x7d/posts", .variable, 3⟩]

/-- The routes of users may be declared from the last to the first: the posts of a user are still
served by the route that is declared for them. -/
theorem user_routes_reversed :
    (∀ d ∈ userRoutes, d.Compiles ⟨false, .reject⟩) ∧
    (userRoutes.Pairwise fun d e => (d.keys ⟨false, .reject⟩).Disjoint (e.keys ⟨false, .reject⟩)) ∧
    let b : Builder ℕ := ⟨⟨false, .reject⟩, [], [], [⟨"/u", "/users"⟩], none⟩
    ∃ r events r' events', (b.addRoutes userRoutes).builder.build = .ok (r, events) ∧
      (b.addRoutes userRoutes.reverse).builder.build = .ok (r', events') ∧
      ((r.resolve .get "/u/7/posts").answer.toOption.bind
        (·.map fun found => (found.mapping.handler, found.params))) =
          some (3, .named [("id", "7")]) ∧
      r.resolve .get "/u/7/posts" = r'.resolve .get "/u/7/posts" ∧
      r.dynamicCount .get = r'.dynamicCount .get := by
  have hc : ∀ d ∈ userRoutes, d.Compiles ⟨false, .reject⟩ := by decide +kernel
  have hapart : userRoutes.Pairwise fun d e =>
      (d.keys ⟨false, .reject⟩).Disjoint (e.keys ⟨false, .reject⟩) := by
    simp only [List.Disjoint, imp_false]
    decide +kernel
  refine ⟨hc, hapart, ?_⟩
  intro b
  have hserved : ((b.addRoutes userRoutes).builder.build.toOption.bind fun built =>
      (built.1.resolve .get "/u/7/posts").answer.toOption.bind
        (·.map fun found => (found.mapping.handler, found.params))) =
          some (3, .named [("id", "7")]) := by
    decide +kernel
  obtain ⟨-, -, hbuilds, hsame⟩ := registration_perm ⟨false, .reject⟩ [⟨"/u", "/users"⟩] none
    userRoutes.reverse_perm.symm hc hapart
  obtain ⟨⟨r, events⟩, hr⟩ : ∃ built, (b.addRoutes userRoutes).builder.build = .ok built :=
    ⟨_, Success.eq_ok_get (by decide +kernel)⟩
  obtain ⟨⟨r', events'⟩, hr'⟩ : ∃ built,
      (b.addRoutes userRoutes.reverse).builder.build = .ok built :=
    ⟨_, Success.eq_ok_get (hbuilds.1 (by decide +kernel))⟩
  obtain ⟨hresolve, -, hdynamic⟩ := hsame r r' events events' hr hr' .get
  rw [hr] at hserved
  exact ⟨r, events, r', events', hr, hr', hserved, hresolve _, hdynamic⟩

end Builder

end UriRouting
