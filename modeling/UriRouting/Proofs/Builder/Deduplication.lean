import UriRouting.Proofs.Router.Alike

/-!
# The first route under a key wins

Where duplicates are ignored, registration keeps of all the routes that are declared those whose
keys come up for the first time (`firstByKey`), also where some methods of a declaration are new and
others are not (`Builder.addRoutes_ignore`).

So ignoring duplicates is no more than refusing them after they have been taken out.
`deduplicated` takes the methods out of the declarations whose keys an earlier declaration had, and
`Builder.ignore_agrees_with_reject` puts the two runs and the routers that come of them side by
side.  The mappings of the two differ in the methods that they were declared for, so the routes are
compared without them (`bareRoute`).
-/

namespace UriRouting

variable {H : Type}

open Builder

/-! ## Routes whose keys are new -/

/-- The routes whose keys come up for the first time, where some keys have been seen before. -/
def firstByKey (seen : List RouteKey) : List (Method × Mapping H) → List (Method × Mapping H)
  | [] => []
  | route :: routes =>
    let rest := firstByKey (seen ++ [keyOfRoute route]) routes
    if keyOfRoute route ∈ seen then rest else route :: rest

section

variable {seen seen' : List RouteKey} {routes routes' : List (Method × Mapping H)}

lemma firstByKey_append (seen : List RouteKey) : firstByKey seen (routes ++ routes') =
    firstByKey seen routes ++ firstByKey (seen ++ routes.map keyOfRoute) routes' := by
  induction routes generalizing seen with
  | nil => simp [firstByKey]
  | cons route routes ih =>
    have htail := ih (seen ++ [keyOfRoute route])
    rw [List.append_assoc, List.singleton_append, ← List.map_cons] at htail
    rw [List.cons_append, firstByKey, firstByKey, htail]
    split <;> rfl

/-- Only the keys of the routes matter of what has been seen. -/
lemma firstByKey_congr (h : ∀ route ∈ routes, keyOfRoute route ∈ seen ↔ keyOfRoute route ∈ seen') :
    firstByKey seen routes = firstByKey seen' routes := by
  induction routes generalizing seen seen' with
  | nil => rfl
  | cons route routes ih =>
    have hhead := h route List.mem_cons_self
    have htail : firstByKey (seen ++ [keyOfRoute route]) routes =
        firstByKey (seen' ++ [keyOfRoute route]) routes := by
      refine ih fun r hr => ?_
      rw [List.mem_append, List.mem_append, h r (List.mem_cons_of_mem route hr)]
    simp only [firstByKey, htail, hhead]

/-- Routes with different keys are kept unless their keys were seen before. -/
lemma firstByKey_eq_filter (hd : (routes.map keyOfRoute).Nodup) :
    firstByKey seen routes = routes.filter fun route => keyOfRoute route ∉ seen := by
  induction routes generalizing seen with
  | nil => rfl
  | cons route routes ih =>
    rw [List.map_cons, List.nodup_cons] at hd
    have htail : firstByKey (seen ++ [keyOfRoute route]) routes =
        routes.filter fun r => keyOfRoute r ∉ seen := by
      rw [ih hd.2]
      refine List.filter_congr fun r hr => ?_
      have hne : keyOfRoute r ≠ keyOfRoute route := fun heq =>
        hd.1 (heq ▸ List.mem_map_of_mem hr)
      simp [hne]
    by_cases hmem : keyOfRoute route ∈ seen
    · rw [firstByKey, if_pos hmem, htail, List.filter_cons_of_neg (by simpa using hmem)]
    · rw [firstByKey, if_neg hmem, htail, List.filter_cons_of_pos (by simpa using hmem)]

/-- What is not kept has been seen, so that the keys which have been seen afterwards are those of
all routes. -/
lemma mem_keys_firstByKey {k : RouteKey} (seen : List RouteKey) :
    k ∈ seen ++ (firstByKey seen routes).map keyOfRoute ↔ k ∈ seen ++ routes.map keyOfRoute := by
  induction routes generalizing seen with
  | nil => rfl
  | cons route routes ih =>
    have htail := ih (seen ++ [keyOfRoute route])
    rw [List.append_assoc, List.append_assoc, List.singleton_append, List.singleton_append] at htail
    rw [List.map_cons, ← htail, firstByKey]
    split
    · next hseen =>
      simp only [List.mem_append, List.mem_cons]
      constructor
      · exact Or.imp_right .inr
      · rintro (h | rfl | h)
        · exact .inl h
        · exact .inl hseen
        · exact .inr h
    · rfl

lemma not_mem_seen_of_mem_firstByKey {route : Method × Mapping H}
    (h : route ∈ firstByKey seen routes) : keyOfRoute route ∉ seen := by
  induction routes generalizing seen with
  | nil => simp [firstByKey] at h
  | cons r routes ih =>
    have htail : route ∈ firstByKey (seen ++ [keyOfRoute r]) routes → keyOfRoute route ∉ seen :=
      fun hmem hseen => ih hmem (List.mem_append_left _ hseen)
    rw [firstByKey] at h
    split at h
    · exact htail h
    · next hhead =>
      rcases List.mem_cons.1 h with rfl | h
      · exact hhead
      · exact htail h

lemma nodup_keys_firstByKey (seen : List RouteKey) (routes : List (Method × Mapping H)) :
    ((firstByKey seen routes).map keyOfRoute).Nodup := by
  induction routes generalizing seen with
  | nil => simp [firstByKey]
  | cons route routes ih =>
    rw [firstByKey]
    split
    · exact ih _
    · rw [List.map_cons, List.nodup_cons]
      refine ⟨fun hmem => ?_, ih _⟩
      obtain ⟨r, hr, hkey⟩ := List.mem_map.1 hmem
      exact not_mem_seen_of_mem_firstByKey hr (by simp [hkey])

end

/-! ## Routes without the methods of their declarations -/

/-- The route, with a mapping that does not tell for which methods it was declared. -/
def bareRoute (route : Method × Mapping H) : Method × Mapping H := (route.1, route.2.bare)

lemma firstByKey_bareRoute (seen : List RouteKey) (routes : List (Method × Mapping H)) :
    firstByKey seen (routes.map bareRoute) = (firstByKey seen routes).map bareRoute := by
  induction routes generalizing seen with
  | nil => rfl
  | cons route routes ih =>
    have hkey : keyOfRoute (bareRoute route) = keyOfRoute route := rfl
    rw [List.map_cons, firstByKey, firstByKey, hkey, ih]
    split <;> rfl

lemma Builder.mappingsOf_bareRoute (literal : Bool) (method : Method)
    (routes : List (Method × Mapping H)) :
    (mappingsOf literal method routes).map Mapping.bare =
      mappingsOf literal method (routes.map bareRoute) := by
  rw [mappingsOf, mappingsOf, List.filter_map, List.map_map, List.map_map]
  rfl

/-! ## Registration -/

namespace Builder

/-- Where duplicates are ignored, declarations that compile are all accepted, and of their routes
those are registered whose keys come up for the first time. -/
theorem addRoutes_ignore {b : Builder H} {ds : List (Declaration H)}
    (hpolicy : b.options.duplicates = .ignore) (hc : ∀ d ∈ ds, d.Compiles b.options) :
    (b.addRoutes ds).refusal = none ∧ (b.addRoutes ds).builder =
      b.append (firstByKey b.seen (ds.flatMap (Declaration.routes b.options))) := by
  induction ds generalizing b with
  | nil => simp [addRoutes, append, firstByKey]
  | cons d ds ih =>
    have hrefusal : (b.addRoute d).refusal = none :=
      (b.addRoute_refusal_eq_none_iff d).2 ⟨hc d List.mem_cons_self, by simp [hpolicy]⟩
    have hadded : b.added d = firstByKey b.seen (d.routes b.options) := by
      rw [added, if_pos hrefusal]
      exact (firstByKey_eq_filter (d.nodup_keys b.options)).symm
    have htail := ih (b := b.append (b.added d)) hpolicy fun e he =>
      hc e (List.mem_cons_of_mem d he)
    have hrest :
        firstByKey (b.append (b.added d)).seen (ds.flatMap (Declaration.routes b.options)) =
          firstByKey (b.seen ++ (d.routes b.options).map keyOfRoute)
            (ds.flatMap (Declaration.routes b.options)) := by
      refine firstByKey_congr fun route _ => ?_
      rw [hadded]
      exact mem_keys_firstByKey b.seen
    simp only [addRoutes, Registration.andThen, hrefusal, addRoute_builder]
    refine ⟨htail.1, htail.2.trans ?_⟩
    rw [append_append, List.flatMap_cons, firstByKey_append, ← hadded, ← hrest]
    rfl

end Builder

/-! ## Declarations without duplicates -/

/-- Methods that do not repeat are left as they are. -/
lemma Builder.uniqueMethods_of_nodup {methods : List Method} (hd : methods.Nodup) :
    uniqueMethods methods = methods := by
  have hfold : ∀ unique : List Method, (unique ++ methods).Nodup →
      methods.foldl (fun unique m => if unique.contains m then unique else unique ++ [m]) unique =
        unique ++ methods := by
    clear hd
    induction methods with
    | nil => simp
    | cons m methods ih =>
      intro unique hd
      have hnew : unique.contains m = false := by
        have hdisjoint := (List.nodup_append.1 hd).2.2
        simpa using fun hmem => hdisjoint m hmem m List.mem_cons_self rfl
      rw [List.append_cons] at hd
      rw [List.foldl_cons, hnew, if_neg Bool.false_ne_true, ih _ hd]
      simp
  exact hfold [] hd

namespace Declaration

/-- The declaration without repeated methods, and without those whose keys occurred earlier. -/
def without (options : RouterOptions) (earlier : List RouteKey) (d : Declaration H) :
    Declaration H :=
  { d with methods := (uniqueMethods d.methods).filter fun method =>
      ∀ k ∈ d.keys options, k.method = method → k ∉ earlier }

/-- Up to the methods of the declaration, its routes are those whose keys did not occur earlier. -/
lemma routes_without (options : RouterOptions) (earlier : List RouteKey) (d : Declaration H) :
    ((d.without options earlier).routes options).map bareRoute =
      ((d.routes options).filter fun route => keyOfRoute route ∉ earlier).map bareRoute := by
  cases hc : Template.compile d.style d.template options.escapeLiterals with
  | error e =>
    rw [routes_of_eq_error hc, routes_of_eq_error (d := d.without options earlier) hc]
    rfl
  | ok t =>
    have hkept : (d.without options earlier).methods =
        (uniqueMethods d.methods).filter fun method => routeKey t method ∉ earlier := by
      refine List.filter_congr fun method hmethod => ?_
      have hkeys : d.keys options = (uniqueMethods d.methods).map (routeKey t) := by
        rw [keys, routes_of_eq_ok hc, List.map_map]
        rfl
      rw [hkeys, decide_eq_decide]
      constructor
      · exact fun h => h _ (List.mem_map_of_mem hmethod) rfl
      · intro h k hk hkm
        obtain ⟨m, -, rfl⟩ := List.mem_map.1 hk
        obtain rfl : m = method := hkm
        exact h
    rw [routes_of_eq_ok hc, routes_of_eq_ok (d := d.without options earlier) hc, hkept,
      uniqueMethods_of_nodup ((nodup_uniqueMethods d.methods).filter _), List.filter_map,
      List.map_map, List.map_map]
    rfl

end Declaration

/-- The declarations without the methods whose keys occurred earlier, before them or in one of
them. -/
def deduplicated (options : RouterOptions) (earlier : List RouteKey) :
    List (Declaration H) → List (Declaration H)
  | [] => []
  | d :: ds => d.without options earlier :: deduplicated options (earlier ++ d.keys options) ds

section

variable {options : RouterOptions} {ds : List (Declaration H)}

lemma compiles_of_mem_deduplicated {earlier : List RouteKey} (hc : ∀ d ∈ ds, d.Compiles options) :
    ∀ e ∈ deduplicated options earlier ds, e.Compiles options := by
  induction ds generalizing earlier with
  | nil => simp [deduplicated]
  | cons d ds ih =>
    rw [deduplicated, List.forall_mem_cons]
    rw [List.forall_mem_cons] at hc
    exact ⟨hc.1, ih hc.2⟩

/-- Their routes are those whose keys come up for the first time. -/
theorem routes_deduplicated (options : RouterOptions) (earlier : List RouteKey)
    (ds : List (Declaration H)) :
    ((deduplicated options earlier ds).flatMap (Declaration.routes options)).map bareRoute =
      (firstByKey earlier (ds.flatMap (Declaration.routes options))).map bareRoute := by
  induction ds generalizing earlier with
  | nil => rfl
  | cons d ds ih =>
    rw [deduplicated, List.flatMap_cons, List.flatMap_cons, List.map_append, firstByKey_append,
      List.map_append, Declaration.routes_without, firstByKey_eq_filter (d.nodup_keys options), ih]
    rfl

lemma pairwise_disjoint_deduplicated (options : RouterOptions) (ds : List (Declaration H)) :
    (deduplicated options [] ds).Pairwise fun d e =>
      (d.keys options).Disjoint (e.keys options) := by
  have hkeys : (deduplicated options [] ds).flatMap (Declaration.keys options) =
      (firstByKey [] (ds.flatMap (Declaration.routes options))).map keyOfRoute := by
    have hroutes := congrArg (List.map keyOfRoute) (routes_deduplicated options [] ds)
    have hbare : keyOfRoute ∘ bareRoute = (keyOfRoute : Method × Mapping H → RouteKey) := rfl
    rw [List.map_map, List.map_map, hbare, List.map_flatMap] at hroutes
    exact hroutes
  have hd := nodup_keys_firstByKey [] (ds.flatMap (Declaration.routes options))
  rw [← hkeys, List.nodup_flatMap] at hd
  exact hd.2

end

namespace Builder

/-- Ignoring duplicates agrees with refusing them once they have been taken out.  Both runs accept
all declarations, a router can be built after the one exactly if it can be built after the other,
and then both hold as many routes for every method and resolve every path by the same handler, with
the same template and the same parameters. -/
theorem ignore_agrees_with_reject (escapeLiterals : Bool) (aliases : List Alias)
    (observer : Option Observer) {ds : List (Declaration H)}
    (hc : ∀ d ∈ ds, d.Compiles ⟨escapeLiterals, .ignore⟩) :
    let lax : Builder H := ⟨⟨escapeLiterals, .ignore⟩, [], [], aliases, observer⟩
    let strict : Builder H := ⟨⟨escapeLiterals, .reject⟩, [], [], aliases, observer⟩
    let es := deduplicated ⟨escapeLiterals, .ignore⟩ [] ds
    (lax.addRoutes ds).refusal = none ∧ (strict.addRoutes es).refusal = none ∧
    ((lax.addRoutes ds).builder.build.toOption.isSome ↔
      (strict.addRoutes es).builder.build.toOption.isSome) ∧
    ∀ r r' events events', (lax.addRoutes ds).builder.build = .ok (r, events) →
      (strict.addRoutes es).builder.build = .ok (r', events') → ∀ method,
      r.literalCount method = r'.literalCount method ∧
      r.dynamicCount method = r'.dynamicCount method ∧
      ∀ raw, Router.AnswersAlike (r.resolve method raw).answer (r'.resolve method raw).answer := by
  intro lax strict es
  obtain ⟨hrefusal, hbuilder⟩ := addRoutes_ignore (b := lax) rfl hc
  obtain ⟨hrefusal', hbuilder'⟩ := @addRoutes_eq H strict es (compiles_of_mem_deduplicated hc)
    (by simp [strict]) (pairwise_disjoint_deduplicated ⟨escapeLiterals, .ignore⟩ ds)
  have hsame : ∀ literal method,
      (mappingsOf literal method (lax.addRoutes ds).builder.routes).map Mapping.bare =
        (mappingsOf literal method (strict.addRoutes es).builder.routes).map Mapping.bare := by
    intro literal method
    rw [mappingsOf_bareRoute, mappingsOf_bareRoute, hbuilder, hbuilder']
    exact congrArg _ (routes_deduplicated ⟨escapeLiterals, .ignore⟩ [] ds).symm
  refine ⟨hrefusal, hrefusal', ?_, ?_⟩
  · rw [build_isSome_iff, build_isSome_iff]
    refine forall_congr' fun method => ?_
    rw [← admits_bare, hsame false method, admits_bare]
  · intro r r' events events' hr hr' method
    refine built_alike hr hr' ?_ fun literal => hsame literal method
    rw [hbuilder, hbuilder']
    rfl

/-- Routes of users, declared with repeated methods, under other names of the variable, and with
methods of which some are taken. -/
def repeatedRoutes : List (Declaration ℕ) :=
  [⟨[.get, .post, .get], "/users/\x7bid\x7d", .variable, 1⟩,
    ⟨[.post, .delete], "/users/\x7bname\x7d", .variable, 2⟩, ⟨[.get], "/users/me", .literal, 3⟩,
    ⟨[.put, .get], "/users/me", .literal, 4⟩, ⟨[.get], "/users/([a-z]+)", .pattern, 5⟩]

/-- The routes of users are accepted without the methods that are taken, and the router that they
make serves a path by the handler that was declared for it first. -/
theorem repeated_routes_deduplicated :
    (∀ d ∈ repeatedRoutes, d.Compiles ⟨true, .ignore⟩) ∧
    (deduplicated ⟨true, .ignore⟩ [] repeatedRoutes).map Declaration.methods =
      [[.get, .post], [.delete], [.get], [.put], []] ∧
    let lax : Builder ℕ := ⟨⟨true, .ignore⟩, [], [], [⟨"/u", "/users"⟩], none⟩
    let strict : Builder ℕ := ⟨⟨true, .reject⟩, [], [], [⟨"/u", "/users"⟩], none⟩
    let es := deduplicated ⟨true, .ignore⟩ [] repeatedRoutes
    (strict.addRoutes es).refusal = none ∧
    ∃ r events r' events', (lax.addRoutes repeatedRoutes).builder.build = .ok (r, events) ∧
      (strict.addRoutes es).builder.build = .ok (r', events') ∧
      ((r.resolve .post "/u/7").answer.toOption.bind
        (·.map fun found => (found.mapping.handler, found.params))) =
          some (1, .named [("id", "7")]) ∧
      Router.AnswersAlike (r.resolve .post "/u/7").answer (r'.resolve .post "/u/7").answer := by
  have hc : ∀ d ∈ repeatedRoutes, d.Compiles ⟨true, .ignore⟩ := by decide +kernel
  have hmethods : (deduplicated ⟨true, .ignore⟩ [] repeatedRoutes).map Declaration.methods =
      [[.get, .post], [.delete], [.get], [.put], []] := by
    decide +kernel
  refine ⟨hc, hmethods, ?_⟩
  intro lax strict es
  have hserved : ((lax.addRoutes repeatedRoutes).builder.build.toOption.bind fun built =>
      (built.1.resolve .post "/u/7").answer.toOption.bind
        (·.map fun found => (found.mapping.handler, found.params))) =
          some (1, .named [("id", "7")]) := by
    decide +kernel
  obtain ⟨-, hrefusal, hbuilds, hsame⟩ :=
    ignore_agrees_with_reject true [⟨"/u", "/users"⟩] none hc
  obtain ⟨⟨r, events⟩, hr⟩ : ∃ built, (lax.addRoutes repeatedRoutes).builder.build = .ok built :=
    ⟨_, Success.eq_ok_get (by decide +kernel)⟩
  obtain ⟨⟨r', events'⟩, hr'⟩ : ∃ built, (strict.addRoutes es).builder.build = .ok built :=
    ⟨_, Success.eq_ok_get (hbuilds.1 (by decide +kernel))⟩
  obtain ⟨-, -, halike⟩ := hsame r r' events events' hr hr' .post
  rw [hr] at hserved
  exact ⟨hrefusal, r, events, r', events', hr, hr', hserved, halike _⟩

end Builder

end UriRouting
