import UriRouting.Proofs.Builder.Registration
import UriRouting.Proofs.Router.Aliased

/-!
# Literal routes

The first literal declaration that is accepted for a method at a canonical path serves this path,
however the path is spelled and whatever else has been registered; and a literal route serves no
path but its own and those that an alias moves there (`Builder.literal_round_trip`).

The table of a method keeps the first mapping that is entered under a path
(`ExactTable.get?_insertAll_eq_find?`), so the claim comes down to the order of the registered
routes.  They are told by the history of the builder.  Where it has registered no literal route of
the method at the path yet, the key of the declaration is new, since the key spells the path
(`Template.path_eq_of_key_eq`).
-/

namespace UriRouting

variable {H : Type}

/-! ## The first entry under a path -/

namespace ExactTable

lemma get?_insert (t : ExactTable H) (m : Mapping H) (path : String) :
    (t.insert m.template.path m).2.get? path =
      ((t.get? path).or (if m.template.path = path then some m else none)) := by
  unfold insert
  cases htaken : t.get? m.template.path with
  | some n =>
    by_cases hpath : m.template.path = path
    · rw [← hpath, htaken]
      rfl
    · rw [if_neg hpath, Option.or_none]
  | none =>
    unfold get? at htaken ⊢
    rw [List.lookup_append, List.lookup_cons, List.lookup_nil]
    by_cases hpath : m.template.path = path
    · rw [if_pos hpath, hpath, beq_self_eq_true]
    · have hbeq : (path == m.template.path) = false := by simpa using Ne.symm hpath
      rw [if_neg hpath, hbeq]

/-- A table that mappings are entered into keeps what it has, and else the first of them under a
path. -/
theorem get?_insertAll_eq_find? (t : ExactTable H) (ms : List (Mapping H)) (path : String) :
    (t.insertAll ms).get? path =
      (t.get? path).or (ms.find? fun m => m.template.path = path) := by
  induction ms generalizing t with
  | nil => simp [insertAll]
  | cons m ms ih =>
    have hstep : t.insertAll (m :: ms) = (t.insert m.template.path m).2.insertAll ms := rfl
    rw [hstep, ih, get?_insert, Option.or_assoc]
    by_cases hpath : m.template.path = path <;> simp [hpath]

end ExactTable

/-! ## Literal declarations -/

namespace Template

/-- The key of a literal template spells its path. -/
lemma path_eq_of_key_eq {t u : Template} (ht : t.Compiled) (hu : u.Compiled)
    (htl : t.isLiteral = true) (hul : u.isLiteral = true) (h : t.key = u.key) :
    t.path = u.path := by
  rw [ht.key_of_isLiteral htl, hu.key_of_isLiteral hul, keyOf, keyOf] at h
  exact String.toList_injective (List.append_cancel_right (Text.utf8_injective h))

/-- Only a literal template compiles to one. -/
lemma style_of_isLiteral {style : TemplateStyle} {text : String} {escaped : Bool} {t : Template}
    (h : compile style text escaped = .ok t) : t.isLiteral = true ↔ style = .literal := by
  cases style with
  | literal =>
    obtain ⟨path, -, -, -, -, rfl⟩ := literal_eq_ok.1 h
    simp [isLiteral]
  | «variable» =>
    obtain ⟨path, -, -, parts, -, regex, -, rfl⟩ := variableTemplate_eq_ok.1 h
    simp [isLiteral]
  | pattern =>
    obtain ⟨path, -, -, parts, -, regex, -, rfl⟩ := pattern_eq_ok.1 h
    simp [isLiteral]

end Template

/-- The declaration is accepted as a literal route of the method at the canonical path. -/
structure Trial.Places (x : Trial H) (method : Method) (path : String) : Prop where
  literal : x.declaration.style = .literal
  method : method ∈ x.declaration.methods
  path : canonicalPath x.declaration.template = .ok path
  accepted : x.Accepted

namespace Trial

/-- A literal route comes from a declaration that is accepted as such. -/
lemma places_of_mem_added {x : Trial H} {route : Method × Mapping H} (h : route ∈ x.added)
    (hl : route.2.template.isLiteral = true) :
    x.Places route.1 route.2.template.path ∧
      ∃ t, Template.literal x.declaration.template = .ok t ∧
        route.2 = ⟨Builder.uniqueMethods x.declaration.methods, t, x.declaration.handler⟩ := by
  obtain ⟨haccepted, hown⟩ := Builder.of_mem_added h
  obtain ⟨t, hc, hmethod, hmapping⟩ := Declaration.mem_routes_iff.1 hown
  rw [hmapping] at hl ⊢
  have hstyle := (Template.style_of_isLiteral hc).1 hl
  rw [hstyle] at hc
  have ht : Template.literal x.declaration.template = .ok t := hc
  obtain ⟨path, hpath, -, -, -, rfl⟩ := Template.literal_eq_ok.1 ht
  exact ⟨⟨hstyle, hmethod, hpath, haccepted⟩, _, ht, rfl⟩

/-- A declaration adds its literal route where no other one of the method stands at the path. -/
lemma Places.exists_added {x : Trial H} {method : Method} {path : String}
    (h : x.Places method path) (hkeyed : x.builder.Keyed)
    (hc : ∀ route ∈ x.builder.routes, route.2.Compiled)
    (hnew : ∀ route ∈ x.builder.routes, route.1 = method → route.2.template.isLiteral = true →
      route.2.template.path ≠ path) :
    ∃ t, Template.literal x.declaration.template = .ok t ∧ t.path = path ∧
      (method, ⟨Builder.uniqueMethods x.declaration.methods, t, x.declaration.handler⟩) ∈
        x.added := by
  obtain ⟨hstyle, hmethod, hpath, haccepted⟩ := h
  have hcompiles := ((x.builder.addRoute_refusal_eq_none_iff x.declaration).1 haccepted).1
  have hcompile := Success.eq_ok_get hcompiles
  generalize Option.get _ hcompiles = t at hcompile
  have hliteral : t.isLiteral = true := (Template.style_of_isLiteral hcompile).2 hstyle
  have ht : Template.literal x.declaration.template = .ok t := by
    rwa [hstyle] at hcompile
  have htpath : t.path = path := by
    obtain ⟨own, hown, -, -, -, rfl⟩ := Template.literal_eq_ok.1 ht
    rw [hpath] at hown
    exact (Except.ok.inj hown).symm
  refine ⟨t, ht, htpath, ?_⟩
  rw [added, Builder.added, if_pos (show _ = none from haccepted), List.mem_filter]
  refine ⟨Declaration.mem_routes_iff.2 ⟨t, hcompile, hmethod, rfl⟩, ?_⟩
  rw [decide_eq_true_eq, hkeyed]
  intro hmem
  obtain ⟨route, hroute, hkey⟩ := List.mem_map.1 hmem
  simp only [keyOfRoute, Builder.routeKey, RouteKey.mk.injEq] at hkey
  obtain ⟨hsame, hkind, hkey⟩ := hkey
  have hcompiled : t.Compiled := ⟨_, _, _, hcompile⟩
  rw [hliteral] at hkind
  exact hnew route hroute hsame hkind
    ((Template.path_eq_of_key_eq (hc route hroute) hcompiled hkind hliteral hkey).trans htpath)

end Trial

/-! ## The first literal route at a path -/

namespace Builder

/-- The table of a method holds the first of its literal routes at a path. -/
lemma get?_exact_of_build {b : Builder H} {r : Router H} {events : List Event}
    (h : b.build = .ok (r, events)) (method : Method) (path : String) :
    (r.exact.get method).get? path =
      (mappingsOf true method b.routes).find? fun m => m.template.path = path := by
  obtain ⟨-, -, htables⟩ := build_eq_ok h
  rw [(htables method).1, ExactTable.get?_insertAll_eq_find?]
  rfl

/-- Of the routes that a history registers, the first literal one at a path is that of the first
declaration which is accepted as such. -/
theorem find?_of_first {options : RouterOptions} {ops : List (Operation H)}
    {before after : List (Trial H)}
    {x : Trial H} (h : (withOptions options).trials ops = before ++ x :: after) {method : Method}
    {path : String} (hx : x.Places method path) (hfirst : ∀ y ∈ before, ¬ y.Places method path) :
    ∃ t, Template.literal x.declaration.template = .ok t ∧
      ((mappingsOf true method ((withOptions options).run ops).routes).find? fun m =>
        m.template.path = path) =
      some ⟨uniqueMethods x.declaration.methods, t, x.declaration.handler⟩ := by
  have hroutes : ((withOptions options).run ops).routes = before.flatMap Trial.added ++
      (x.added ++ after.flatMap Trial.added) := by
    have hrun := ((withOptions options).run_grown ops).routes_eq
    rw [h, List.flatMap_append, List.flatMap_cons] at hrun
    exact hrun
  have hmet := grown_of_trials h
  have hbefore : x.builder.routes = before.flatMap Trial.added := hmet.routes_eq
  -- nothing at the path before
  have hnone : ∀ route ∈ before.flatMap Trial.added, route.1 = method →
      route.2.template.isLiteral = true → route.2.template.path ≠ path := by
    rintro route hroute rfl hl rfl
    obtain ⟨y, hy, hroute⟩ := List.mem_flatMap.1 hroute
    exact hfirst y hy (Trial.places_of_mem_added hroute hl).1
  have hcompiled : ∀ route ∈ x.builder.routes, route.2.Compiled := by
    intro route hroute
    rw [hbefore] at hroute
    exact routesCompiled_run options ops route (hroutes ▸ List.mem_append_left _ hroute)
  obtain ⟨t, ht, hpath, hadded⟩ := hx.exists_added (hmet.keyed rfl) hcompiled (hbefore ▸ hnone)
  refine ⟨t, ht, ?_⟩
  rw [hroutes, mappingsOf_append, mappingsOf_append, List.find?_append, List.find?_append]
  have hskip : ((mappingsOf true method (before.flatMap Trial.added)).find? fun m =>
      m.template.path = path) = none := by
    rw [List.find?_eq_none]
    intro m hm
    obtain ⟨hm, hl⟩ := mem_mappingsOf.1 hm
    simpa using hnone _ hm rfl hl
  rw [hskip, Option.none_or]
  -- what the declaration adds is one mapping
  have hsome : ((mappingsOf true method x.added).find? fun m => m.template.path = path).isSome := by
    rw [List.find?_isSome]
    refine ⟨_, mem_mappingsOf.2 ⟨hadded, ?_⟩, by simpa using hpath⟩
    obtain ⟨own, -, -, -, -, rfl⟩ := Template.literal_eq_ok.1 ht
    rfl
  obtain ⟨m, hm⟩ := Option.isSome_iff_exists.1 hsome
  obtain ⟨hmem, hl⟩ := mem_mappingsOf.1 (List.mem_of_find?_eq_some hm)
  obtain ⟨-, u, hu, rfl⟩ := Trial.places_of_mem_added hmem hl
  rw [ht] at hu
  obtain rfl := Except.ok.inj hu
  rw [hm, Option.some_or]

/-- A literal route serves the path that it stands at, or the one that an alias moves there. -/
lemma path_of_isLiteral {options : RouterOptions} {ops : List (Operation H)} {r : Router H}
    {events : List Event} (hbuild : ((withOptions options).run ops).build = .ok (r, events))
    {method : Method} {path : String} {found : Match H} (hp : Path.Canonical path)
    (hfind : r.find method path = some found) (hl : found.isLiteral = true) :
    found.mapping.template.path = path ∨
      ∃ a, Alias.longest? ((withOptions options).run ops).aliases path = some a ∧
        found.mapping.template.path = a.moved path := by
  have hsorted : r.Sorted := sorted_of_build (routesCompiled_run options ops) hbuild
  have hexact : ∀ {path' m}, (r.exact.get method).get? path' = some m →
      m.template.path = path' := by
    intro path' m hget
    rw [get?_exact_of_build hbuild] at hget
    simpa using List.find?_some hget
  have hstand : Alias.standIn? r.aliases path =
      (Alias.longest? ((withOptions options).run ops).aliases path).map fun a => a.moved path := by
    rw [(build_eq_ok hbuild).1]
    exact Alias.standIn?_sort (aliasesCanonical_run options ops) hp
  have htrie : ∀ {path'}, (r.tries.get method).lookup path' ≠ some found := by
    intro path' hlookup
    rw [hsorted.tries_isLiteral method path' found hlookup] at hl
    exact Bool.false_ne_true hl
  rw [Router.find, hstand] at hfind
  simp only [Node.orElse_eq_some_iff, Option.map_eq_some_iff, Option.bind_eq_some_iff] at hfind
  rcases hfind with ⟨m, hm, rfl⟩ | ⟨-, ⟨m, ⟨moved, ⟨a, ha, rfl⟩, hm⟩, rfl⟩ | ⟨-, hdynamic⟩⟩
  · exact .inl (hexact hm)
  · exact .inr ⟨a, ha, hexact hm⟩
  · rcases hdynamic with hlookup | ⟨-, moved, -, hlookup⟩
    · exact absurd hlookup htrie
    · exact absurd hlookup htrie

/-- Literal routes in whole histories.  Of the declarations that are put on trial in the course of
any calls, the first that is accepted as a literal route of a method at a canonical path serves
every request for this path, in any spelling: the answer has its handler, its template and no
parameters, whatever variable or pattern routes and aliases match the path as well.  And a literal
route that is answered stands at the canonical path of the request, or at the path that the longest
alias makes of it. -/
theorem literal_round_trip (options : RouterOptions) (ops : List (Operation H)) (r : Router H)
    (events : List Event) (hbuild : ((withOptions options).run ops).build = .ok (r, events)) :
    (∀ before x after, (withOptions options).trials ops = before ++ x :: after →
      ∀ method path, x.Places method path → (∀ y ∈ before, ¬ y.Places method path) →
      ∃ t, Template.literal x.declaration.template = .ok t ∧
        ∀ raw, canonicalPath raw = .ok path → (r.resolve method raw).answer =
          .ok (some ⟨⟨uniqueMethods x.declaration.methods, t, x.declaration.handler⟩, .none⟩)) ∧
    ∀ method raw path found, canonicalPath raw = .ok path →
      (r.resolve method raw).answer = .ok (some found) → found.isLiteral = true →
      found.mapping.template.path = path ∨
        ∃ a, Alias.longest? ((withOptions options).run ops).aliases path = some a ∧
          found.mapping.template.path = a.moved path := by
  constructor
  · intro before x after htrials method path hx hfirst
    obtain ⟨t, ht, hfind⟩ := find?_of_first htrials hx hfirst
    refine ⟨t, ht, fun raw hraw => ?_⟩
    rw [Router.answer_of_canonicalPath hraw, Router.find, get?_exact_of_build hbuild, hfind]
    rfl
  · intro method raw path found hraw hanswer hl
    rw [Router.answer_of_canonicalPath hraw, Except.ok.injEq] at hanswer
    exact path_of_isLiteral hbuild (canonical_of_canonicalPath hraw) hanswer hl

/-- A literal route between a variable one that matches its path, a declaration that is refused, an
alias that moves its path, and a second literal route at the path. -/
def mixedHistory : List (Operation ℕ) :=
  [.route ⟨[.get], "/users/\x7bid\x7d", .variable, 1⟩,
    .route ⟨[.get], "/users/\x7bid", .variable, 2⟩,
    .redirect "/users" "/people",
    .routes [⟨[.post, .get, .get], "/users//me/", .literal, 3⟩,
      ⟨[.get], "/users/me", .literal, 4⟩]]

/-- All four declarations of `mixedHistory` are put on trial. -/
lemma length_trials_mixedHistory :
    ((withOptions ⟨false, .ignore⟩).trials mixedHistory).length = 4 := by
  decide +kernel

/-- The first of the two literal routes serves every spelling of its path. -/
theorem mixed_literal_served :
    ∃ r events before x after t, ((withOptions ⟨false, .ignore⟩).run mixedHistory).build =
        .ok (r, events) ∧
      (withOptions ⟨false, .ignore⟩).trials mixedHistory = before ++ x :: after ∧
      x.Places .get "/users/me" ∧ (∀ y ∈ before, ¬ y.Places .get "/users/me") ∧
      canonicalPath "/users/./you/../me" = .ok "/users/me" ∧
      (r.resolve .get "/users/./you/../me").answer =
        .ok (some ⟨⟨[.post, .get], t, 3⟩, .none⟩) := by
  obtain ⟨⟨r, events⟩, hbuild⟩ :
      ∃ built, ((withOptions ⟨false, .ignore⟩).run mixedHistory).build = .ok built :=
    ⟨_, Success.eq_ok_get (by decide +kernel)⟩
  obtain ⟨before, x, after, htrials, hbefore, hdeclaration, haccepted⟩ :
      ∃ before x after, (withOptions ⟨false, .ignore⟩).trials mixedHistory = before ++ x :: after ∧
        (∀ y ∈ before, y.declaration.style ≠ .literal) ∧
        x.declaration = ⟨[.post, .get, .get], "/users//me/", .literal, 3⟩ ∧
        (x.builder.addRoute x.declaration).refusal = none := by
    refine ⟨((withOptions ⟨false, .ignore⟩).trials mixedHistory).take 2,
      ((withOptions ⟨false, .ignore⟩).trials mixedHistory).get
        ⟨2, by rw [length_trials_mixedHistory]; decide⟩,
      ((withOptions ⟨false, .ignore⟩).trials mixedHistory).drop 3, ?_, ?_, ?_, ?_⟩
    · rw [List.get_eq_getElem, ← List.drop_eq_getElem_cons, List.take_append_drop]
    all_goals decide +kernel
  have hx : x.Places .get "/users/me" := by
    refine ⟨?_, ?_, ?_, haccepted⟩
    all_goals rw [hdeclaration]
    all_goals decide +kernel
  have hfirst : ∀ y ∈ before, ¬ y.Places .get "/users/me" := fun y hy h => hbefore y hy h.literal
  have hraw : canonicalPath "/users/./you/../me" = .ok "/users/me" := by decide +kernel
  obtain ⟨hserved, -⟩ := literal_round_trip ⟨false, .ignore⟩ mixedHistory r events hbuild
  obtain ⟨t, -, hanswer⟩ := hserved before x after htrials .get "/users/me" hx hfirst
  have hmethods : uniqueMethods [.post, .get, .get] = [.post, .get] := by decide +kernel
  have hanswer := hanswer _ hraw
  rw [hdeclaration, hmethods] at hanswer
  exact ⟨r, events, before, x, after, t, hbuild, htrials, hx, hfirst, hraw, hanswer⟩

end Builder

end UriRouting
