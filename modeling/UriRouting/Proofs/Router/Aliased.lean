import UriRouting.Proofs.Builder.Operations

/-!
# Aliases in front of a router

A router with aliases answers as the router with the same tables and no aliases does, which is asked
twice: for the canonical path of the request, and for the path that the longest alias that covers it
makes of it.  `Router.prefer` says which of the two answers is given: a literal route before any
other, and then the answer to the path itself.

The proof rests on where the hits of a router come from.  A hit in a table of literal routes is a
literal route and a hit in a trie is not (`Router.Sorted`), so the answers tell from which of the
four lookups they come.
-/

namespace UriRouting

variable {H : Type}

/-- Whether it is a literal route that serves the path. -/
def Match.isLiteral (found : Match H) : Bool := found.mapping.template.isLiteral

namespace Router

/-! ## Two answers -/

/-- The answer to a request, of the one to its path and the one to the path that stands in for it: a
literal route before any other, and the path itself before the other one. -/
def prefer (direct redirected : Option (Match H)) : Option (Match H) :=
  direct.filter Match.isLiteral <|> redirected.filter Match.isLiteral <|> direct <|> redirected

/-- A path that is served is served with any second answer, and by the same route unless this is a
dynamic one and the second answer is a literal one. -/
lemma prefer_of_some (found : Match H) (redirected : Option (Match H)) :
    prefer (some found) redirected = some found ∨ found.isLiteral = false ∧
      ∃ other, redirected = some other ∧ other.isLiteral = true ∧
        prefer (some found) redirected = some other := by
  cases hfound : found.isLiteral with
  | true => exact .inl (by simp [prefer, Option.filter, hfound])
  | false =>
    cases redirected with
    | none => exact .inl (by simp [prefer, Option.filter, hfound])
    | some other =>
      cases hother : other.isLiteral with
      | true =>
        exact .inr ⟨rfl, other, rfl, hother, by simp [prefer, Option.filter, hfound, hother]⟩
      | false => exact .inl (by simp [prefer, Option.filter, hfound, hother])

/-- Where it is known which hits are literal, four lookups in a row are two answers. -/
lemma prefer_orElse {literal literal' dynamic dynamic' : Option (Match H)}
    (hl : ∀ found ∈ literal, found.isLiteral = true)
    (hl' : ∀ found ∈ literal', found.isLiteral = true)
    (hd : ∀ found ∈ dynamic, found.isLiteral = false)
    (hd' : ∀ found ∈ dynamic', found.isLiteral = false) :
    prefer (literal <|> dynamic) (literal' <|> dynamic') =
      (literal <|> literal' <|> dynamic <|> dynamic') := by
  have hnone : ∀ {o : Option (Match H)}, (∀ found ∈ o, found.isLiteral = false) →
      o.filter Match.isLiteral = none := by
    intro o ho
    rw [Option.filter_eq_none_iff]
    intro found hfound
    simp [ho found hfound]
  cases literal with
  | some found => simp [prefer, Option.filter, hl found rfl]
  | none =>
    cases literal' with
    | some found =>
      have hkeep : (some found).filter Match.isLiteral = some found := by
        simp [Option.filter, hl' found rfl]
      have hdrop : (none <|> dynamic).filter Match.isLiteral = none := hnone hd
      have hfirst : (some found <|> dynamic') = some found := rfl
      rw [prefer, hdrop, hfirst, hkeep]
      rfl
    | none =>
      have hdrop : (none <|> dynamic).filter Match.isLiteral = none := hnone hd
      have hdrop' : (none <|> dynamic').filter Match.isLiteral = none := hnone hd'
      rw [prefer, hdrop, hdrop']
      rfl

/-! ## Tables with the routes that belong there -/

/-- The literal routes are in the tables and the dynamic ones in the tries. -/
structure Sorted (r : Router H) : Prop where
  exact_isLiteral : ∀ method path m, (r.exact.get method).get? path = some m →
    m.template.isLiteral = true
  tries_isLiteral : ∀ method path found, (r.tries.get method).lookup path = some found →
    found.isLiteral = false

/-- The answer of a router without aliases to a canonical path. -/
lemma find_of_aliases_nil {r : Router H} (h : r.aliases = []) (method : Method) (path : String) :
    r.find method path =
      (((r.exact.get method).get? path).map literalMatch <|> (r.tries.get method).lookup path) := by
  have hnone : Alias.standIn? r.aliases path = none := by rw [h]; rfl
  simp [find, hnone]

/-- The answer of a router is made of two answers of the router without aliases. -/
theorem find_eq_prefer {r : Router H} (h : r.Sorted) (method : Method) (path : String) :
    let bare : Router H := { r with aliases := [] }
    r.find method path = prefer (bare.find method path)
      ((Alias.standIn? r.aliases path).bind (bare.find method)) := by
  intro bare
  have hliteral : ∀ path', ∀ found ∈ ((r.exact.get method).get? path').map literalMatch,
      found.isLiteral = true := by
    intro path' found hfound
    obtain ⟨m, hm, rfl⟩ := Option.map_eq_some_iff.1 hfound
    exact h.exact_isLiteral method path' m hm
  have hdynamic : ∀ path', ∀ found ∈ (r.tries.get method).lookup path', found.isLiteral = false :=
    fun path' found hfound => h.tries_isLiteral method path' found hfound
  have hbare : bare.find method = fun path' =>
      (((r.exact.get method).get? path').map literalMatch <|> (r.tries.get method).lookup path') :=
    funext fun path' => find_of_aliases_nil rfl method path'
  rw [hbare]
  cases hstand : Alias.standIn? r.aliases path with
  | none =>
    have hprefer : prefer (_ <|> _) (none <|> none) = _ :=
      prefer_orElse (hliteral path) (by simp) (hdynamic path) (by simp)
    simpa [find, hstand] using hprefer.symm
  | some path' =>
    have hprefer := prefer_orElse (hliteral path) (hliteral path') (hdynamic path) (hdynamic path')
    simpa [find, hstand] using hprefer.symm

/-- What a router answers to a request with a canonical form. -/
lemma answer_of_canonicalPath {r : Router H} {raw path : String}
    (h : canonicalPath raw = .ok path) (method : Method) :
    (r.resolve method raw).answer = .ok (r.find method path) := by
  simp only [resolve, lookup, h]
  cases r.find method path <;> rfl

/-- A request without a canonical form is refused by every router alike. -/
lemma answer_of_error {r : Router H} {raw : String} {e : RouteError}
    (h : canonicalPath raw = .error e) (method : Method) :
    (r.resolve method raw).answer = .error e := by
  simp only [resolve, lookup, h]

end Router

/-! ## Routers that are built -/

namespace ExactTable

/-- An entry adds nothing to a table but its own mapping. -/
lemma eq_or_of_get?_insert {t : ExactTable H} {own path : String} {m n : Mapping H}
    (h : (t.insert own n).2.get? path = some m) : t.get? path = some m ∨ m = n := by
  unfold insert at h
  cases htaken : t.get? own with
  | some _ =>
    rw [htaken] at h
    exact .inl h
  | none =>
    rw [htaken] at h
    unfold get? at h ⊢
    rw [List.lookup_append, Option.or_eq_some_iff] at h
    rcases h with h | ⟨-, h⟩
    · exact .inl h
    · rw [List.lookup_cons, List.lookup_nil] at h
      split at h
      · exact .inr (Option.some.inj h).symm
      · simp at h

/-- Nothing is found in a table but what has been entered. -/
lemma mem_of_get?_insertAll {t : ExactTable H} {ms : List (Mapping H)} {path : String}
    {m : Mapping H} (h : (t.insertAll ms).get? path = some m) : t.get? path = some m ∨ m ∈ ms := by
  induction ms generalizing t with
  | nil => exact .inl h
  | cons n ms ih =>
    have hrest : (t.insert n.template.path n).2.get? path = some m ∨ m ∈ ms := ih h
    rcases hrest with hget | hmem
    · rcases eq_or_of_get?_insert hget with hget | rfl
      · exact .inl hget
      · exact .inr List.mem_cons_self
    · exact .inr (List.mem_cons_of_mem n hmem)

end ExactTable

namespace Builder

/-- What is built has every route where it belongs. -/
lemma sorted_of_build {b : Builder H} (hc : b.RoutesCompiled) {r : Router H} {events : List Event}
    (h : b.build = .ok (r, events)) : r.Sorted := by
  obtain ⟨-, -, htables⟩ := build_eq_ok h
  constructor
  · intro method path m hget
    rw [(htables method).1] at hget
    rcases ExactTable.mem_of_get?_insertAll hget with hnil | hmem
    · simp [ExactTable.get?, ExactTable.empty] at hnil
    · exact (mem_mappingsOf.1 hmem).2
  · intro method path found hlookup
    rw [(htables method).2] at hlookup
    have hleaf := (RouteTrie.lookup_eq_some hlookup).1
    have hstored := (RouteTrie.mem_leaves_ofHistory (compiled_of_mem_mappingsOf hc)).1 hleaf
    exact (mem_mappingsOf.1 (RouteTrie.mem_of_mem_stored hstored)).2

/-- Without its aliases a builder builds the same tables. -/
lemma build_of_aliases_nil {b : Builder H} {r : Router H} {events : List Event}
    (h : b.build = .ok (r, events)) :
    ∃ events', ({ b with aliases := [] } : Builder H).build =
      .ok ({ r with aliases := [] }, events') := by
  obtain ⟨t, ht, heq⟩ := Success.map_eq_ok.1 h
  simp only [Prod.mk.injEq] at heq
  obtain ⟨rfl, -⟩ := heq
  have htables : ({ b with aliases := [] } : Builder H).tables = .ok t := ht
  refine ⟨[.routerBuilt t.literal t.dynamic 0], ?_⟩
  rw [build, htables]
  rfl

/-- Aliases are a rewriting in front of the router without them, which has the same tables.  A
request is refused by both alike.  For any other one the router without aliases is asked for its
canonical path and, if an alias covers this, for the path that the longest one makes of it; the
answer is the one that is preferred of the two.  So whatever is served without aliases is served
with them, and by the same route unless this is a dynamic one and the other a literal one. -/
theorem resolve_aliased (options : RouterOptions) (ops : List (Operation H)) (r : Router H)
    (events : List Event) (hbuild : ((withOptions options).run ops).build = .ok (r, events)) :
    let b := (withOptions options).run ops
    let bare : Router H := { r with aliases := [] }
    (∃ events', ({ b with aliases := [] } : Builder H).build = .ok (bare, events')) ∧
    ∀ method raw,
      (∀ e, canonicalPath raw = .error e →
        (r.resolve method raw).answer = .error e ∧ (bare.resolve method raw).answer = .error e) ∧
      ∀ path, canonicalPath raw = .ok path → ∃ direct redirected,
        (bare.resolve method path).answer = .ok direct ∧
        (Alias.longest? b.aliases path = none → redirected = none) ∧
        (∀ a, Alias.longest? b.aliases path = some a →
          (bare.resolve method (a.moved path)).answer = .ok redirected) ∧
        (r.resolve method raw).answer = .ok (Router.prefer direct redirected) ∧
        ∀ found, direct = some found → Router.prefer direct redirected = some found ∨
          found.isLiteral = false ∧ ∃ other, redirected = some other ∧ other.isLiteral = true ∧
            Router.prefer direct redirected = some other := by
  intro b bare
  have haliases : r.aliases = Alias.sort b.aliases := (build_eq_ok hbuild).1
  have hcanonical : ∀ a ∈ b.aliases, a.Canonical := aliasesCanonical_run options ops
  have hsorted : r.Sorted := sorted_of_build (routesCompiled_run options ops) hbuild
  refine ⟨build_of_aliases_nil hbuild, fun method raw => ⟨fun e he => ?_, fun path hpath => ?_⟩⟩
  · exact ⟨Router.answer_of_error he method, Router.answer_of_error he method⟩
  · have hp : Path.Canonical path := canonical_of_canonicalPath hpath
    have hstand : Alias.standIn? r.aliases path =
        (Alias.longest? b.aliases path).map fun a => a.moved path := by
      rw [haliases]
      exact Alias.standIn?_sort hcanonical hp
    refine ⟨bare.find method path, (Alias.standIn? r.aliases path).bind (bare.find method),
      Router.answer_of_canonicalPath hp.canonicalPath_eq method, ?_, ?_, ?_, ?_⟩
    · intro hnone
      rw [hstand, hnone]
      rfl
    · intro a ha
      have hmem : a ∈ b.aliases := (List.mem_filter.1 (List.argmax_mem ha)).1
      have hmoved := Alias.canonical_moved (hcanonical a hmem) hp
      rw [hstand, ha]
      exact Router.answer_of_canonicalPath hmoved.canonicalPath_eq method
    · rw [Router.answer_of_canonicalPath hpath, Router.find_eq_prefer hsorted]
    · intro found hfound
      rw [hfound]
      exact Router.prefer_of_some found _

/-- A variable route that serves a path, and a literal one that serves the path in its place. -/
def shortened : List (Operation Bool) :=
  [.route ⟨[.get], "/\x7bfolder\x7d/me", .variable, false⟩,
    .route ⟨[.get], "/users/me", .literal, true⟩, .redirect "/u" "/users"]

/-- The literal route at `/users/me` takes the place of the variable one that serves `/u/me` without
the alias. -/
theorem shortened_literal_first :
    let b := (withOptions ⟨true, .reject⟩).run shortened
    ∃ r events direct redirected, b.build = .ok (r, events) ∧ canonicalPath "/u//me" = .ok "/u/me" ∧
      (({ r with aliases := [] } : Router Bool).resolve .get "/u/me").answer = .ok direct ∧
      (({ r with aliases := [] } : Router Bool).resolve .get "/users/me").answer = .ok redirected ∧
      (r.resolve .get "/u//me").answer = .ok (Router.prefer direct redirected) ∧
      direct.map (·.mapping.handler) = some false ∧
      (Router.prefer direct redirected).map (·.mapping.handler) = some true := by
  intro b
  have hpath : canonicalPath "/u//me" = .ok "/u/me" := by decide +kernel
  have hlongest : Alias.longest? b.aliases "/u/me" = some ⟨"/u", "/users"⟩ := by decide +kernel
  have hmoved : (⟨"/u", "/users"⟩ : Alias).moved "/u/me" = "/users/me" := by decide +kernel
  have hbare : (b.build.toOption.bind fun built =>
      (({ built.1 with aliases := [] } : Router Bool).resolve .get "/u/me").answer.toOption.bind
        (·.map (·.mapping.handler))) = some false := by
    decide +kernel
  have hserved : (b.build.toOption.bind fun built =>
      (built.1.resolve .get "/u//me").answer.toOption.bind
        (·.map (·.mapping.handler))) = some true := by
    decide +kernel
  obtain ⟨⟨r, events⟩, hbuild⟩ : ∃ built, b.build = .ok built :=
    ⟨_, Success.eq_ok_get (by decide +kernel)⟩
  obtain ⟨-, hanswers⟩ := resolve_aliased ⟨true, .reject⟩ shortened r events hbuild
  obtain ⟨direct, redirected, hdirect, -, hredirected, hanswer, -⟩ :=
    (hanswers .get "/u//me").2 "/u/me" hpath
  have hother := hredirected _ hlongest
  rw [hmoved] at hother
  refine ⟨r, events, direct, redirected, hbuild, hpath, hdirect, hother, hanswer, ?_, ?_⟩
  · rw [hbuild] at hbare
    change ((({ r with aliases := [] } : Router Bool).resolve .get "/u/me").answer.toOption.bind
      _) = _ at hbare
    rwa [hdirect] at hbare
  · rw [hbuild] at hserved
    change ((r.resolve .get "/u//me").answer.toOption.bind _) = _ at hserved
    rwa [hanswer] at hserved

end Builder

end UriRouting
