import UriRouting.Config.Load
import UriRouting.Proofs.Config.Problems
import UriRouting.Proofs.Builder.Refusal
import UriRouting.Proofs.Path.Cleaning

/-!
# Loading as registering by hand

Whoever has a configuration in hand can also make the calls on a builder one by one: for every route
the handler is asked for, and then the route is declared; after all routes the aliases are added.
`Config.routeCalls` and `Config.aliasCalls` are these calls, and `Builder.follow` makes them, up to
the first that is refused.

Loading comes to the same (`Builder.load_by_hand`): the builder, the events and the first refusal are
those of the calls, and the handlers are asked for in the order of the routes, up to the route that
is refused.  What is special about loading is the check in front of it, which fails before any
handler is asked for, and behind which no path is refused for not starting with a `/`.
-/

namespace UriRouting

variable {H : Type}

/-! ## Registering by hand -/

/-- The builder that some calls have led to, or the refusal at which they ended. -/
def Registration.outcome (r : Registration H) : Except RouteError (Builder H) :=
  match r.refusal with
  | some e => .error e
  | none => .ok r.builder

/-- Make some calls one after another, up to the first that is refused. -/
def Builder.follow (b : Builder H) : List (Builder H → Registration H) → Registration H
  | [] => ⟨b, [], none⟩
  | call :: calls => (call b).andThen fun b => b.follow calls

/-- The call for a route, once its handler has been asked for.  A style that is not given is the one
that the path is written in. -/
def RouteEntry.call (r : RouteEntry) (answer : Option H) (b : Builder H) : Registration H :=
  match answer with
  | none => ⟨b, [], some (.unknownHandler r.handler)⟩
  | some handler => b.addRoute ⟨r.methods, r.path, r.style.getD (.infer r.path), handler⟩

/-- The call for an alias. -/
def AliasEntry.call (a : AliasEntry) (b : Builder H) : Registration H :=
  b.addAlias a.front a.target

namespace Config

/-- The names of the handlers, in the order of the routes. -/
def handlers (c : Config) : List String := c.routes.map RouteEntry.handler

/-- The calls for the routes.  The handler of a route is asked for after those of the routes before
it. -/
def routeCalls (c : Config) (supply : Supplier H) : List (Builder H → Registration H) :=
  c.routes.mapIdx fun i r => r.call (supply (c.handlers.take i) r.handler)

/-- The calls for the aliases. -/
def aliasCalls (c : Config) : List (Builder H → Registration H) := c.aliases.map AliasEntry.call

end Config

lemma Registration.andThen_assoc (r : Registration H) (f g : Builder H → Registration H) :
    (r.andThen f).andThen g = r.andThen fun b => (f b).andThen g := by
  obtain ⟨b, events, refusal⟩ := r
  cases refusal with
  | some e => rfl
  | none =>
    simp only [andThen]
    cases hrefusal : (f b).refusal with
    | some e => simp only [hrefusal]
    | none => simp only [List.append_assoc]

namespace Builder

/-- A refused call is the last one. -/
lemma follow_cons_of_refused {b : Builder H} {call : Builder H → Registration H} {e : RouteError}
    (h : (call b).refusal = some e) (calls : List (Builder H → Registration H)) :
    b.follow (call :: calls) = call b := by
  rw [follow, Registration.andThen, h]

/-- The calls behind an accepted one go on with what it has led to. -/
lemma follow_cons_of_accepted {b : Builder H} {call : Builder H → Registration H}
    (h : (call b).refusal = none) (calls : List (Builder H → Registration H)) :
    b.follow (call :: calls) = ⟨((call b).builder.follow calls).builder,
      (call b).events ++ ((call b).builder.follow calls).events,
      ((call b).builder.follow calls).refusal⟩ := by
  rw [follow, Registration.andThen, h]

lemma follow_append (b : Builder H) (calls more : List (Builder H → Registration H)) :
    b.follow (calls ++ more) = (b.follow calls).andThen fun b => b.follow more := by
  induction calls generalizing b with
  | nil => rfl
  | cons call calls ih =>
    rw [List.cons_append, follow, follow, Registration.andThen_assoc]
    simp only [ih]

/-- What holds of every refusal of a call holds of the refusal at which some calls end. -/
lemma refusal_of_follow {P : RouteError → Prop} {calls : List (Builder H → Registration H)}
    (hcalls : ∀ call ∈ calls, ∀ b e, (call b).refusal = some e → P e) {b : Builder H}
    {e : RouteError} (h : (b.follow calls).refusal = some e) : P e := by
  induction calls generalizing b with
  | nil => simp [follow] at h
  | cons call calls ih =>
    rw [List.forall_mem_cons] at hcalls
    rw [follow, Registration.andThen] at h
    split at h
    · exact hcalls.1 b e h
    · exact ih hcalls.2 h

end Builder

/-! ## Routes and aliases one by one -/

namespace Loading

/-- A route is registered by the call for it. -/
lemma addRoutes_cons (supply : Supplier H) (asked : List String) (events : List Event)
    (b : Builder H) (r : RouteEntry) (rest : List RouteEntry) :
    let made := r.call (supply asked r.handler) b
    addRoutes supply asked events b (r :: rest) =
      match made.refusal with
      | some e => ⟨asked ++ [r.handler], events ++ made.events, .error e⟩
      | none =>
        addRoutes supply (asked ++ [r.handler]) (events ++ made.events) made.builder rest := by
  rw [addRoutes]
  cases supply asked r.handler with
  | none => simp [RouteEntry.call]
  | some handler => rfl

/-- The routes are registered by the calls for them, and the handlers that are asked for are those of
the routes up to the one that is refused. -/
theorem addRoutes_spec (supply : Supplier H) (asked : List String) (events : List Event)
    (b : Builder H) (routes : List RouteEntry) :
    let names := routes.map RouteEntry.handler
    let calls := routes.mapIdx fun i r => r.call (supply (asked ++ names.take i) r.handler)
    (addRoutes supply asked events b routes).events = events ++ (b.follow calls).events ∧
      (addRoutes supply asked events b routes).outcome = (b.follow calls).outcome ∧
      ∃ n ≤ names.length, (addRoutes supply asked events b routes).asked = asked ++ names.take n ∧
        ∀ i < names.length, i < n ↔ (b.follow (calls.take i)).refusal = none := by
  induction routes generalizing asked events b with
  | nil => exact ⟨(List.append_nil events).symm, rfl, 0, Nat.le_refl 0, by simp [addRoutes], by simp⟩
  | cons r routes ih =>
    intro names calls
    obtain ⟨call, hcall⟩ : ∃ call, call = r.call (supply asked r.handler) := ⟨_, rfl⟩
    obtain ⟨rest, hrest⟩ : ∃ rest, rest = routes.mapIdx fun i x => x.call
      (supply (asked ++ [r.handler] ++ (routes.map RouteEntry.handler).take i) x.handler) := ⟨_, rfl⟩
    have hcalls : calls = call :: rest := by
      simp only [calls, names, hcall, hrest, List.mapIdx_cons, List.map_cons, List.take_zero,
        List.append_nil, List.take_succ_cons, List.append_assoc, List.singleton_append]
    obtain ⟨hevents, houtcome, n, hn, hasked, hiff⟩ :=
      ih (asked ++ [r.handler]) (events ++ (call b).events) (call b).builder
    rw [← hrest] at hevents houtcome hiff
    rw [addRoutes_cons, ← hcall, hcalls]
    cases hrefusal : (call b).refusal with
    | some e =>
      -- nothing is asked for behind the first call
      rw [Builder.follow_cons_of_refused hrefusal, Registration.outcome, hrefusal]
      refine ⟨rfl, rfl, 1, by simp [names], by simp [names], fun i hi => ?_⟩
      cases i with
      | zero => simp [Builder.follow]
      | succ i =>
        rw [List.take_succ_cons, Builder.follow_cons_of_refused hrefusal, hrefusal]
        simp
    | none =>
      rw [Builder.follow_cons_of_accepted hrefusal]
      refine ⟨?_, houtcome, n + 1, ?_, ?_, fun i hi => ?_⟩
      · rw [hevents, List.append_assoc]
      · simpa [names] using hn
      · rw [hasked]
        simp [names]
      · cases i with
        | zero => simp [Builder.follow]
        | succ i =>
          simp only [names, List.map_cons, List.length_cons, Nat.add_lt_add_iff_right] at hi
          rw [Nat.add_lt_add_iff_right, hiff i hi, List.take_succ_cons,
            Builder.follow_cons_of_accepted hrefusal]

/-- The aliases are registered by the calls for them. -/
theorem addAliases_spec (l : Loading H) (b : Builder H) (aliases : List AliasEntry) :
    l.addAliases b aliases = ⟨l.asked, l.events ++ (b.follow (aliases.map AliasEntry.call)).events,
      (b.follow (aliases.map AliasEntry.call)).outcome⟩ := by
  induction aliases generalizing l b with
  | nil => simp [addAliases, Builder.follow, Registration.outcome]
  | cons a aliases ih =>
    rw [addAliases, List.map_cons]
    cases hrefusal : (b.addAlias a.front a.target).refusal with
    | some e =>
      have hcall : (a.call b).refusal = some e := hrefusal
      rw [Builder.follow_cons_of_refused hcall, Registration.outcome, hcall]
      rfl
    | none =>
      have hcall : (a.call b).refusal = none := hrefusal
      rw [Builder.follow_cons_of_accepted hcall, ih, List.append_assoc]
      rfl

end Loading

/-! ## Refusals -/

namespace RouteError

/-- A refusal of a configuration as such. -/
def IsConfig : RouteError → Prop
  | invalidConfig _ => True
  | malformedConfig => True
  | _ => False

/-- A refusal that can come of the calls for a valid configuration: it does not blame the
configuration, nor a path for not starting with a `/`. -/
def Late (e : RouteError) : Prop := ¬ e.IsConfig ∧ ∀ path, e ≠ .invalidPath path .relative

end RouteError

/-- A path with a `/` in front is only refused for a `..` that is one too many. -/
lemma Path.eq_aboveRoot_of_normalize {raw : String} {fault : Path.Fault}
    (hhead : raw.toList.head? = some '/') (h : Path.normalize raw = .error fault) :
    fault = .aboveRoot := by
  rw [Path.normalize_eq, if_pos hhead] at h
  obtain ⟨hfault, hstands⟩ := Path.foldlM_advance (raw.toList.splitOn '/') []
  by_cases hclimbs : Path.ClimbsAbove 0 (raw.toList.splitOn '/')
  · rw [hfault hclimbs] at h
    exact (Except.error.inj h).symm
  · rw [hstands hclimbs] at h
    simp [Except.map] at h

lemma late_of_canonicalPath {raw : String} {e : RouteError}
    (hhead : raw.toList.head? = some '/') (h : canonicalPath raw = .error e) : e.Late := by
  obtain ⟨fault, hfault, rfl⟩ := Success.mapError_eq_error.1 h
  obtain rfl := Path.eq_aboveRoot_of_normalize hhead hfault
  exact ⟨id, fun path heq => by simp at heq⟩

/-- A template is refused for its path, for what stands in it, or for its expression. -/
lemma Template.compile_eq_error {style : TemplateStyle} {text : String} {escaped : Bool}
    {e : RouteError} (h : compile style text escaped = .error e) :
    canonicalPath text = .error e ∨ (∃ fault, e = .unsupportedTemplate text fault) ∨
      e = .invalidPattern text := by
  -- with holes, the parts are read first and the expression is compiled after that
  have hdynamic : ∀ (parts : Except TemplateFault (List TemplatePart))
      (body : List TemplatePart → List Char) (make : List TemplatePart → Regex → Template),
      (unsupported text parts >>= fun parts => compileRegex text (body parts) >>= fun regex =>
        Except.ok (make parts regex)) = .error e →
      (∃ fault, e = .unsupportedTemplate text fault) ∨ e = .invalidPattern text := by
    intro parts body make hchain
    rcases Success.bind_eq_error.1 hchain with hparts | ⟨parts, -, hchain⟩
    · obtain ⟨fault, -, rfl⟩ := Success.mapError_eq_error.1 hparts
      exact .inl ⟨fault, rfl⟩
    · rcases Success.bind_eq_error.1 hchain with hregex | ⟨regex, -, hok⟩
      · unfold compileRegex at hregex
        split at hregex
        · simp at hregex
        · exact .inr (Except.error.inj hregex).symm
      · simp at hok
  cases style with
  | literal =>
    rcases Success.bind_eq_error.1 h with hpath | ⟨path, -, h⟩
    · exact .inl hpath
    · refine .inr (.inl ?_)
      split at h
      · exact ⟨_, (Except.error.inj h).symm⟩
      · split at h
        · exact ⟨_, (Except.error.inj h).symm⟩
        · simp at h
  | «variable» =>
    rcases Success.bind_eq_error.1 h with hpath | ⟨path, -, h⟩
    · exact .inl hpath
    · split at h
      · exact .inr (hdynamic _ _ _ h)
      · exact .inr (.inl ⟨_, (Except.error.inj h).symm⟩)
  | pattern =>
    rcases Success.bind_eq_error.1 h with hpath | ⟨path, -, h⟩
    · exact .inl hpath
    · split at h
      · exact .inr (hdynamic _ (fun _ => path.toList) _ h)
      · exact .inr (.inl ⟨_, (Except.error.inj h).symm⟩)

lemma late_of_addRoute {b : Builder H} {d : Declaration H} {e : RouteError}
    (hhead : d.template.toList.head? = some '/') (h : (b.addRoute d).refusal = some e) : e.Late := by
  cases hcompile : Template.compile d.style d.template b.options.escapeLiterals with
  | error cause =>
    obtain rfl : cause = e := Option.some.inj ((Builder.addRoute_of_error hcompile).symm.trans h)
    rcases Template.compile_eq_error hcompile with hpath | ⟨fault, rfl⟩ | rfl
    · exact late_of_canonicalPath hhead hpath
    · exact ⟨id, fun path heq => by simp at heq⟩
    · exact ⟨id, fun path heq => by simp at heq⟩
  | ok t =>
    obtain ⟨-, _, method, _, -, -, -, rfl⟩ := (Builder.addRoute_refusal_eq_some_iff hcompile).1 h
    exact ⟨id, fun path heq => by simp at heq⟩

lemma late_of_addAlias {b : Builder H} {front target : String} {e : RouteError}
    (hfront : front.toList.head? = some '/') (htarget : target.toList.head? = some '/')
    (h : (b.addAlias front target).refusal = some e) : e.Late := by
  unfold Builder.addAlias at h
  cases hf : canonicalPath front with
  | error cause =>
    simp only [hf, Option.some.injEq] at h
    exact h ▸ late_of_canonicalPath hfront hf
  | ok f =>
    cases ht : canonicalPath target with
    | error cause =>
      simp only [hf, ht, Option.some.injEq] at h
      exact h ▸ late_of_canonicalPath htarget ht
    | ok t => simp [hf, ht] at h

namespace Config

/-- The calls for a valid configuration are only refused for later reasons. -/
lemma late_of_calls {c : Config} (hvalid : ∀ p, ¬ c.Breaks p) (supply : Supplier H) :
    ∀ call ∈ c.routeCalls supply ++ c.aliasCalls, ∀ b e, (call b).refusal = some e → e.Late := by
  intro call hcall b e h
  rcases List.mem_append.1 hcall with hcall | hcall
  · obtain ⟨i, hi, rfl⟩ := List.mem_mapIdx.1 hcall
    have hhead : c.routes[i].path.toList.head? = some '/' := by
      by_contra hrelative
      exact hvalid _ (.relativeRoute (List.getElem?_eq_getElem hi) hrelative)
    unfold RouteEntry.call at h
    split at h
    · obtain rfl := Option.some.inj h
      exact ⟨id, fun path heq => by simp at heq⟩
    · exact late_of_addRoute hhead h
  · obtain ⟨a, ha, rfl⟩ := List.mem_map.1 hcall
    obtain ⟨i, hentry⟩ := List.getElem?_of_mem ha
    have hsides : a.front.toList.head? = some '/' ∧ a.target.toList.head? = some '/' := by
      by_contra hrelative
      rw [not_and_or] at hrelative
      exact hvalid _ (.relativeAlias hentry hrelative)
    exact late_of_addAlias hsides.1 hsides.2 h

end Config

/-! ## Loading -/

namespace Builder

/-- What comes of loading a valid configuration. -/
lemma load_of_valid {c : Config} (hvalid : ∀ p, ¬ c.Breaks p) (supply : Supplier H) :
    let calls := c.routeCalls supply ++ c.aliasCalls
    let hand := (withOptions c.options).follow calls
    (load c supply).events = hand.events ∧ (load c supply).outcome = hand.outcome ∧
      ∃ n ≤ c.handlers.length, (load c supply).asked = c.handlers.take n ∧
        ∀ i < c.handlers.length, i < n ↔
          ((withOptions c.options).follow ((c.routeCalls supply).take i)).refusal = none := by
  intro calls hand
  have hok : c.validate = .ok () := by
    rcases c.validate_cases with ⟨-, hok⟩ | ⟨⟨p, hp⟩, -⟩
    · exact hok
    · exact absurd hp (hvalid p)
  obtain ⟨hevents, houtcome, n, hn, hasked, hiff⟩ :=
    Loading.addRoutes_spec supply [] [] (withOptions c.options) c.routes
  simp only [List.nil_append] at hevents houtcome hasked hiff
  change _ = ((withOptions c.options).follow (c.routeCalls supply)).events at hevents
  change _ = ((withOptions c.options).follow (c.routeCalls supply)).outcome at houtcome
  have hhand : hand = ((withOptions c.options).follow (c.routeCalls supply)).andThen
      fun b => b.follow c.aliasCalls := follow_append _ _ _
  rw [hhand, Registration.andThen]
  simp only [load, hok]
  cases hrefusal : ((withOptions c.options).follow (c.routeCalls supply)).refusal with
  | some e =>
    have hrouted := houtcome
    rw [Registration.outcome, hrefusal] at hrouted
    simp only [hrouted]
    refine ⟨hevents, ?_, n, hn, hasked, hiff⟩
    rw [Registration.outcome, hrefusal]
  | none =>
    have hrouted := houtcome
    rw [Registration.outcome, hrefusal] at hrouted
    simp only [hrouted, Loading.addAliases_spec]
    refine ⟨?_, rfl, n, hn, hasked, hiff⟩
    rw [hevents]
    rfl

/-- Loading a configuration is checking it and making the calls for it by hand.

It fails for the configuration as such exactly if an entry breaks a rule, and the message has a part
for each rule that an entry breaks, in their order; then no handler has been asked for.  Otherwise it
leads to the builder of the calls, or to their first refusal, with the same events.  The handlers are
asked for in the order of the routes, once each, and the one of a route exactly if nothing has been
refused before it.  In no case is a path refused for not starting with a `/`. -/
theorem load_by_hand (c : Config) (supply : Supplier H) :
    let loading := load c supply
    let start : Builder H := withOptions c.options
    let hand := start.follow (c.routeCalls supply ++ c.aliasCalls)
    ((∃ e, loading.outcome = .error e ∧ e.IsConfig) ↔ ∃ p, c.Breaks p) ∧
    ((∃ p, c.Breaks p) → loading.asked = [] ∧ ∃ ps e, c.Report ps ∧ loading.outcome = .error e ∧
      e.message = "config: " ++ ", ".intercalate (ps.map ConfigProblem.message)) ∧
    ((∀ p, ¬ c.Breaks p) → loading.outcome = hand.outcome ∧ loading.events = hand.events ∧
      loading.asked <+: c.handlers ∧ ∀ i < c.handlers.length,
        i < loading.asked.length ↔ (start.follow ((c.routeCalls supply).take i)).refusal = none) ∧
    ∀ path, loading.outcome ≠ .error (.invalidPath path .relative) := by
  intro loading start hand
  rcases c.validate_cases with ⟨hvalid, -⟩ | ⟨hbroken, hrefused⟩
  · obtain ⟨hevents, houtcome, n, hn, hasked, hiff⟩ := load_of_valid hvalid supply
    have hlate : ∀ e, loading.outcome = .error e → e.Late := by
      intro e he
      refine refusal_of_follow (c.late_of_calls hvalid supply) (b := start) (e := e) ?_
      rw [show loading.outcome = hand.outcome from houtcome, Registration.outcome] at he
      split at he
      · next cause hcause => rw [hcause, Except.error.inj he]
      · simp at he
    have hlength : loading.asked.length = n := by
      rw [show loading.asked = c.handlers.take n from hasked, List.length_take_of_le hn]
    refine ⟨⟨?_, ?_⟩, ?_, ?_, ?_⟩
    · rintro ⟨e, he, hconfig⟩
      exact absurd hconfig (hlate e he).1
    · rintro ⟨p, hp⟩
      exact absurd hp (hvalid p)
    · rintro ⟨p, hp⟩
      exact absurd hp (hvalid p)
    · intro _
      refine ⟨houtcome, hevents, ?_, ?_⟩
      · rw [show loading.asked = c.handlers.take n from hasked]
        exact List.take_prefix n c.handlers
      · rw [hlength]
        exact hiff
    · intro path he
      exact (hlate _ he).2 path rfl
  · have hloading : loading = ⟨[], [], .error (.invalidConfig c.problems)⟩ := by
      simp only [loading, load, hrefused]
    rw [hloading]
    refine ⟨⟨fun _ => hbroken, fun _ => ⟨_, rfl, trivial⟩⟩, ?_, ?_, ?_⟩
    · intro _
      exact ⟨rfl, c.problems, _, c.problems_report, rfl, rfl⟩
    · intro hvalid
      obtain ⟨p, hp⟩ := hbroken
      exact absurd hp (hvalid p)
    · intro path he
      simp at he

/-- A supplier that gives every handler away once. -/
def onceOnly : Supplier ℕ := fun asked name => if name ∈ asked then none else some asked.length

/-- Routes of which two name the same handler. -/
def sharedHandler : Config :=
  ⟨{}, [⟨"/v1", "/"⟩],
    [⟨[.get], "/users/\x7bid\x7d", none, "show"⟩, ⟨[.get], "/users", none, "list"⟩,
      ⟨[.get], "/groups/\x7bid\x7d", none, "show"⟩, ⟨[.get], "/groups", none, "groups"⟩]⟩

/-- The routes of `sharedHandler` up to the second. -/
def ownHandlers : Config := { sharedHandler with routes := sharedHandler.routes.take 2 }

/-- A route and an alias without a `/` in front. -/
def relativePaths : Config := ⟨{}, [⟨"v1", "/"⟩], [⟨[.get], "users", none, "list"⟩]⟩

/-- The third route of `sharedHandler` ends the loading, and the fourth is not asked for; without
these two it is loaded, and serves a path under its alias.  `relativePaths` is refused before anything
is asked for. -/
theorem shared_handler_declined :
    (∀ p, ¬ sharedHandler.Breaks p) ∧
    (load sharedHandler onceOnly).asked = ["show", "list", "show"] ∧
    (load sharedHandler onceOnly).outcome = .error (.unknownHandler "show") ∧
    (∃ p, relativePaths.Breaks p) ∧ (load relativePaths onceOnly).asked = [] ∧
    (∀ p, ¬ ownHandlers.Breaks p) ∧
    ∃ b r events, (load ownHandlers onceOnly).outcome = .ok b ∧ b.build = .ok (r, events) ∧
      ((r.resolve .get "/v1/users/7").answer.toOption.bind
        (·.map fun found => (found.mapping.handler, found.params))) =
          some (0, .named [("id", "7")]) := by
  have hvalid : ∀ p, ¬ sharedHandler.Breaks p := by
    intro p hp
    have hproblems : sharedHandler.problems = [] := by decide +kernel
    simpa [hproblems] using Config.mem_problems_iff.2 hp
  have hbroken : ∃ p, relativePaths.Breaks p :=
    ⟨_, .relativeRoute (i := 0) rfl (by decide)⟩
  obtain ⟨-, -, hhand, -⟩ := load_by_hand sharedHandler onceOnly
  obtain ⟨houtcome, -, hprefix, hasked⟩ := hhand hvalid
  have hrefusal : ((withOptions sharedHandler.options).follow
      (sharedHandler.routeCalls onceOnly ++ sharedHandler.aliasCalls)).refusal =
        some (.unknownHandler "show") := by
    decide +kernel
  have hthird : 2 < (load sharedHandler onceOnly).asked.length :=
    (hasked 2 (by decide)).2 (by decide +kernel)
  have hfourth : ¬ 3 < (load sharedHandler onceOnly).asked.length := by
    rw [hasked 3 (by decide)]
    decide +kernel
  have hlength : (load sharedHandler onceOnly).asked.length = 3 := by omega
  have hnone := ((load_by_hand relativePaths onceOnly).2.1 hbroken).1
  have hown : ∀ p, ¬ ownHandlers.Breaks p := by
    intro p hp
    have hproblems : ownHandlers.problems = [] := by decide +kernel
    simpa [hproblems] using Config.mem_problems_iff.2 hp
  refine ⟨hvalid, ?_, ?_, hbroken, hnone, hown, ?_⟩
  · rw [List.prefix_iff_eq_take.1 hprefix, hlength]
    rfl
  · rw [houtcome, Registration.outcome, hrefusal]
  · obtain ⟨hloaded, -⟩ := (load_by_hand ownHandlers onceOnly).2.2.1 hown
    have haccepted : ((withOptions ownHandlers.options).follow
        (ownHandlers.routeCalls onceOnly ++ ownHandlers.aliasCalls)).refusal = none := by
      decide +kernel
    rw [Registration.outcome, haccepted] at hloaded
    have hserved : (((withOptions ownHandlers.options).follow
        (ownHandlers.routeCalls onceOnly ++ ownHandlers.aliasCalls)).builder.build.toOption.bind
          fun built => (built.1.resolve .get "/v1/users/7").answer.toOption.bind
            (·.map fun found => (found.mapping.handler, found.params))) =
              some (0, .named [("id", "7")]) := by
      decide +kernel
    obtain ⟨⟨r, events⟩, hr⟩ : ∃ built, ((withOptions ownHandlers.options).follow
        (ownHandlers.routeCalls onceOnly ++ ownHandlers.aliasCalls)).builder.build = .ok built :=
      ⟨_, Success.eq_ok_get (by decide +kernel)⟩
    rw [hr] at hserved
    exact ⟨_, r, events, hloaded, hr, hserved⟩

end Builder

end UriRouting
