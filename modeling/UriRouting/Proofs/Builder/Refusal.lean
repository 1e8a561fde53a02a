import UriRouting.Proofs.Builder.Registration

/-!
# Refused declarations

A declaration is refused for two reasons: its template does not compile, or, where duplicates are
refused, one of its keys is registered already.  `Builder.Registered` tells the second reason from
the history of a builder alone: an accepted declaration of an earlier call has the key
(`Builder.mem_seen_run_iff`).  The methods are looked at in the order of the declaration, and the
refusal names the first one that is taken (`Builder.addRoute_refusal_eq_some_iff`).

A refused declaration leaves nothing behind.  Of a group of declarations those in front of the first
that is refused are added, as if they had been added one by one, and the history goes on as if the
others had not been given (`Builder.registration_atomic`).
-/

namespace UriRouting

variable {H : Type}

namespace Builder

/-! ## Keys and their history -/

/-- A key is registered in the course of some calls: an accepted declaration has it. -/
def Registered (b : Builder H) (ops : List (Operation H)) (k : RouteKey) : Prop :=
  ∃ x ∈ b.trials ops, x.Accepted ∧ k ∈ x.declaration.keys b.options

lemma mem_keys_iff {options : RouterOptions} {d : Declaration H} {t : Template}
    (h : Template.compile d.style d.template options.escapeLiterals = .ok t) {k : RouteKey} :
    k ∈ d.keys options ↔ ∃ method ∈ d.methods, routeKey t method = k := by
  rw [Declaration.keys, Declaration.routes_of_eq_ok h, List.map_map, List.mem_map]
  simp only [mem_uniqueMethods]
  rfl

/-- An accepted declaration adds its keys, but for those that are there. -/
lemma mem_seen_append_added_iff {b : Builder H} {d : Declaration H}
    (h : (b.addRoute d).refusal = none) {k : RouteKey} :
    k ∈ b.seen ++ (b.added d).map keyOfRoute ↔ k ∈ b.seen ∨ k ∈ d.keys b.options := by
  rw [List.mem_append, added, if_pos h, Declaration.keys, List.mem_map, List.mem_map]
  constructor
  · rintro (hk | ⟨route, hroute, rfl⟩)
    · exact .inl hk
    · exact .inr ⟨route, (List.mem_filter.1 hroute).1, rfl⟩
  · rintro (hk | ⟨route, hroute, rfl⟩)
    · exact .inl hk
    · by_cases hseen : keyOfRoute route ∈ b.seen
      · exact .inl hseen
      · exact .inr ⟨route, List.mem_filter.2 ⟨hroute, by simpa using hseen⟩, rfl⟩

/-- What a run has seen are the keys of the declarations that it has accepted. -/
theorem mem_seen_run_iff (b : Builder H) (ops : List (Operation H)) (k : RouteKey) :
    k ∈ (b.run ops).seen ↔ k ∈ b.seen ∨ b.Registered ops k := by
  have hseen : (b.run ops).seen = b.seen ++ ((b.trials ops).flatMap Trial.added).map keyOfRoute :=
    (b.run_grown ops).seen_eq
  constructor
  · intro hk
    rw [hseen, List.mem_append] at hk
    refine hk.imp_right fun hk => ?_
    obtain ⟨route, hroute, rfl⟩ := List.mem_map.1 hk
    obtain ⟨x, hx, hadded⟩ := List.mem_flatMap.1 hroute
    obtain ⟨haccepted, hown⟩ := of_mem_added hadded
    refine ⟨x, hx, haccepted, ?_⟩
    rw [← options_of_mem_trials hx]
    exact List.mem_map_of_mem hown
  · rintro (hk | ⟨x, hx, haccepted, hk⟩)
    · rw [hseen]
      exact List.mem_append_left _ hk
    · obtain ⟨before, after, hsplit⟩ := List.append_of_mem hx
      have hgrown := grown_of_trials hsplit
      rw [← hgrown.options_eq] at hk
      have hmem := (mem_seen_append_added_iff haccepted).2 (.inr hk)
      rw [hgrown.seen_eq, List.append_assoc, ← List.map_append] at hmem
      have hall : (b.trials ops).flatMap Trial.added =
          (before.flatMap Trial.added ++ x.builder.added x.declaration) ++
            after.flatMap Trial.added := by
        rw [hsplit, List.flatMap_append, List.flatMap_cons, List.append_assoc]
        rfl
      rw [hseen, hall, List.map_append, ← List.append_assoc]
      exact List.mem_append_left _ hmem

/-- A new builder has seen nothing but what is registered in its history. -/
lemma mem_seen_iff_registered (options : RouterOptions) (ops : List (Operation H)) (k : RouteKey) :
    k ∈ ((withOptions options).run ops).seen ↔ (withOptions options).Registered ops k :=
  (mem_seen_run_iff _ ops k).trans (or_iff_right List.not_mem_nil)

/-! ## The refusal of a declaration -/

/-- To take out repetitions does not change which method comes first. -/
lemma find?_uniqueMethods (p : Method → Bool) (methods : List Method) :
    (uniqueMethods methods).find? p = methods.find? p := by
  have hfold : ∀ unique : List Method,
      (methods.foldl (fun unique m => if unique.contains m then unique else unique ++ [m])
        unique).find? p = (unique.find? p).or (methods.find? p) := by
    induction methods with
    | nil => simp
    | cons m methods ih =>
      intro unique
      rw [List.foldl_cons, ih]
      split
      · next hmem =>
        rw [List.contains_iff_mem] at hmem
        cases hp : p m with
        | false => rw [List.find?_cons_of_neg (by simp [hp])]
        | true =>
          have hfound : (unique.find? p).isSome := List.find?_isSome.2 ⟨m, hmem, hp⟩
          rw [Option.or_of_isSome hfound, Option.or_of_isSome hfound]
      · rw [List.find?_append, Option.or_assoc]
        cases hp : p m <;> simp [hp]
  exact hfold []

lemma addRoute_of_error {b : Builder H} {d : Declaration H} {e : RouteError}
    (h : Template.compile d.style d.template b.options.escapeLiterals = .error e) :
    (b.addRoute d).refusal = some e := by
  rw [addRoute, h]

/-- A declaration whose template compiles is refused for the first of its methods under which the
key is there. -/
theorem addRoute_refusal_eq_some_iff {b : Builder H} {d : Declaration H} {t : Template}
    (h : Template.compile d.style d.template b.options.escapeLiterals = .ok t) {e : RouteError} :
    (b.addRoute d).refusal = some e ↔ b.options.duplicates = .reject ∧
      ∃ before method after, d.methods = before ++ method :: after ∧
        routeKey t method ∈ b.seen ∧ (∀ m ∈ before, routeKey t m ∉ b.seen) ∧
        e = .duplicateRoute method t.path := by
  have htaken : ∀ method, b.taken? t (uniqueMethods d.methods) = some method ↔
      ∃ before after, d.methods = before ++ method :: after ∧ routeKey t method ∈ b.seen ∧
        ∀ m ∈ before, routeKey t m ∉ b.seen := by
    intro method
    rw [taken?, find?_uniqueMethods, List.find?_eq_some_iff_append]
    constructor
    · rintro ⟨hkey, before, after, hmethods, hbefore⟩
      exact ⟨before, after, hmethods, by simpa using hkey, fun m hm => by simpa using hbefore m hm⟩
    · rintro ⟨before, after, hmethods, hkey, hbefore⟩
      exact ⟨by simpa using hkey, before, after, hmethods, fun m hm => by simpa using hbefore m hm⟩
  rw [addRoute, h]
  cases hpolicy : b.options.duplicates with
  | ignore => simp [addCompiled, hpolicy]
  | reject =>
    cases hfound : b.taken? t (uniqueMethods d.methods) with
    | none =>
      simp only [addCompiled, hpolicy, hfound, true_and, reduceCtorEq, false_iff]
      rintro ⟨before, method, after, hmethods, hkey, hbefore, -⟩
      have hsome := (htaken method).2 ⟨before, after, hmethods, hkey, hbefore⟩
      simp [hfound] at hsome
    | some method =>
      simp only [addCompiled, hpolicy, hfound, true_and, Option.some.injEq]
      constructor
      · rintro rfl
        obtain ⟨before, after, hmethods, hkey, hbefore⟩ := (htaken method).1 hfound
        exact ⟨before, method, after, hmethods, hkey, hbefore, rfl⟩
      · rintro ⟨before, other, after, hmethods, hkey, hbefore, rfl⟩
        have hsome := (htaken other).2 ⟨before, after, hmethods, hkey, hbefore⟩
        rw [hfound] at hsome
        rw [Option.some.inj hsome]

/-! ## Groups -/

/-- The declarations are all accepted if they are added one by one. -/
def AcceptsEach (b : Builder H) : List (Declaration H) → Prop
  | [] => True
  | d :: ds => (b.addRoute d).refusal = none ∧ (b.addRoute d).builder.AcceptsEach ds

/-- The builder after some declarations that are added one by one, whatever comes of them. -/
def addEach (b : Builder H) (ds : List (Declaration H)) : Builder H := b.run (ds.map .route)

lemma addEach_nil (b : Builder H) : b.addEach [] = b := rfl

/-- A group of declarations is added one by one, up to the first that is refused. -/
theorem addRoutes_cases (b : Builder H) (ds : List (Declaration H)) :
    (b.AcceptsEach ds ∧ (b.addRoutes ds).refusal = none ∧
      (b.addRoutes ds).builder = b.addEach ds) ∨
    ∃ before d after e, ds = before ++ d :: after ∧ b.AcceptsEach before ∧
      ((b.addEach before).addRoute d).refusal = some e ∧ (b.addRoutes ds).refusal = some e ∧
      (b.addRoutes ds).builder = b.addEach before := by
  induction ds generalizing b with
  | nil => exact .inl ⟨trivial, rfl, rfl⟩
  | cons d ds ih =>
    rw [addRoutes, Registration.andThen]
    cases hrefusal : (b.addRoute d).refusal with
    | some e =>
      refine .inr ⟨[], d, ds, e, rfl, trivial, hrefusal, hrefusal, ?_⟩
      exact addRoute_builder_of_refused (by simp [hrefusal])
    | none =>
      rcases ih (b.addRoute d).builder with ⟨hall, hnone, hbuilder⟩ |
          ⟨before, x, after, e, rfl, hbefore, hx, hsome, hbuilder⟩
      · exact .inl ⟨⟨hrefusal, hall⟩, hnone, hbuilder⟩
      · exact .inr ⟨d :: before, x, after, e, rfl, ⟨hrefusal, hbefore⟩, hx, hsome, hbuilder⟩

lemma run_append (b : Builder H) (ops ops' : List (Operation H)) :
    b.run (ops ++ ops') = (b.run ops).run ops' :=
  List.foldl_append

/-- A declaration is registered as a whole or not at all.  After any calls it is refused exactly if
its template does not compile, or if duplicates are refused and one of its keys is registered by an
earlier declaration, so that a method which it names twice does not count against it.  A refused
template is refused for the reason that the compiler gives, and a duplicate for the first method, in
the order of the declaration, that is taken.  The builder is left as it was.

Of a group of declarations all are added, or those in front of the first that is refused; then the
group is refused for the reason of this one, and every history goes on as if it and those behind it
had not been given. -/
theorem registration_atomic (options : RouterOptions) (ops : List (Operation H)) :
    let start : Builder H := withOptions options
    let b := start.run ops
    (∀ d : Declaration H,
      ((b.addRoute d).refusal ≠ none ↔ ¬ d.Compiles options ∨
        options.duplicates = .reject ∧ ∃ k ∈ d.keys options, start.Registered ops k) ∧
      (∀ e, Template.compile d.style d.template options.escapeLiterals = .error e →
        (b.addRoute d).refusal = some e) ∧
      (∀ t e, Template.compile d.style d.template options.escapeLiterals = .ok t →
        ((b.addRoute d).refusal = some e ↔ options.duplicates = .reject ∧
          ∃ before method after, d.methods = before ++ method :: after ∧
            start.Registered ops (routeKey t method) ∧
            (∀ m ∈ before, ¬ start.Registered ops (routeKey t m)) ∧
            e = .duplicateRoute method t.path)) ∧
      ((b.addRoute d).refusal ≠ none → (b.addRoute d).builder = b)) ∧
    ∀ ds : List (Declaration H),
      (b.AcceptsEach ds ∧ (b.addRoutes ds).refusal = none ∧
        (b.addRoutes ds).builder = b.addEach ds) ∨
      ∃ before d after e, ds = before ++ d :: after ∧ b.AcceptsEach before ∧
        ((b.addEach before).addRoute d).refusal = some e ∧ (b.addRoutes ds).refusal = some e ∧
        (b.addRoutes ds).builder = b.addEach before ∧
        ∀ later, start.run (ops ++ .routes ds :: later) =
          start.run (ops ++ before.map .route ++ later) := by
  intro start b
  have hoptions : b.options = options := (start.run_grown ops).options_eq
  have hseen : ∀ k, k ∈ b.seen ↔ start.Registered ops k := mem_seen_iff_registered options ops
  constructor
  · intro d
    refine ⟨?_, ?_, ?_, addRoute_builder_of_refused⟩
    · rw [ne_eq, addRoute_refusal_eq_none_iff, hoptions, Classical.not_and_iff_not_or_not]
      simp only [hseen, Classical.not_imp, not_forall, not_not]
    · intro e he
      exact addRoute_of_error (hoptions.symm ▸ he)
    · intro t e ht
      rw [← hoptions] at ht
      rw [addRoute_refusal_eq_some_iff ht, hoptions]
      simp only [hseen]
  · intro ds
    rcases b.addRoutes_cases ds with hall | ⟨before, d, after, e, hds, hbefore, hd, he, hbuilder⟩
    · exact .inl hall
    · refine .inr ⟨before, d, after, e, hds, hbefore, hd, he, hbuilder, fun later => ?_⟩
      calc start.run (ops ++ .routes ds :: later)
          = (b.addRoutes ds).builder.run later := run_append start ops (.routes ds :: later)
        _ = (b.addEach before).run later := by rw [hbuilder]
        _ = start.run (ops ++ before.map .route ++ later) := by
          rw [run_append, run_append]
          rfl

/-- A variable route under two methods. -/
def servedFiles : List (Operation ℕ) :=
  [.route ⟨[.get, .post], "/files/\x7bname\x7d", .variable, 1⟩]

/-- The same route under another name for its variable, for one method that is new and two that are
not. -/
def renamedFiles : Declaration ℕ :=
  ⟨[.put, .post, .put, .get], "/files/\x7bid\x7d", .variable, 2⟩

/-- `renamedFiles` is refused for its first method that is taken, and of a group only what stands in
front of it is added. -/
theorem renamed_files_refused :
    let start : Builder ℕ := withOptions ⟨false, .reject⟩
    let b := start.run servedFiles
    let front : Declaration ℕ := ⟨[.get, .get], "/files", .literal, 3⟩
    let back : Declaration ℕ := ⟨[.get], "/never", .literal, 4⟩
    (b.addRoute renamedFiles).refusal =
        some (.duplicateRoute .post "/files/\x7bid\x7d") ∧
      (b.addRoute renamedFiles).builder = b ∧
      ∀ later, start.run (servedFiles ++ .routes [front, renamedFiles, back] :: later) =
        start.run (servedFiles ++ [.route front] ++ later) := by
  intro start b front back
  obtain ⟨hone, hgroup⟩ := registration_atomic ⟨false, .reject⟩ servedFiles
  obtain ⟨-, -, -, hkept⟩ := hone renamedFiles
  have hrefusal : (b.addRoute renamedFiles).refusal =
      some (.duplicateRoute .post "/files/\x7bid\x7d") := by
    decide +kernel
  have hrefused : (b.addRoute renamedFiles).refusal ≠ none := by
    rw [hrefusal]
    exact Option.some_ne_none _
  have hfront : (b.addRoute front).refusal = none := by decide +kernel
  have hbehind : ((b.addRoute front).builder.addRoute renamedFiles).refusal ≠ none := by
    decide +kernel
  have hall : (b.addRoutes [front, renamedFiles, back]).refusal ≠ none := by decide +kernel
  refine ⟨hrefusal, hkept hrefused, ?_⟩
  rcases hgroup [front, renamedFiles, back] with ⟨-, hnone, -⟩ |
      ⟨before, d, after, e, hsplit, hbefore, hd, -, -, hlater⟩
  · exact absurd hnone hall
  · rcases before with _ | ⟨x, _ | ⟨y, more⟩⟩
    · obtain ⟨rfl, -⟩ := List.cons.inj hsplit
      rw [addEach_nil] at hd
      exact absurd (hfront.symm.trans hd) (Option.some_ne_none e).symm
    · obtain ⟨rfl, -⟩ := List.cons.inj hsplit
      exact hlater
    · obtain ⟨rfl, hrest⟩ := List.cons.inj hsplit
      obtain ⟨rfl, -⟩ := List.cons.inj hrest
      rw [AcceptsEach, AcceptsEach] at hbefore
      exact absurd hbefore.2.1 hbehind

end Builder

end UriRouting
