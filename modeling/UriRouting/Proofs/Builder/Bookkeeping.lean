import UriRouting.Proofs.Router.Literal
import UriRouting.Proofs.Trie.FirstWins

/-!
# The books of a builder

A builder keeps the keys of its routes beside the routes, and refuses or passes over what has a key
that it keeps.  The tables of a router tell repeated routes by themselves, the one for literal routes
by the path and the trie by the bytes of the key.  `Builder.bookkeeping` says that the three agree.

`Builder.Balanced` is what every call keeps: the keys are those of the routes, and each is there
once.  It follows that no route meets another one of its kind when the tables are filled
(`Builder.Tables.new_of_nodup`), and then every route raises the size of one table by one and the
number of the routes put in with it (`Builder.Tables.Counted`).  So what the tables hold, what the
event of the new router tells and what the builder has registered come to the same numbers.
-/

namespace UriRouting

variable {H : Type}

/-! ## Sums over the methods -/

namespace Router

lemma total_eq_sum (count : Method → ℕ) : total count = (Method.all.map count).sum := by
  rw [total, List.sum_eq_foldl, List.foldl_map]

/-- A count that is raised for one method raises the total. -/
lemma total_succ {count count' : Method → ℕ} (method : Method)
    (hm : count' method = count method + 1) (hne : ∀ n, n ≠ method → count' n = count n) :
    total count' = total count + 1 := by
  have hone : (Method.all.map fun n => if n = method then 1 else 0).sum = 1 := by
    cases method <;> decide
  have hsplit : count' = fun n => count n + if n = method then 1 else 0 := by
    funext n
    by_cases hn : n = method
    · rw [hn, hm, if_pos rfl]
    · rw [hne n hn, if_neg hn, Nat.add_zero]
  rw [total_eq_sum, total_eq_sum, hsplit, List.sum_map_add, hone]

end Router

namespace Builder

/-! ## Balanced books -/

/-- The keys that a builder keeps are those of its routes, and no two routes have the same key. -/
structure Balanced (b : Builder H) : Prop where
  keyed : b.Keyed
  distinct : b.seen.Nodup

/-- What a declaration adds has keys of its own that are new to the builder. -/
lemma nodup_seen_added {b : Builder H} (h : b.seen.Nodup) (d : Declaration H) :
    (b.seen ++ (b.added d).map keyOfRoute).Nodup := by
  unfold added
  split
  · refine List.nodup_append.2 ⟨h, ?_, ?_⟩
    · exact (d.nodup_keys b.options).sublist (List.filter_sublist.map keyOfRoute)
    · rintro k hk k' hk' rfl
      obtain ⟨route, hroute, rfl⟩ := List.mem_map.1 hk'
      have hnew := (List.mem_filter.1 hroute).2
      rw [decide_eq_true_eq] at hnew
      exact hnew hk
  · simpa using h

namespace Balanced

variable {b b' : Builder H}

lemma withOptions (options : RouterOptions) : (withOptions options : Builder H).Balanced :=
  ⟨rfl, List.nodup_nil⟩

lemma addRoute (h : b.Balanced) (d : Declaration H) : (b.addRoute d).builder.Balanced := by
  refine ⟨(b.addRoute_grown d).keyed h.keyed, ?_⟩
  rw [(b.addRoute_grown d).seen_eq]
  exact nodup_seen_added h.distinct d

/-- A group of declarations that ends with a refusal has kept the books up to there. -/
lemma addRoutes (h : b.Balanced) (ds : List (Declaration H)) :
    (b.addRoutes ds).builder.Balanced := by
  induction ds generalizing b with
  | nil => exact h
  | cons d ds ih =>
    rw [Builder.addRoutes, Registration.andThen]
    split
    · exact h.addRoute d
    · exact ih (h.addRoute d)

lemma of_grown (h : b.Balanced) (hg : Grown b [] b') : b'.Balanced := by
  refine ⟨hg.keyed h.keyed, ?_⟩
  rw [hg.seen_eq, List.map_nil, List.append_nil]
  exact h.distinct

/-- Every call keeps the books, whether it is refused or not. -/
theorem perform (h : b.Balanced) (op : Operation H) : (b.perform op).builder.Balanced := by
  cases op with
  | route d => exact h.addRoute d
  | routes ds => exact h.addRoutes ds
  | redirect front target => exact h.of_grown (b.perform_grown (.redirect front target))
  | observe observer => exact h.of_grown (b.perform_grown (.observe observer))

end Balanced

theorem balanced_run (options : RouterOptions) (ops : List (Operation H)) :
    ((withOptions options : Builder H).run ops).Balanced :=
  run_invariant (fun _ op h => h.perform op) (.withOptions options) ops

lemma Balanced.nodup_keys {b : Builder H} (h : b.Balanced) : (b.routes.map keyOfRoute).Nodup :=
  h.keyed ▸ h.distinct

/-- The keys that are registered under a method, those of literal routes or those of dynamic
ones. -/
def keysUnder (b : Builder H) (literal : Bool) (method : Method) : Finset RouteKey :=
  b.seen.toFinset.filter fun k => k.method = method ∧ k.literal = literal

lemma Balanced.card_keysUnder {b : Builder H} (h : b.Balanced) (literal : Bool) (method : Method) :
    (b.keysUnder literal method).card = (mappingsOf literal method b.routes).length := by
  have hkeys : b.keysUnder literal method =
      (b.seen.filter fun k => k.method = method ∧ k.literal = literal).toFinset := by
    ext k
    simp [keysUnder]
  rw [hkeys, List.toFinset_card_of_nodup (h.distinct.filter _), h.keyed, List.filter_map,
    List.length_map, mappingsOf, List.length_map]
  rfl

/-! ## Filling the tables -/

lemma mappingsOf_concat {literal : Bool} {method : Method} {m : Mapping H}
    (h : m.template.isLiteral = literal) (routes : List (Method × Mapping H)) :
    mappingsOf literal method (routes ++ [(method, m)]) = mappingsOf literal method routes ++ [m] := by
  simp [mappingsOf, h]

lemma ne_of_nodup_concat {α β : Type} {f : α → β} {as : List α} {a b : α}
    (h : ((as ++ [b]).map f).Nodup) (ha : a ∈ as) : f a ≠ f b := by
  rw [List.map_append, List.nodup_append] at h
  exact h.2.2 _ (List.mem_map_of_mem ha) _ (List.mem_map_of_mem (List.mem_singleton_self b))

namespace Tables

/-- The table that the route belongs to does not hold it yet: an entry under its path is made, or it
is added to the trie unless there is no room for it. -/
structure New (t : Tables H) (route : Method × Mapping H) : Prop where
  entered : route.2.template.isLiteral = true →
    ((t.exact.get route.1).insert route.2.template.path route.2).1 = true
  inserted : route.2.template.isLiteral = false →
    (∃ trie, (t.tries.get route.1).insert route.2 = .added trie) ∨
      ∃ run, (t.tries.get route.1).insert route.2 = .full run

/-- The numbers of the routes that were put in are the sizes of the tables. -/
structure Counted (t : Tables H) : Prop where
  literal : t.literal = Router.total fun method => (t.exact.get method).size
  dynamic : t.dynamic = Router.total fun method => (t.tries.get method).size

lemma counted_empty : (empty : Tables H).Counted := by
  constructor
  · simp only [empty, MethodMap.get_replicate]
    rfl
  · simp only [empty, MethodMap.get_replicate]
    rfl

/-- Where the keys of the routes differ, each of them is new to the tables of those before it. -/
theorem new_of_nodup {before : List (Method × Mapping H)} {route : Method × Mapping H}
    {t : Tables H} (hc : ∀ r ∈ before ++ [route], r.2.Compiled)
    (hd : ((before ++ [route]).map keyOfRoute).Nodup) (ht : before.foldlM add .empty = .ok t) :
    t.New route := by
  obtain ⟨method, m⟩ := route
  have hm : m.Compiled := hc (method, m) (by simp)
  obtain ⟨hexact, htries⟩ := foldlM_spec ht method
  rw [empty, MethodMap.get_replicate] at hexact
  rw [empty, MethodMap.get_replicate] at htries
  constructor
  · intro hl
    rw [hexact, ExactTable.insert_fst, ExactTable.get?_insertAll_eq_find?,
      Option.isNone_iff_eq_none]
    refine List.find?_eq_none.2 fun n hn hpath => ?_
    have hpaths := nodup_paths_mappingsOf hc hd method
    rw [mappingsOf_concat hl] at hpaths
    exact ne_of_nodup_concat hpaths hn (of_decide_eq_true hpath)
  · intro hl
    have hbefore : ∀ n ∈ mappingsOf false method before, n.Compiled :=
      compiled_of_mem_mappingsOf fun r hr => hc r (List.mem_append_left _ hr)
    have hfresh : (t.tries.get method).insert m ≠ .present := by
      rw [htries]
      intro hpresent
      obtain ⟨n, hn, hkey⟩ := (RouteTrie.insert_eq_present_iff (RouteTrie.valid_ofHistory hbefore)
        hm.ended).1 hpresent
      have hmem := RouteTrie.mem_of_mem_stored ((RouteTrie.mem_leaves_ofHistory hbefore).1 hn)
      have hkeys := nodup_keys_mappingsOf hd method
      rw [mappingsOf_concat hl] at hkeys
      exact ne_of_nodup_concat hkeys hmem hkey
    cases hins : (t.tries.get method).insert m with
    | added trie => exact .inl ⟨trie, rfl⟩
    | present => exact absurd hins hfresh
    | full run => exact .inr ⟨run, rfl⟩

/-- A route that is new and put in is counted where it stands. -/
theorem Counted.add {t t' : Tables H} {route : Method × Mapping H} (h : t.Counted)
    (hnew : t.New route) (hadd : t.add route = .ok t') : t'.Counted := by
  obtain ⟨method, m⟩ := route
  by_cases hl : m.template.isLiteral = true
  · simp only [Tables.add, hl, if_true, Except.ok.injEq] at hadd
    subst hadd
    refine ⟨?_, h.dynamic⟩
    rw [h.literal]
    refine (Router.total_succ method ?_ fun n hn => ?_).symm
    · rw [MethodMap.get_set, if_pos rfl]
      exact ExactTable.size_insert (hnew.entered hl)
    · rw [MethodMap.get_set, if_neg (Ne.symm hn)]
  · rw [Bool.not_eq_true] at hl
    simp only [Tables.add, hl, Bool.false_eq_true, if_false] at hadd
    rcases hnew.inserted hl with ⟨trie, hins⟩ | ⟨run, hins⟩
    · simp only [hins, Except.ok.injEq] at hadd
      subst hadd
      refine ⟨h.literal, ?_⟩
      rw [h.dynamic]
      refine (Router.total_succ method ?_ fun n hn => ?_).symm
      · rw [MethodMap.get_set, if_pos rfl]
        exact RouteTrie.size_of_added hins
      · rw [MethodMap.get_set, if_neg (Ne.symm hn)]
    · simp [hins] at hadd

/-- Tables that are filled with routes of different keys hold as many as were put in. -/
theorem counted_foldlM {routes : List (Method × Mapping H)} {t : Tables H}
    (hc : ∀ r ∈ routes, r.2.Compiled) (hd : (routes.map keyOfRoute).Nodup)
    (ht : routes.foldlM add .empty = .ok t) : t.Counted := by
  -- from the end, since a route is compared with those before it
  induction routes using List.reverseRecOn generalizing t with
  | nil =>
    obtain rfl := Except.ok.inj ht
    exact counted_empty
  | append_singleton before route ih =>
    rw [List.foldlM_append, Success.bind_eq_ok] at ht
    obtain ⟨s, hs, ht⟩ := ht
    rw [List.foldlM_cons, Success.bind_eq_ok] at ht
    obtain ⟨t', hadd, ht⟩ := ht
    obtain rfl := Except.ok.inj ht
    have hcounted : s.Counted := by
      refine ih (fun r hr => hc r (List.mem_append_left _ hr)) ?_ hs
      rw [List.map_append] at hd
      exact (List.nodup_append.1 hd).1
    exact hcounted.add (new_of_nodup hc hd hs) hadd

end Tables

/-! ## The router -/

/-- A router holds as many routes of each kind under a method as keys are registered there. -/
lemma Balanced.counts_of_build {b : Builder H} (h : b.Balanced) (hc : b.RoutesCompiled)
    {r : Router H} {events : List Event} (hbuild : b.build = .ok (r, events)) (method : Method) :
    r.literalCount method = (b.keysUnder true method).card ∧
      r.dynamicCount method = (b.keysUnder false method).card := by
  obtain ⟨-, -, htables⟩ := build_eq_ok hbuild
  obtain ⟨hexact, htries⟩ := htables method
  rw [h.card_keysUnder, h.card_keysUnder]
  constructor
  · have hnil : ((ExactTable.empty : ExactTable H).entries.map Prod.fst ++
        (mappingsOf true method b.routes).map (·.template.path)).Nodup :=
      nodup_paths_mappingsOf hc h.nodup_keys method
    rw [Router.literalCount, hexact, ExactTable.size, ExactTable.entries_insertAll hnil]
    simp [ExactTable.empty]
  · have hms : ∀ m ∈ mappingsOf false method b.routes, m.Compiled :=
      compiled_of_mem_mappingsOf hc
    have hadmits := (build_isSome_iff b).1 (by rw [hbuild]; rfl) method
    rw [Router.dynamicCount, htries, (RouteTrie.valid_ofHistory hms).size_eq,
      (RouteTrie.leaves_ofHistory_of_admits (fun m hm => (hms m hm).ended) hadmits
        (nodup_keys_mappingsOf h.nodup_keys method)).length_eq]

/-- The books of a builder after any calls, refused ones among them.  The keys that it keeps are
those of its routes, and no two routes have the same key.  When it builds a router, every route is
new to the table that it is put into: an entry is made for a literal one, and a dynamic one is added
unless there is no room for it.  So the counts of the router are the numbers of different keys that
are registered under each method, and the event tells of the totals of these counts. -/
theorem bookkeeping (options : RouterOptions) (ops : List (Operation H)) :
    let b : Builder H := (withOptions options).run ops
    (∀ k, k ∈ b.seen ↔ ∃ route ∈ b.routes, keyOfRoute route = k) ∧
    (b.routes.map keyOfRoute).Nodup ∧
    (∀ before route after t, b.routes = before ++ route :: after →
      before.foldlM Tables.add .empty = .ok t → t.New route) ∧
    ∀ r events, b.build = .ok (r, events) →
      (∀ method, r.literalCount method = (b.keysUnder true method).card ∧
        r.dynamicCount method = (b.keysUnder false method).card) ∧
      events = [.routerBuilt (Router.total r.literalCount) (Router.total r.dynamicCount)
        b.aliases.length] := by
  intro b
  have hbalanced : b.Balanced := balanced_run options ops
  have hc : b.RoutesCompiled := routesCompiled_run options ops
  refine ⟨fun k => ?_, hbalanced.nodup_keys, ?_, ?_⟩
  · rw [hbalanced.keyed, List.mem_map]
  · intro before route after t hroutes ht
    have hsplit : b.routes = (before ++ [route]) ++ after := by
      rw [hroutes, List.append_assoc, List.singleton_append]
    refine Tables.new_of_nodup (fun r hr => hc r ?_) ?_ ht
    · exact hsplit ▸ List.mem_append_left after hr
    · have hkeys := hbalanced.nodup_keys
      rw [hsplit, List.map_append] at hkeys
      exact (List.nodup_append.1 hkeys).1
  · intro r events hbuild
    refine ⟨hbalanced.counts_of_build hc hbuild, ?_⟩
    obtain ⟨t, ht, hr⟩ := Success.map_eq_ok.1 hbuild
    obtain ⟨rfl, rfl⟩ := Prod.mk.inj hr
    have hcounted : t.Counted := Tables.counted_foldlM hc hbalanced.nodup_keys ht
    rw [hcounted.literal, hcounted.dynamic]
    rfl

/-- A variable route under two methods, a group that is refused at its second declaration, a literal
route whose key has the bytes of the variable one, and an alias and a template that are refused. -/
def contestedHistory : List (Operation ℕ) :=
  [.route ⟨[.get, .post, .get], "/files/\x7bname\x7d", .variable, 1⟩,
    .routes [⟨[.get], "/files/new", .literal, 2⟩, ⟨[.put, .post], "/files/\x7bid\x7d", .variable, 3⟩,
      ⟨[.get], "/never", .literal, 4⟩],
    .redirect "old" "/files",
    .route ⟨[.get], "/files/\x7bname", .variable, 5⟩,
    .route ⟨[.get], "/files/*", .literal, 6⟩]

/-- Four routes of `contestedHistory` are registered, and all of them are counted. -/
theorem contested_history_booked :
    let b : Builder ℕ := (withOptions ⟨true, .reject⟩).run contestedHistory
    (∃ before route after t, b.routes = before ++ route :: after ∧
      before.foldlM Tables.add .empty = .ok t ∧ route.2.template.path = "/files/*" ∧
      ((t.exact.get .get).insert "/files/*" route.2).1 = true) ∧
    ∃ r events, b.build = .ok (r, events) ∧ r.literalCount .get = 2 ∧ r.dynamicCount .get = 1 ∧
      Router.total r.literalCount = 2 ∧ Router.total r.dynamicCount = 2 ∧
      events = [.routerBuilt 2 2 0] := by
  intro b
  obtain ⟨-, -, hnew, hcounts⟩ := bookkeeping ⟨true, .reject⟩ contestedHistory
  obtain ⟨hfilled, hlength, hfacts, hbuilds, hliteral, hdynamic, htotals, haliases⟩ :
      ((b.routes.take 3).foldlM Tables.add .empty).toOption.isSome ∧
      0 < (b.routes.drop 3).length ∧
      (∀ r ∈ b.routes.drop 3, r.1 = .get ∧ r.2.template.path = "/files/*" ∧
        r.2.template.isLiteral = true) ∧
      b.build.toOption.isSome ∧ (b.keysUnder true .get).card = 2 ∧
      (b.keysUnder false .get).card = 1 ∧
      (∀ kind, Router.total (fun method => (b.keysUnder kind method).card) = 2) ∧
      b.aliases.length = 0 := by
    decide +kernel
  constructor
  · obtain ⟨t, ht⟩ : ∃ t, (b.routes.take 3).foldlM Tables.add .empty = .ok t :=
      ⟨_, Success.eq_ok_get hfilled⟩
    obtain ⟨route, after, hdrop⟩ : ∃ route after, b.routes.drop 3 = route :: after :=
      List.exists_cons_of_length_pos hlength
    have hsplit : b.routes = b.routes.take 3 ++ route :: after := by
      rw [← hdrop, List.take_append_drop]
    have hroute := hnew _ route after t hsplit ht
    obtain ⟨hmethod, hpath, hl⟩ := hfacts route (hdrop ▸ List.mem_cons_self)
    have hentered := hroute.entered hl
    rw [hmethod, hpath] at hentered
    exact ⟨_, route, _, t, hsplit, ht, hpath, hentered⟩
  · obtain ⟨⟨r, events⟩, hbuild⟩ : ∃ built, b.build = .ok built :=
      ⟨_, Success.eq_ok_get hbuilds⟩
    obtain ⟨hmethods, hevents⟩ := hcounts r events hbuild
    have hl : r.literalCount = fun method => (b.keysUnder true method).card :=
      funext fun method => (hmethods method).1
    have hd : r.dynamicCount = fun method => (b.keysUnder false method).card :=
      funext fun method => (hmethods method).2
    rw [hl, hd, htotals, htotals] at hevents
    refine ⟨r, events, hbuild, (hmethods .get).1.trans hliteral, (hmethods .get).2.trans hdynamic,
      hl ▸ htotals true, hd ▸ htotals false, ?_⟩
    rw [hevents, ← haliases]

end Builder

end UriRouting
