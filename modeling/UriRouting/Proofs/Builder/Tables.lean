import UriRouting.Builder
import UriRouting.Proofs.Trie.Order

/-!
# Filling the tables

`Builder.tables` puts the registered routes one by one into the tables of their methods.  A
method's tables see none of the other methods' routes, and its trie none of its literal ones.  So
the whole run falls apart into one history for every table (`Builder.Tables.foldlM_spec`), and it
succeeds exactly if every trie admits its own (`Builder.Tables.foldlM_isSome_iff`).
-/

namespace UriRouting

variable {H : Type}

/-! ## Tables by method -/

lemma Method.ordinal_injective : Function.Injective Method.ordinal := by
  intro m n h
  have hm := Method.all_get_ordinal m
  rw [h, Method.all_get_ordinal n] at hm
  exact (Option.some.inj hm).symm

namespace MethodMap

variable {α : Type}

@[simp] lemma get_replicate (a : α) (m : Method) : (replicate a).get m = a := by
  simp [replicate, get]

lemma get_set (t : MethodMap α) (m n : Method) (a : α) :
    (t.set m a).get n = if m = n then a else t.get n := by
  by_cases h : m = n
  · simp [set, get, h]
  · have hne : m.ordinal.val ≠ n.ordinal.val := fun hv => h (Method.ordinal_injective (Fin.ext hv))
    simp [set, get, h, hne]

end MethodMap

/-! ## Literal routes -/

namespace ExactTable

lemma insert_fst (t : ExactTable H) (path : String) (m : Mapping H) :
    (t.insert path m).1 = (t.get? path).isNone := by
  unfold insert
  cases t.get? path <;> rfl

/-- An entry that is made is one path more. -/
lemma size_insert {t : ExactTable H} {path : String} {m : Mapping H}
    (h : (t.insert path m).1 = true) : (t.insert path m).2.size = t.size + 1 := by
  rw [insert_fst, Option.isNone_iff_eq_none] at h
  simp [insert, h, size]

/-- The table after some mappings have been entered under their paths, one after another. -/
def insertAll (t : ExactTable H) (ms : List (Mapping H)) : ExactTable H :=
  ms.foldl (fun t m => (t.insert m.template.path m).2) t

lemma insertAll_append (t : ExactTable H) (ms ns : List (Mapping H)) :
    t.insertAll (ms ++ ns) = (t.insertAll ms).insertAll ns :=
  List.foldl_append

/-- Mappings with different paths are all entered. -/
theorem entries_insertAll {t : ExactTable H} {ms : List (Mapping H)}
    (hd : (t.entries.map Prod.fst ++ ms.map (·.template.path)).Nodup) :
    (t.insertAll ms).entries = t.entries ++ ms.map fun m => (m.template.path, m) := by
  induction ms generalizing t with
  | nil => simp [insertAll]
  | cons m ms ih =>
    have hnew : t.get? m.template.path = none := by
      refine List.lookup_eq_none_iff.2 fun entry hentry => ?_
      have hdisj := (List.nodup_append.1 hd).2.2 _ (List.mem_map_of_mem hentry) m.template.path
        List.mem_cons_self
      simpa using hdisj.symm
    have hstep : t.insertAll (m :: ms) =
        insertAll ⟨t.entries ++ [(m.template.path, m)]⟩ ms := by
      simp [insertAll, insert, hnew]
    rw [hstep, ih]
    · simp
    · simpa using hd

/-- Each of them is found under its path, and nothing else is. -/
theorem get?_insertAll {ms : List (Mapping H)} (hd : (ms.map (·.template.path)).Nodup)
    {path : String} {m : Mapping H} :
    (empty.insertAll ms).get? path = some m ↔ m ∈ ms ∧ m.template.path = path := by
  have hnil : ((empty : ExactTable H).entries.map Prod.fst ++ ms.map (·.template.path)).Nodup := by
    simpa [empty] using hd
  rw [get?, entries_insertAll hnil, show (empty : ExactTable H).entries = [] from rfl,
    List.nil_append]
  clear hnil
  induction ms with
  | nil => simp
  | cons n ms ih =>
    rw [List.map_cons, List.nodup_cons] at hd
    rw [List.map_cons, List.lookup_cons]
    by_cases hpath : path = n.template.path
    · have hrest : ¬ (m ∈ ms ∧ m.template.path = path) := by
        rintro ⟨hm, hmp⟩
        exact hd.1 (hpath ▸ hmp ▸ List.mem_map_of_mem hm)
      simp only [hpath, beq_self_eq_true, Option.some.injEq, List.mem_cons]
      constructor
      · rintro rfl
        exact ⟨.inl rfl, rfl⟩
      · rintro ⟨rfl | hm, hmp⟩
        · rfl
        · exact absurd ⟨hm, hmp.trans hpath.symm⟩ hrest
    · have hbeq : (path == n.template.path) = false := by simpa using hpath
      simp only [hbeq, ih hd.2, List.mem_cons]
      constructor
      · rintro ⟨hm, hmp⟩
        exact ⟨.inr hm, hmp⟩
      · rintro ⟨rfl | hm, hmp⟩
        · exact absurd hmp.symm hpath
        · exact ⟨hm, hmp⟩

/-- Mappings with different paths may be entered in any order. -/
theorem insertAll_perm {ms ns : List (Mapping H)} (hp : ms.Perm ns)
    (hd : (ms.map (·.template.path)).Nodup) :
    (∀ path, (empty.insertAll ms).get? path = (empty.insertAll ns).get? path) ∧
      (empty.insertAll ms).size = (empty.insertAll ns).size := by
  have hd' : (ns.map (·.template.path)).Nodup := ((hp.map _).nodup_iff).1 hd
  constructor
  · intro path
    refine Option.ext fun m => ?_
    rw [get?_insertAll hd, get?_insertAll hd', hp.mem_iff]
  · rw [size, size, entries_insertAll (by simpa [empty] using hd),
      entries_insertAll (by simpa [empty] using hd')]
    simp [hp.length_eq]

end ExactTable

/-! ## One history for every table -/

lemma RouteTrie.admits_append (t : RouteTrie H) (ms ns : List (Mapping H)) :
    t.Admits (ms ++ ns) ↔ t.Admits ms ∧ (t.insertAll ms).Admits ns := by
  induction ms generalizing t with
  | nil => simp [RouteTrie.Admits, RouteTrie.insertAll]
  | cons m ms ih =>
    rw [List.cons_append, RouteTrie.Admits, RouteTrie.Admits, ih, and_assoc,
      RouteTrie.insertAll_cons]

namespace Builder

/-- The routes of a method that are literal, or those that are not, in the order of registration. -/
def mappingsOf (literal : Bool) (method : Method) (routes : List (Method × Mapping H)) :
    List (Mapping H) :=
  (routes.filter fun r => r.1 = method ∧ r.2.template.isLiteral = literal).map Prod.snd

lemma mem_mappingsOf {literal : Bool} {method : Method} {routes : List (Method × Mapping H)}
    {m : Mapping H} : m ∈ mappingsOf literal method routes ↔
      (method, m) ∈ routes ∧ m.template.isLiteral = literal := by
  simp [mappingsOf]

lemma compiled_of_mem_mappingsOf {routes : List (Method × Mapping H)}
    (hc : ∀ route ∈ routes, route.2.Compiled) {literal : Bool} {method : Method} :
    ∀ m ∈ mappingsOf literal method routes, m.Compiled := fun m hm =>
  hc (method, m) (mem_mappingsOf.1 hm).1

lemma mappingsOf_append (literal : Bool) (method : Method)
    (routes routes' : List (Method × Mapping H)) :
    mappingsOf literal method (routes ++ routes') =
      mappingsOf literal method routes ++ mappingsOf literal method routes' := by
  simp [mappingsOf]

lemma mappingsOf_cons (literal : Bool) (method : Method) (route : Method × Mapping H)
    (routes : List (Method × Mapping H)) :
    mappingsOf literal method (route :: routes) =
      mappingsOf literal method [route] ++ mappingsOf literal method routes :=
  mappingsOf_append literal method [route] routes

namespace Tables

/-- What one route does to the tables of every method. -/
theorem add_spec {t t' : Tables H} {route : Method × Mapping H} (h : t.add route = .ok t')
    (method : Method) :
    t'.exact.get method = (t.exact.get method).insertAll (mappingsOf true method [route]) ∧
      t'.tries.get method = (t.tries.get method).insertAll (mappingsOf false method [route]) := by
  obtain ⟨of, m⟩ := route
  by_cases hliteral : m.template.isLiteral
  · simp only [add, hliteral, if_true, Except.ok.injEq] at h
    subst h
    by_cases hmethod : of = method <;>
      simp [mappingsOf, MethodMap.get_set, hmethod, hliteral, ExactTable.insertAll,
        RouteTrie.insertAll]
  · simp only [add, hliteral, Bool.false_eq_true, if_false] at h
    have htrie : t'.exact = t.exact ∧ t'.tries.get method =
        if of = method then (t.tries.get method).after m else t.tries.get method := by
      cases hins : (t.tries.get of).insert m with
      | added trie =>
        simp only [hins, Except.ok.injEq] at h
        subst h
        refine ⟨rfl, ?_⟩
        rw [MethodMap.get_set]
        split
        · next hmethod => rw [← hmethod, RouteTrie.after_of_added hins]
        · rfl
      | present =>
        simp only [hins, Except.ok.injEq] at h
        subst h
        refine ⟨rfl, ?_⟩
        split
        · next hmethod => rw [← hmethod, RouteTrie.after_of_not_added (by simp [hins])]
        · rfl
      | full run => simp [hins] at h
    rw [htrie.1, htrie.2]
    by_cases hmethod : of = method <;>
      simp [mappingsOf, hmethod, hliteral, ExactTable.insertAll, RouteTrie.insertAll]

/-- One route is taken in unless it is a dynamic one that the trie of its method refuses. -/
theorem add_isSome_iff (t : Tables H) (route : Method × Mapping H) :
    (t.add route).toOption.isSome ↔
      ∀ method, (t.tries.get method).Admits (mappingsOf false method [route]) := by
  obtain ⟨of, m⟩ := route
  by_cases hliteral : m.template.isLiteral
  · refine iff_of_true (by simp [add, hliteral, Except.toOption]) fun method => ?_
    simp [mappingsOf, hliteral, RouteTrie.Admits]
  · have hadd : (t.add (of, m)).toOption.isSome ↔ ((t.tries.get of).insert m).isFull = false := by
      simp only [add, hliteral, Bool.false_eq_true, if_false]
      cases (t.tries.get of).insert m <;> simp [Except.toOption, Insertion.isFull]
    rw [hadd]
    constructor
    · intro hroom method
      by_cases hmethod : of = method
      · subst hmethod
        simpa [mappingsOf, hliteral, RouteTrie.Admits] using hroom
      · simp [mappingsOf, hmethod, RouteTrie.Admits]
    · intro hall
      simpa [mappingsOf, hliteral, RouteTrie.Admits] using hall of

/-- The tables of every method after a run are those of the method's own routes. -/
theorem foldlM_spec {routes : List (Method × Mapping H)} {t t' : Tables H}
    (h : routes.foldlM add t = .ok t') (method : Method) :
    t'.exact.get method = (t.exact.get method).insertAll (mappingsOf true method routes) ∧
      t'.tries.get method = (t.tries.get method).insertAll (mappingsOf false method routes) := by
  induction routes generalizing t with
  | nil =>
    obtain rfl : t = t' := Except.ok.inj h
    exact ⟨rfl, rfl⟩
  | cons route routes ih =>
    rw [List.foldlM_cons, Success.bind_eq_ok] at h
    obtain ⟨s, hs, h⟩ := h
    obtain ⟨hexact, htries⟩ := add_spec hs method
    rw [mappingsOf_cons true method route routes, mappingsOf_cons false method route routes,
      ExactTable.insertAll_append, RouteTrie.insertAll_append, ← hexact, ← htries]
    exact ih h

/-- A run succeeds exactly if the trie of every method admits the method's dynamic routes. -/
theorem foldlM_isSome_iff (routes : List (Method × Mapping H)) (t : Tables H) :
    (routes.foldlM add t).toOption.isSome ↔
      ∀ method, (t.tries.get method).Admits (mappingsOf false method routes) := by
  induction routes generalizing t with
  | nil => exact iff_of_true rfl fun _ => trivial
  | cons route routes ih =>
    have hsplit :
        (∀ method, (t.tries.get method).Admits (mappingsOf false method (route :: routes))) ↔
        (t.add route).toOption.isSome ∧ ∀ method,
          ((t.tries.get method).insertAll (mappingsOf false method [route])).Admits
            (mappingsOf false method routes) := by
      rw [add_isSome_iff, ← forall_and]
      refine forall_congr' fun method => ?_
      rw [mappingsOf_cons, RouteTrie.admits_append]
    rw [hsplit, List.foldlM_cons]
    cases hadd : t.add route with
    | error e => simp [bind, Except.bind, Except.toOption]
    | ok s =>
      have hs : ∀ method, s.tries.get method =
          (t.tries.get method).insertAll (mappingsOf false method [route]) := fun method =>
        (add_spec hadd method).2
      simp only [← hs, ← ih]
      simp [bind, Except.bind, Except.toOption]

end Tables

end Builder

end UriRouting
