import UriRouting.Proofs.Router.Literal
import UriRouting.Proofs.Trie.Relabel

/-!
# Answers that agree in what they serve

A mapping remembers for which methods it was declared, and gives them back with an answer.  Routers
that are built from different declarations of one route differ in this and in nothing else:
`Router.AnswersAlike` compares answers by their handlers, templates and parameters.

`Builder.built_alike` is the criterion.  Two builders with the same aliases, whose routes for a
method agree up to the methods that they were declared for, build routers that answer this method
alike; and whether they build one depends on no more either (`Builder.admits_bare`).
-/

namespace UriRouting

variable {H K : Type}

/-! ## Tables with other mappings -/

namespace ExactTable

variable {f : Mapping H → Mapping K}

/-- The table with other mappings. -/
def map (f : Mapping H → Mapping K) (t : ExactTable H) : ExactTable K :=
  ⟨t.entries.map fun entry => (entry.1, f entry.2)⟩

lemma size_map (t : ExactTable H) : (t.map f).size = t.size := by
  simp [map, size]

lemma get?_map (t : ExactTable H) (path : String) :
    (t.map f).get? path = (t.get? path).map f := by
  obtain ⟨entries⟩ := t
  induction entries with
  | nil => rfl
  | cons entry entries ih =>
    obtain ⟨own, m⟩ := entry
    unfold get? map at ih ⊢
    rw [List.map_cons, List.lookup_cons, List.lookup_cons]
    cases path == own with
    | true => rfl
    | false => exact ih

/-- A table takes in the same mappings, whatever else they hold. -/
theorem insertAll_map (hf : KeepsTemplates f) (t : ExactTable H) (ms : List (Mapping H)) :
    (t.map f).insertAll (ms.map f) = (t.insertAll ms).map f := by
  induction ms generalizing t with
  | nil => rfl
  | cons m ms ih =>
    have hstep : ((t.map f).insert (f m).template.path (f m)).2 =
        (t.insert m.template.path m).2.map f := by
      rw [insert, insert, hf m, get?_map]
      cases t.get? m.template.path with
      | some n => rfl
      | none => simp [map]
    change insertAll ((t.map f).insert (f m).template.path (f m)).2 (ms.map f) = _
    rw [hstep, ih]
    rfl

end ExactTable

/-! ## Mappings without their methods -/

/-- The mapping without the methods that it was declared for. -/
def Mapping.bare (m : Mapping H) : Mapping H := { m with methods := [] }

lemma Mapping.keepsTemplates_bare : KeepsTemplates (Mapping.bare : Mapping H → Mapping H) :=
  fun _ => rfl

/-- Two answers that refuse a request for the same reason, or both miss, or serve it by the same
handler with the same template and the same parameters. -/
inductive Router.AnswersAlike : Except RouteError (Option (Match H)) →
    Except RouteError (Option (Match H)) → Prop
  | refused (e : RouteError) : AnswersAlike (.error e) (.error e)
  | missed : AnswersAlike (.ok none) (.ok none)
  | served {found found' : Match H} (handler : found.mapping.handler = found'.mapping.handler)
      (template : found.mapping.template = found'.mapping.template)
      (params : found.params = found'.params) : AnswersAlike (.ok (some found)) (.ok (some found'))

namespace Router

lemma answersAlike_of_bare {found found' : Option (Match H)}
    (h : found.map (Match.map Mapping.bare) = found'.map (Match.map Mapping.bare)) :
    AnswersAlike (.ok found) (.ok found') := by
  cases found with
  | none =>
    cases found' with
    | none => exact .missed
    | some found' => simp at h
  | some found =>
    cases found' with
    | none => simp at h
    | some found' =>
      simp only [Option.map_some, Option.some.injEq, Match.map, Mapping.bare, Match.mk.injEq,
        Mapping.mk.injEq, true_and] at h
      obtain ⟨⟨htemplate, hhandler⟩, hparams⟩ := h
      exact .served hhandler htemplate hparams

/-- The answers of two routers to a canonical path agree if those of their tables do. -/
lemma find_bare {r r' : Router H} {method : Method} (haliases : r.aliases = r'.aliases)
    (hexact : ∀ path, ((r.exact.get method).get? path).map Mapping.bare =
      ((r'.exact.get method).get? path).map Mapping.bare)
    (htries : ∀ path, ((r.tries.get method).lookup path).map (Match.map Mapping.bare) =
      ((r'.tries.get method).lookup path).map (Match.map Mapping.bare)) (path : String) :
    (r.find method path).map (Match.map Mapping.bare) =
      (r'.find method path).map (Match.map Mapping.bare) := by
  have horElse : ∀ x y : Option (Match H), (x <|> y).map (Match.map Mapping.bare) =
      (x.map (Match.map Mapping.bare) <|> y.map (Match.map Mapping.bare)) := by
    intro x y
    cases x <;> rfl
  have hliteral : ∀ path, (((r.exact.get method).get? path).map literalMatch).map
      (Match.map Mapping.bare) =
        (((r'.exact.get method).get? path).map literalMatch).map (Match.map Mapping.bare) := by
    intro path
    have hcommute : Match.map Mapping.bare ∘ literalMatch =
        (literalMatch ∘ Mapping.bare : Mapping H → Match H) := rfl
    rw [Option.map_map, Option.map_map, hcommute, ← Option.map_map, ← Option.map_map, hexact]
  simp only [find, haliases, horElse, hliteral, htries]
  cases Alias.standIn? r'.aliases path with
  | none => rfl
  | some path' => simp only [Option.bind_some, hliteral, htries]

end Router

/-! ## Builders -/

namespace Builder

/-- Whether a history is refused anything does not depend on the methods of its mappings. -/
lemma admits_bare (ms : List (Mapping H)) :
    (RouteTrie.empty : RouteTrie H).Admits (ms.map Mapping.bare) ↔ RouteTrie.empty.Admits ms :=
  RouteTrie.admits_map Mapping.keepsTemplates_bare RouteTrie.empty ms

/-- Two builders with the same aliases build routers that answer a method alike, and hold as many
routes for it, if their routes for the method agree in all but the methods that they were declared
for. -/
theorem built_alike {b b' : Builder H} {r r' : Router H} {events events' : List Event}
    (hr : b.build = .ok (r, events)) (hr' : b'.build = .ok (r', events'))
    (haliases : b.aliases = b'.aliases) {method : Method}
    (h : ∀ literal, (mappingsOf literal method b.routes).map Mapping.bare =
      (mappingsOf literal method b'.routes).map Mapping.bare) :
    r.literalCount method = r'.literalCount method ∧
      r.dynamicCount method = r'.dynamicCount method ∧
      ∀ raw, Router.AnswersAlike (r.resolve method raw).answer (r'.resolve method raw).answer := by
  obtain ⟨hal, -, htables⟩ := build_eq_ok hr
  obtain ⟨hal', -, htables'⟩ := build_eq_ok hr'
  obtain ⟨hexact, htries⟩ := htables method
  obtain ⟨hexact', htries'⟩ := htables' method
  have hsameExact :
      (r.exact.get method).map Mapping.bare = (r'.exact.get method).map Mapping.bare := by
    have hmap := ExactTable.insertAll_map (H := H) Mapping.keepsTemplates_bare .empty
    rw [hexact, hexact', ← hmap, ← hmap, h true]
  have hsameTries :
      (r.tries.get method).map Mapping.bare = (r'.tries.get method).map Mapping.bare := by
    have hmap := RouteTrie.insertAll_map (H := H) Mapping.keepsTemplates_bare .empty
    rw [htries, htries', ← hmap, ← hmap, h false]
  refine ⟨?_, ?_, fun raw => ?_⟩
  · have hsize := congrArg ExactTable.size hsameExact
    rwa [ExactTable.size_map, ExactTable.size_map] at hsize
  · have hsize := congrArg RouteTrie.size hsameTries
    exact hsize
  · cases hraw : canonicalPath raw with
    | error e =>
      rw [Router.answer_of_error hraw, Router.answer_of_error hraw]
      exact .refused e
    | ok path =>
      rw [Router.answer_of_canonicalPath hraw, Router.answer_of_canonicalPath hraw]
      refine Router.answersAlike_of_bare (Router.find_bare ?_ ?_ ?_ path)
      · rw [hal, hal', haliases]
      · intro path
        rw [← ExactTable.get?_map, ← ExactTable.get?_map, hsameExact]
      · intro path
        rw [← RouteTrie.lookup_map Mapping.keepsTemplates_bare,
          ← RouteTrie.lookup_map Mapping.keepsTemplates_bare, hsameTries]

end Builder

end UriRouting
