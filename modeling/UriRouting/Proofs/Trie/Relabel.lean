import UriRouting.Proofs.Trie.Order

/-!
# What the trie reads of a mapping

A trie reads nothing of its mappings but their templates.  `RouteTrie.map` puts other mappings with
the same templates in their places; insertions and lookups do then what they did before, each with
the other mappings (`RouteTrie.insert_map`, `RouteTrie.lookup_map`).  So two histories cannot be
told apart whose mappings differ in nothing that an answer shows.
-/

namespace UriRouting

variable {H K : Type}

/-! ## Other mappings in the same places -/

/-- Every mapping is changed into one with the same template. -/
def KeepsTemplates (f : Mapping H → Mapping K) : Prop := ∀ m, (f m).template = m.template

/-- The match with another mapping. -/
def Match.map (f : Mapping H → Mapping K) (found : Match H) : Match K :=
  ⟨f found.mapping, found.params⟩

mutual

/-- The node with other mappings. -/
def Node.map (f : Mapping H → Mapping K) : Node H → Node K
  | .leaf m => .leaf (f m)
  | .branch run size edges => .branch run size (edges.map f)

/-- The edges with other mappings below them. -/
def Edges.map (f : Mapping H → Mapping K) : Edges H → Edges K
  | .nil => .nil
  | .cons key child rest => .cons key (child.map f) (rest.map f)

end

namespace Edges

variable (f : Mapping H → Mapping K)

@[simp] lemma length_map (edges : Edges H) : (edges.map f).length = edges.length := by
  induction edges with
  | nil => rfl
  | cons key child rest ih => simp [Edges.map, length, ih]

lemma get?_map (key : UInt8) (edges : Edges H) :
    (edges.map f).get? key = (edges.get? key).map (Node.map f) := by
  induction edges with
  | nil => rfl
  | cons k child rest ih => by_cases hk : k = key <;> simp [Edges.map, get?, hk, ih]

lemma append_map (key : UInt8) (child : Node H) (edges : Edges H) :
    (edges.map f).append key (child.map f) = (edges.append key child).map f := by
  induction edges with
  | nil => rfl
  | cons k first rest ih => simp [Edges.map, append, ih]

lemma put_map (key : UInt8) (child : Node H) (edges : Edges H) :
    (edges.map f).put key (child.map f) = (edges.put key child).map f := by
  induction edges with
  | nil => rfl
  | cons k first rest ih => by_cases hk : k = key <;> simp [Edges.map, put, hk, ih]

end Edges

/-! ## Insertion -/

namespace Node

variable {f : Mapping H → Mapping K}

lemma chain_map (m : Mapping H) (rest : List UInt8) : chain (f m) rest = (chain m rest).map f := by
  have hfrom : ∀ run, chainFrom (f m) run rest = (chainFrom m run rest).map f := by
    induction rest with
    | nil => exact fun run => rfl
    | cons b rest ih =>
      intro run
      rw [chainFrom, chainFrom, ih, ih]
      split <;> rfl
  exact hfrom []

lemma attach_map (run : List UInt8) (size : SizeClass) (edges : Edges H) (key : UInt8)
    (new : Node H) :
    attach run size (edges.map f) key (new.map f) =
      (attach run size edges key new).map (Node.map f) := by
  rw [attach, attach, Edges.length_map, Edges.append_map]
  split
  · cases size.next? <;> rfl
  · rfl

/-- An insertion does the same with other mappings. -/
theorem insert_map (hf : KeepsTemplates f) (m : Mapping H) (depth : ℕ) (rest : List UInt8)
    (node : Node H) :
    (node.map f).insert (f m) depth rest = (node.insert m depth rest).map (Node.map f) := by
  induction node generalizing depth rest with
  | leaf old =>
    rw [Node.map, Node.insert, Node.insert, hf m, hf old]
    split
    · rfl
    · dsimp only
      split
      · rw [chain_map]
        rfl
      · rfl
  | branch run size edges ih =>
    rw [Node.map, Node.insert, Node.insert]
    split
    · rw [chain_map]
      rfl
    · next key after _ _ =>
      rw [Edges.insert_eq, Edges.insert_eq, Edges.get?_map]
      cases hget : edges.get? key with
      | none =>
        rw [chain_map]
        exact attach_map run size edges key (chain m after)
      | some child =>
        simp only [Option.map_some, ih key child hget, Insertion.map_map]
        cases child.insert m _ after with
        | added child' =>
          exact congrArg (Insertion.added ∘ branch run size) (Edges.put_map f key child' edges)
        | present => rfl
        | full run => rfl
    · rfl

/-! ## Search -/

lemma match?_map (hf : KeepsTemplates f) (m : Mapping H) (path : String) :
    (f m).match? path = (m.match? path).map (Match.map f) := by
  rw [Mapping.match?, Mapping.match?, hf m, Option.map_map]
  rfl

lemma endMatch?_map (hf : KeepsTemplates f) (path : String) (node : Node H) :
    (node.map f).endMatch? path = (node.endMatch? path).map (Match.map f) := by
  cases node with
  | leaf m => rfl
  | branch run size edges =>
    rw [Node.map, endMatch?, endMatch?, Edges.get?_map]
    cases edges.get? endByte with
    | none => rfl
    | some child =>
      cases child with
      | leaf m => exact match?_map hf m path
      | branch _ _ _ => rfl

/-- A search finds the same with other mappings. -/
theorem search_map (hf : KeepsTemplates f) (path : String) (rest : List UInt8) (node : Node H) :
    (node.map f).search path rest = (node.search path rest).map (Match.map f) := by
  induction node generalizing rest with
  | leaf m => exact match?_map hf m path
  | branch run size edges ih =>
    rw [Node.map, Node.search, Node.search]
    cases Text.stripFront run rest with
    | none => rfl
    | some below =>
      have hliteral : ∀ key rest, ((edges.map f).get? key).bind (fun c => c.search path rest) =
          ((edges.get? key).bind fun c => c.search path rest).map (Match.map f) := by
        intro key rest
        rw [Edges.get?_map]
        cases hget : edges.get? key with
        | none => rfl
        | some child => exact ih key child hget rest
      have hwildcard : ((edges.map f).get? wildcardByte).bind (fun c =>
            (c.search path (below.dropWhile (· != slashByte))) <|> c.endMatch? path) =
          ((edges.get? wildcardByte).bind fun c =>
            (c.search path (below.dropWhile (· != slashByte))) <|> c.endMatch? path).map
              (Match.map f) := by
        rw [Edges.get?_map]
        cases hget : edges.get? wildcardByte with
        | none => rfl
        | some child =>
          simp only [Option.map_some, Option.bind_some, ih _ child hget, endMatch?_map hf]
          cases child.search path _ <;> rfl
      simp only [Edges.searchLiteral_eq, Edges.searchWildcard_eq, hliteral, hwildcard]
      cases (edges.get? (below.headD endByte)).bind _ <;> rfl

end Node

/-! ## Tries -/

namespace RouteTrie

variable {f : Mapping H → Mapping K}

/-- The trie with other mappings. -/
def map (f : Mapping H → Mapping K) (t : RouteTrie H) : RouteTrie K :=
  ⟨t.root.map (Node.map f), t.size⟩

theorem insert_map (hf : KeepsTemplates f) (t : RouteTrie H) (m : Mapping H) :
    (t.map f).insert (f m) = (t.insert m).map (map f) := by
  unfold insert map
  cases t.root with
  | none =>
    rw [hf m, Node.chain_map]
    rfl
  | some root => simp only [Option.map_some, hf m, Node.insert_map hf, Insertion.map_map]

theorem lookup_map (hf : KeepsTemplates f) (t : RouteTrie H) (path : String) :
    (t.map f).lookup path = (t.lookup path).map (Match.map f) := by
  unfold lookup map
  cases t.root with
  | none => rfl
  | some root => exact Node.search_map hf path _ root

lemma after_map (hf : KeepsTemplates f) (t : RouteTrie H) (m : Mapping H) :
    (t.map f).after (f m) = (t.after m).map f := by
  rw [after, after, insert_map hf]
  cases t.insert m <;> rfl

/-- A history leads to the same trie with other mappings. -/
theorem insertAll_map (hf : KeepsTemplates f) (t : RouteTrie H) (ms : List (Mapping H)) :
    (t.map f).insertAll (ms.map f) = (t.insertAll ms).map f := by
  induction ms generalizing t with
  | nil => rfl
  | cons m ms ih => rw [List.map_cons, insertAll_cons, insertAll_cons, after_map hf, ih]

/-- And it is refused as much. -/
theorem admits_map (hf : KeepsTemplates f) (t : RouteTrie H) (ms : List (Mapping H)) :
    (t.map f).Admits (ms.map f) ↔ t.Admits ms := by
  induction ms generalizing t with
  | nil => exact Iff.rfl
  | cons m ms ih =>
    have hfull : ((t.map f).insert (f m)).isFull = (t.insert m).isFull := by
      rw [insert_map hf]
      cases t.insert m <;> rfl
    rw [List.map_cons, Admits, Admits, hfull, after_map hf, ih]

end RouteTrie

end UriRouting
