import UriRouting.Trie.Insert
import UriRouting.Trie.Search

/-!
# The routing trie

A `RouteTrie` holds the dynamic routes of one method.  The first mapping under a key stays, as in a
table; what a path finds is decided by the search through the nodes.
-/

namespace UriRouting

/-- A trie with the number of its mappings. -/
structure RouteTrie (H : Type) where
  root : Option (Node H)
  size : Nat

namespace RouteTrie

variable {H : Type}

/-- The trie without mappings. -/
def empty : RouteTrie H := ⟨none, 0⟩

/-- Add a mapping under the key of its template. -/
def insert (t : RouteTrie H) (m : Mapping H) : Insertion (RouteTrie H) :=
  match t.root with
  | none => .added ⟨some (Node.chain m m.template.key), t.size + 1⟩
  | some root =>
    (root.insert m 0 m.template.key).map fun root => ⟨some root, t.size + 1⟩

/-- The route that serves a canonical path. -/
def lookup (t : RouteTrie H) (path : String) : Option (Match H) :=
  t.root.bind fun root => root.search path (Text.utf8 path.toList)

/-- Whether there is no mapping. -/
def isEmpty (t : RouteTrie H) : Bool := t.size == 0

/-- The mappings of the trie. -/
def leaves (t : RouteTrie H) : List (Mapping H) :=
  match t.root with
  | none => []
  | some root => root.leaves

/-- The refusal for a branch that is full, which shows the run of the branch as text. -/
def capacityError (run : List UInt8) : RouteError :=
  .nodeCapacity (String.ofList (Text.decodeLossy run))

/-- The trie in one line, for logs. -/
def describe (t : RouteTrie H) : String := "RouteTrie \x7b len: " ++ toString t.size ++ " \x7d"

end RouteTrie

end UriRouting
