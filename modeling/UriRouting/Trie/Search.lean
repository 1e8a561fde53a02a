import UriRouting.Text.Front
import UriRouting.Trie.Node

/-!
# Search in the trie

`Node.search` follows a path through the trie, literal edges before the one for a hole at every
branch, and lets the leaves that it comes to decide: a leaf compares the whole path with its
template, whatever part of the path has been followed.

The edge for a hole takes the path up to the next `/`.  A group of a pattern may match beyond that,
so if the search below fails, the mapping that ends right under the hole is asked as well.  At the
end of the path the edge for the end of a key is taken, as if the path were a key.
-/

namespace UriRouting

variable {H : Type}

/-- The match of a mapping with a whole canonical path. -/
def Mapping.match? (m : Mapping H) (path : String) : Option (Match H) :=
  (m.template.capture? path).map fun params => ⟨m, params⟩

/-- The match of the mapping whose key ends right at a node. -/
def Node.endMatch? (path : String) : Node H → Option (Match H)
  | .leaf _ => none
  | .branch _ _ edges =>
    match edges.get? endByte with
    | some (.leaf m) => m.match? path
    | _ => none

mutual

/-- Search below a node for the whole path, of which `rest` has not been followed yet. -/
def Node.search (path : String) : List UInt8 → Node H → Option (Match H)
  | _, .leaf m => m.match? path
  | rest, .branch run _ edges =>
    match Text.stripFront run rest with
    | none => none
    | some rest =>
      (edges.searchLiteral path (rest.headD endByte) rest.tail) <|> edges.searchWildcard path rest

/-- Search below the edge with the given key. -/
def Edges.searchLiteral (path : String) (key : UInt8) (rest : List UInt8) :
    Edges H → Option (Match H)
  | .nil => none
  | .cons k child others =>
    if k = key then child.search path rest else others.searchLiteral path key rest

/-- Search below the edge for a hole, which takes one segment of what is left of the path. -/
def Edges.searchWildcard (path : String) (rest : List UInt8) : Edges H → Option (Match H)
  | .nil => none
  | .cons k child others =>
    if k = wildcardByte then
      (child.search path (rest.dropWhile (· != slashByte))) <|> child.endMatch? path
    else others.searchWildcard path rest

end

end UriRouting
