import UriRouting.Mapping

/-!
# The nodes of the routing trie

The trie holds routes under the keys of their templates.  A branch carries the run of bytes that all
keys below it share, and an edge for every byte that follows the run in one of them.  A `*` in a key
is always the key of an edge and never part of a run, so that a hole of a template is a place where
the search can choose.  A leaf stands as soon as no hole follows: it keeps its mapping, and what is
left of the key below it is not spelled out.

Edges keep the order in which they were added.  A branch belongs to a size class, which bounds the
number of its edges and is left for the next one when it is full.

`Node.leaves` lists the mappings of a trie; it is the view in which the operations are described.
-/

namespace UriRouting

/-- The numbers of edges for which room is made. -/
inductive SizeClass where
  | upTo4
  | upTo8
  | upTo16
  | upTo32
  | upTo64
  | upTo80
  deriving DecidableEq, Repr

namespace SizeClass

/-- The number of edges that fit. -/
def capacity : SizeClass → Nat
  | upTo4 => 4
  | upTo8 => 8
  | upTo16 => 16
  | upTo32 => 32
  | upTo64 => 64
  | upTo80 => 80

/-- The class to which a full branch grows. -/
def next? : SizeClass → Option SizeClass
  | upTo4 => some upTo8
  | upTo8 => some upTo16
  | upTo16 => some upTo32
  | upTo32 => some upTo64
  | upTo64 => some upTo80
  | upTo80 => none

end SizeClass

/-- The key of the edge for a hole. -/
def wildcardByte : UInt8 := 42

/-- The byte that ends a key, and the key of the edge for the end of a path. -/
def endByte : UInt8 := 0

/-- The byte between segments. -/
def slashByte : UInt8 := 47

mutual

/-- A node of the trie. -/
inductive Node (H : Type) where
  | leaf (mapping : Mapping H)
  | branch (run : List UInt8) (size : SizeClass) (edges : Edges H)

/-- The edges of a branch, in the order in which they were added. -/
inductive Edges (H : Type) where
  | nil
  | cons (key : UInt8) (child : Node H) (rest : Edges H)

end

variable {H : Type}

mutual

/-- The mappings below a node, in the order of the edges. -/
def Node.leaves : Node H → List (Mapping H)
  | .leaf m => [m]
  | .branch _ _ edges => edges.leaves

/-- The mappings below some edges, in their order. -/
def Edges.leaves : Edges H → List (Mapping H)
  | .nil => []
  | .cons _ child rest => child.leaves ++ rest.leaves

end

namespace Edges

/-- The number of edges. -/
def length : Edges H → Nat
  | nil => 0
  | cons _ _ rest => rest.length + 1

/-- The keys of the edges. -/
def keys : Edges H → List UInt8
  | nil => []
  | cons key _ rest => key :: rest.keys

/-- The node under a key. -/
def get? (key : UInt8) : Edges H → Option (Node H)
  | nil => none
  | cons k child rest => if k = key then some child else rest.get? key

/-- Add an edge after all others. -/
def append (key : UInt8) (child : Node H) : Edges H → Edges H
  | nil => cons key child nil
  | cons k c rest => cons k c (rest.append key child)

end Edges

/-- The nodes for what is left of a key, given the reversed bytes since the last edge: a branch for
every run that a hole follows, and a leaf under the last hole. -/
def Node.chainFrom (m : Mapping H) (run : List UInt8) : List UInt8 → Node H
  | [] => .leaf m
  | b :: bs =>
    if b = wildcardByte then
      .branch run.reverse .upTo4 (.cons wildcardByte (Node.chainFrom m [] bs) .nil)
    else Node.chainFrom m (b :: run) bs

/-- The nodes for what is left of a key. -/
def Node.chain (m : Mapping H) (rest : List UInt8) : Node H := Node.chainFrom m [] rest

end UriRouting
