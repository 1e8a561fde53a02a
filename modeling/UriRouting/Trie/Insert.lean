import UriRouting.Text.Front
import UriRouting.Trie.Node

/-!
# Insertion into the trie

`Node.insert` adds a mapping below a node.  It follows the key of the mapping as far as the node
spells it.  Where a leaf's key or a branch's run goes another way, the node is split at that byte:
the bytes up to there become the run of a new branch, with one edge for the new key and one for what
was there.  Where a branch has no edge for the next byte, one is added, provided that a size class
has room for it.  Nothing else changes, and a mapping whose key is already there is not added.

A key ends in a byte that stands nowhere else in it, so two keys differ before either ends; the
cases in which a key ends early stand for nothing and leave the trie as it is.
-/

namespace UriRouting

variable {H : Type}

/-- What comes of an insertion. -/
inductive Insertion (α : Type) where
  /-- The mapping has been added. -/
  | added (result : α)
  /-- A mapping with the same key is there already. -/
  | present
  /-- The branch with the given run has all the edges that it can have. -/
  | full (run : List UInt8)
  deriving DecidableEq, Repr

namespace Insertion

/-- Put what has been added into its surroundings. -/
def map {α β : Type} (f : α → β) : Insertion α → Insertion β
  | added result => added (f result)
  | present => present
  | full run => full run

end Insertion

/-- A branch for two nodes that part after `run`: the new one goes on with `key`, and what was there
stands under `oldKey`. -/
def Node.fork (run : List UInt8) (key : UInt8) (new : Node H) (oldKey : UInt8) (old : Node H) :
    Node H :=
  .branch run .upTo4 (.cons key new (.cons oldKey old .nil))

/-- Add an edge for a node to a branch, which grows to the next size class if it is full. -/
def Node.attach (run : List UInt8) (size : SizeClass) (edges : Edges H) (key : UInt8)
    (new : Node H) : Insertion (Node H) :=
  if edges.length = size.capacity then
    match size.next? with
    | none => .full run
    | some size => .added (.branch run size (edges.append key new))
  else .added (.branch run size (edges.append key new))

mutual

/-- Add a mapping below a node.  `depth` bytes of its key lead to the node, and `rest` is what
follows them. -/
def Node.insert (m : Mapping H) (depth : Nat) (rest : List UInt8) : Node H → Insertion (Node H)
  | .leaf old =>
    if old.template.key = m.template.key then .present
    else
      let stored := old.template.key.drop depth
      let shared := Text.commonLength stored rest
      match stored.drop shared, rest.drop shared with
      | oldKey :: _, key :: after =>
        .added (Node.fork (rest.take shared) key (Node.chain m after) oldKey (.leaf old))
      | _, _ => .present
  | .branch run size edges =>
    let shared := Text.commonLength run rest
    match run.drop shared, rest.drop shared with
    | oldKey :: below, key :: after =>
      .added (Node.fork (run.take shared) key (Node.chain m after) oldKey
        (.branch below size edges))
    | [], key :: after =>
      match edges.insert m (depth + shared + 1) key after with
      | some result => result.map fun edges => .branch run size edges
      | none => Node.attach run size edges key (Node.chain m after)
    | _, [] => .present

/-- Add a mapping below the edge with the given key, if there is one. -/
def Edges.insert (m : Mapping H) (depth : Nat) (key : UInt8) (rest : List UInt8) :
    Edges H → Option (Insertion (Edges H))
  | .nil => none
  | .cons k child others =>
    if k = key then some ((child.insert m depth rest).map fun child => .cons k child others)
    else
      (others.insert m depth key rest).map fun result =>
        result.map fun others => .cons k child others

end

end UriRouting
