import UriRouting.Trie.Basic

/-!
# Insertion in place

A trie in memory is changed where it stands, one step after another, and a step may be refused when
others have been taken already.  Where a run is cut in two, its front is cut off before the new
branch is known to take any edge, and while the branch takes the edge for what was there, a bare
branch stands in its place.

`RouteTrie.place` takes these steps in their order.  An `Edit` is what they come to: the answer, and
what stands there in the end, also after a refusal.
-/

namespace UriRouting

variable {H : Type}

/-- What a change in place comes to. -/
structure Edit (σ α : Type) where
  answer : Except RouteError α
  /-- What is left behind, whatever the answer is. -/
  left : σ

/-- Take another step, unless there was a refusal. -/
def Edit.andThen {σ α β : Type} (e : Edit σ α) (next : α → σ → Edit σ β) : Edit σ β :=
  match e.answer with
  | .error refusal => ⟨.error refusal, e.left⟩
  | .ok a => next a e.left

/-- A branch while edges are added to it. -/
structure Branch (H : Type) where
  run : List UInt8
  size : SizeClass
  edges : Edges H

namespace Branch

/-- A branch without edges. -/
def bare (run : List UInt8) : Branch H := ⟨run, .upTo4, .nil⟩

/-- The branch as a node. -/
def node (b : Branch H) : Node H := .branch b.run b.size b.edges

/-- Make room for more edges. -/
def grow (b : Branch H) : Edit (Branch H) Unit :=
  match b.size.next? with
  | none => ⟨.error (RouteTrie.capacityError b.run), b⟩
  | some larger => ⟨.ok (), { b with size := larger }⟩

/-- Add an edge behind all others. -/
def push (b : Branch H) (key : UInt8) (child : Node H) : Branch H :=
  { b with edges := b.edges.append key child }

/-- Add an edge behind all others, and make room for it if there is none. -/
def add (b : Branch H) (key : UInt8) (child : Node H) : Edit (Branch H) Unit :=
  if b.edges.length = b.size.capacity then
    b.grow.andThen fun _ b => ⟨.ok (), b.push key child⟩
  else ⟨.ok (), b.push key child⟩

end Branch

/-- Put a new branch in the place of a node, with an edge for a new mapping and one for the node.  The
node is taken out of its place between the two. -/
def Node.raise (m : Mapping H) (run : List UInt8) (key : UInt8) (rest : List UInt8) (oldKey : UInt8)
    (node : Node H) : Edit (Node H) Bool :=
  let first := (Branch.bare run).add key (Node.chain m rest)
  match first.answer with
  | .error refusal => ⟨.error refusal, node⟩
  | .ok _ =>
    let second := first.left.add oldKey node
    match second.answer with
    | .error refusal => ⟨.error refusal, (Branch.bare []).node⟩
    | .ok _ => ⟨.ok true, second.left.node⟩

mutual

/-- Add a mapping below a node in its place.  `depth` bytes of its key lead to the node, and `rest`
is what follows them. -/
def Node.place (m : Mapping H) (depth : Nat) (rest : List UInt8) : Node H → Edit (Node H) Bool
  | .leaf old =>
    if old.template.key = m.template.key then ⟨.ok false, .leaf old⟩
    else
      let stored := old.template.key.drop depth
      let shared := Text.commonLength stored rest
      match stored.drop shared, rest.drop shared with
      | oldKey :: _, key :: after => Node.raise m (rest.take shared) key after oldKey (.leaf old)
      | _, _ => ⟨.ok false, .leaf old⟩
  | .branch run size edges =>
    let shared := Text.commonLength run rest
    match run.drop shared, rest.drop shared with
    | oldKey :: below, key :: after =>
      Node.raise m (run.take shared) key after oldKey (.branch below size edges)
    | [], key :: after =>
      match edges.place m (depth + shared + 1) key after with
      | some e => ⟨e.answer, .branch run size e.left⟩
      | none =>
        let e := (Branch.mk run size edges).add key (Node.chain m after)
        ⟨e.answer.map fun _ => true, e.left.node⟩
    | _, [] => ⟨.ok false, .branch run size edges⟩

/-- Add a mapping in place below the edge with the given key, if there is one. -/
def Edges.place (m : Mapping H) (depth : Nat) (key : UInt8) (rest : List UInt8) :
    Edges H → Option (Edit (Edges H) Bool)
  | .nil => none
  | .cons k child others =>
    if k = key then
      let e := child.place m depth rest
      some ⟨e.answer, .cons k e.left others⟩
    else
      (others.place m depth key rest).map fun e => ⟨e.answer, .cons k child e.left⟩

end

/-- Add a mapping to a trie in place, under the key of its template. -/
def RouteTrie.place (t : RouteTrie H) (m : Mapping H) : Edit (RouteTrie H) Bool :=
  match t.root with
  | none => ⟨.ok true, ⟨some (Node.chain m m.template.key), t.size + 1⟩⟩
  | some root =>
    let e := root.place m 0 m.template.key
    match e.answer with
    | .error refusal => ⟨.error refusal, ⟨some e.left, t.size⟩⟩
    | .ok added => ⟨.ok added, ⟨some e.left, if added then t.size + 1 else t.size⟩⟩

end UriRouting
