import UriRouting.Text.Access
import UriRouting.Trie.Basic

/-!
# The trie by places

`Node.insert` and `Node.search` are given what is left of a key or a path.  In memory there is only
the whole key and the whole path, and a place in it: the number of bytes that have been followed.
What is left is read by that place, byte by byte and slice by slice, without a check that it is
there.

Here the operations are written in this way, and every access is checked (`Checked`): an access that
is out of order ends the operation with a `Trap`.  A search asks for the byte at the end of the path
on purpose, and takes the mark of the end for it; that is no trap, but any place behind the end is
one.
-/

namespace UriRouting

variable {H : Type}

open Checked

/-! ## Insertion -/

/-- The nodes for what is left of the key of a mapping at a place. -/
def Node.chainAt (m : Mapping H) (place : Nat) : Except Trap (Node H) :=
  match _hrest : suffix m.template.key place with
  | .error trap => .error trap
  | .ok rest =>
    match hi : rest.idxOf? wildcardByte with
    | none => .ok (.leaf m)
    | some i => do
      let run ← slice m.template.key place (place + i)
      let below ← Node.chainAt m (place + i + 1)
      .ok (.branch run .upTo4 (.cons wildcardByte below .nil))
termination_by m.template.key.length - place
decreasing_by
  obtain ⟨hplace, rfl⟩ := suffix_eq_ok.1 _hrest
  have hlt : i < (m.template.key.drop place).length := by
    obtain ⟨h, -⟩ := List.idxOf?_eq_some_iff.1 hi
    exact h
  rw [List.length_drop] at hlt
  omega

mutual

/-- Add a mapping below a node to which the bytes of its key up to a place lead. -/
def Node.putAt (m : Mapping H) (place : Nat) : Node H → Except Trap (Insertion (Node H))
  | .leaf old =>
    if old.template.key = m.template.key then .ok .present
    else do
      let stored ← suffix old.template.key place
      let rest ← suffix m.template.key place
      let split := place + Text.commonLength stored rest
      let oldKey ← byteAt old.template.key split
      let run ← slice m.template.key place split
      let key ← byteAt m.template.key split
      let new ← Node.chainAt m (split + 1)
      .ok (.added (Node.fork run key new oldKey (.leaf old)))
  | .branch run size edges => do
    let rest ← suffix m.template.key place
    let shared := Text.commonLength run rest
    if shared < run.length then
      let oldKey ← byteAt run shared
      let front ← slice run 0 shared
      let below ← suffix run (shared + 1)
      let key ← byteAt m.template.key (place + shared)
      let new ← Node.chainAt m (place + shared + 1)
      .ok (.added (Node.fork front key new oldKey (.branch below size edges)))
    else
      let key ← byteAt m.template.key (place + shared)
      match edges.putAt m (place + shared + 1) key with
      | some result => result.map fun result => result.map fun edges => .branch run size edges
      | none =>
        let new ← Node.chainAt m (place + shared + 1)
        .ok (Node.attach run size edges key new)

/-- Add a mapping below the edge with the given key, if there is one. -/
def Edges.putAt (m : Mapping H) (place : Nat) (key : UInt8) :
    Edges H → Option (Except Trap (Insertion (Edges H)))
  | .nil => none
  | .cons k child others =>
    if k = key then
      some ((child.putAt m place).map fun result => result.map fun child => .cons k child others)
    else
      (others.putAt m place key).map fun result =>
        result.map fun result => result.map fun others => .cons k child others

end

/-! ## Search -/

mutual

/-- Search below a node for a path, the bytes of which have been followed up to a place. -/
def Node.searchAt (path : String) (bytes : List UInt8) (place : Nat) :
    Node H → Except Trap (Option (Match H))
  | .leaf m => .ok (m.match? path)
  | .branch run _ edges => do
    let rest ← suffix bytes place
    if run.isPrefixOf rest then
      let key := bytes[place + run.length]?.getD endByte
      let found ← edges.literalAt path bytes (place + run.length + 1) key
      match found with
      | some found => .ok (some found)
      | none => edges.holeAt path bytes (place + run.length)
    else .ok none

/-- Search below the edge with the given key. -/
def Edges.literalAt (path : String) (bytes : List UInt8) (place : Nat) (key : UInt8) :
    Edges H → Except Trap (Option (Match H))
  | .nil => .ok none
  | .cons k child others =>
    if k = key then child.searchAt path bytes place else others.literalAt path bytes place key

/-- Search below the edge for a hole, which takes the segment at a place. -/
def Edges.holeAt (path : String) (bytes : List UInt8) (place : Nat) :
    Edges H → Except Trap (Option (Match H))
  | .nil => .ok none
  | .cons k child others =>
    if k = wildcardByte then do
      let stop ← stopBefore bytes slashByte place
      let found ← child.searchAt path bytes stop
      match found with
      | some found => .ok (some found)
      | none => .ok (child.endMatch? path)
    else others.holeAt path bytes place

end

namespace RouteTrie

/-- Add a mapping under the key of its template, read by places. -/
def insertAt (t : RouteTrie H) (m : Mapping H) : Except Trap (Insertion (RouteTrie H)) :=
  match t.root with
  | none => (Node.chainAt m 0).map fun root => .added ⟨some root, t.size + 1⟩
  | some root =>
    (root.putAt m 0).map fun result => result.map fun root => ⟨some root, t.size + 1⟩

/-- The route that serves a path, read by places. -/
def lookupAt (t : RouteTrie H) (path : String) : Except Trap (Option (Match H)) :=
  match t.root with
  | none => .ok none
  | some root => root.searchAt path (Text.utf8 path.toList) 0

end RouteTrie

end UriRouting
