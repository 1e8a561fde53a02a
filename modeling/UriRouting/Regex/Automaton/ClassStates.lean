import Std.Data.TreeMap
import UriRouting.Regex.Automaton.Growth
import UriRouting.Unicode.OctetSpans

/-!
# The states of a class

An automaton reads octets, so a class whose characters are not all of ASCII becomes several
states: one path for each sequence of spans of octets by which its characters are written.  The
paths share states.

Read forwards, they share what they start with, and states with the same transitions are made once
(`forwardStates`).  Read backwards, a path runs from the last octet to the first, and the paths
share what they end with (`backwardStates`).  The states that have been made are remembered in a
table with a fixed number of slots, in which a new entry takes the place of an older one with the
same slot: a state that has been forgotten is made again, and the number of states shows it.  The
slot of an entry comes from the hash function of Fowler, Noll and Vo.
-/

namespace UriRouting.Regex

open Unicode

/-! ## Remembered states -/

/-- One step of the hash function: work a number into a hash. -/
def hashStep (hash : UInt64) (n : Nat) : UInt64 := (hash ^^^ UInt64.ofNat n) * 1099511628211

/-- The slot of a key, which is a list of numbers, in a table with the given number of slots. -/
def slotOf (slots : Nat) (key : List Nat) : Nat :=
  (key.foldl hashStep 14695981039346656037).toNat % slots

/-- The states that are remembered, each with its key, by slots. -/
abbrev StateTable := Std.TreeMap Nat (List Nat × Nat)

/-- An automaton that is being made, with the states that are remembered. -/
structure Workshop where
  growth : Growth
  table : StateTable

namespace Workshop

/-- Make a state that `grow` adds, and remember it under a key. -/
def make (slot : Nat) (key : List Nat) (grow : Growth → Option Growth) (w : Workshop) :
    Option (Nat × Workshop) :=
  match grow w.growth with
  | none => none
  | some g => some (w.growth.states, ⟨g, w.table.insert slot (key, w.growth.states)⟩)

/-- The number of a state with a key: of the one that is remembered under the key, or else of a new
one. -/
def state (slots : Nat) (key : List Nat) (grow : Growth → Option Growth) (w : Workshop) :
    Option (Nat × Workshop) :=
  match w.table[slotOf slots key]? with
  | some (found, number) =>
    if found = key then some (number, w) else w.make (slotOf slots key) key grow
  | none => w.make (slotOf slots key) key grow

end Workshop

/-! ## Reading forwards -/

/-- A state that is not complete: its transitions, the last one first, each as the span of octets
and the state that it leads to, and the span of a transition whose state is not known yet. -/
structure OpenState where
  transitions : List (Span × Nat)
  pending : Option Span

namespace OpenState

/-- A state without transitions but for a pending one. -/
def fresh (s : Span) : OpenState := ⟨[], some s⟩

/-- Let the pending transition lead to a state. -/
def settle (x : OpenState) (number : Nat) : OpenState :=
  match x.pending with
  | some s => ⟨(s, number) :: x.transitions, none⟩
  | none => x

/-- The key of a state that is complete. -/
def key (x : OpenState) : List Nat :=
  x.transitions.reverse.flatMap fun (s, number) => [s.low, s.high, number]

/-- The number of a state that is complete. -/
def close (x : OpenState) (w : Workshop) : Option (Nat × Workshop) :=
  w.state 10000 x.key fun g => g.addSparse x.transitions.length

end OpenState

/-- Complete the states of a path, the last one first; `target` is the state behind them. -/
def closePath (target : Nat) : List OpenState → Workshop → Option (Nat × Workshop)
  | [], w => some (target, w)
  | x :: path, w =>
    match closePath target path w with
    | none => none
    | some (number, w) => (x.settle number).close w

/-- Follow a sequence of spans along the path of the sequence before it as far as they agree;
complete what is left of that path, and go on with open states. -/
def extendPath (target : Nat) :
    List OpenState → List Span → Workshop → Option (List OpenState × Workshop)
  | x :: path, s :: rest, w =>
    if x.pending = some s then
      match extendPath target path rest w with
      | none => none
      | some (path, w) => some (x :: path, w)
    else
      match closePath target path w with
      | none => none
      | some (number, w) =>
        some (⟨(x.settle number).transitions, some s⟩ :: rest.map OpenState.fresh, w)
  | path, _, w => some (path, w)

/-- Take in all sequences, then complete the path of the last one. -/
def extendAll (target : Nat) : List (List Span) → List OpenState → Workshop → Option Growth
  | [], path, w => (closePath target path w).map fun (_, w) => w.growth
  | s :: rest, path, w =>
    match extendPath target path s w with
    | none => none
    | some (path, w) => extendAll target rest path w

/-- The states for some sequences of spans of octets, read forwards, and for their common end. -/
def forwardStates (sequences : List (List Span)) (g : Growth) : Option Growth :=
  (g.addStates 1).bind fun h => extendAll g.states sequences [⟨[], none⟩] ⟨h, {}⟩

/-! ## Reading backwards -/

/-- Follow a sequence of spans from its first octet, the end of the path, to its last one. -/
def leadTo (target : Nat) : List Span → Workshop → Option Workshop
  | [], w => some w
  | s :: rest, w =>
    match w.state 1000 [target, s.low, s.high] (·.addStates 1) with
    | none => none
    | some (number, w) => leadTo number rest w

/-- Follow all sequences; the state in front lists a branch for each. -/
def leadAll (target : Nat) : List (List Span) → Workshop → Option Growth
  | [], w => some w.growth
  | s :: rest, w =>
    match leadTo target s w with
    | none => none
    | some w =>
      match w.growth.addBranches 1 with
      | none => none
      | some g => leadAll target rest ⟨g, w.table⟩

/-- The states for some sequences of spans of octets, read backwards, and for their common start and
end. -/
def backwardStates (sequences : List (List Span)) (g : Growth) : Option Growth :=
  (g.addStates 2).bind fun h => leadAll (g.states + 1) sequences ⟨h, {}⟩

/-! ## Classes -/

/-- The direction in which an automaton reads. -/
inductive Direction where
  | forward
  | backward
  deriving DecidableEq, Repr

/-- The states of a class.  One that keeps to ASCII takes two: a state that lists the spans of the
class, and the one behind it. -/
def classStates (d : Direction) (a : CharSet) (g : Growth) : Option Growth :=
  if a.isAscii then (g.addStates 1).bind fun g => g.addSparse a.spans.length
  else
    let sequences := a.spans.flatMap Span.octetSpans
    match d with
    | .forward => forwardStates sequences g
    | .backward => backwardStates sequences g

end UriRouting.Regex
