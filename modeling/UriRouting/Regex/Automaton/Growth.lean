/-!
# How large an automaton grows

An automaton is made state by state, and every state takes memory: a fixed part, and an extra part
for the transitions and branches that it lists.  `Growth` counts both.  An automaton that would
outgrow `sizeLimit` is given up at once, so its growth can be followed however large it would
become: every step gives the growth after it, or nothing once the limit is passed.
-/

namespace UriRouting.Regex

/-- The size in octets that an automaton may reach. -/
def sizeLimit : Nat := 10 * 1024 * 1024

/-- The states of an automaton, and the memory that these take beyond their fixed part. -/
structure Growth where
  states : Nat
  extra : Nat
  deriving DecidableEq, Repr

namespace Growth

/-- No state yet. -/
def start : Growth := ⟨0, 0⟩

/-- The size of an automaton; the fixed part of a state is 32 octets. -/
def size (g : Growth) : Nat := 32 * g.states + g.extra

/-- A growth that keeps to the limit. -/
def within (g : Growth) : Option Growth := if g.size ≤ sizeLimit then some g else none

/-- Add some states that list nothing. -/
def addStates (g : Growth) (count : Nat) : Option Growth := within ⟨g.states + count, g.extra⟩

/-- Add a state that lists some transitions, at 8 octets each. -/
def addSparse (g : Growth) (transitions : Nat) : Option Growth :=
  within ⟨g.states + 1, g.extra + 8 * transitions⟩

/-- Add branches to the states that list them, at 4 octets each. -/
def addBranches (g : Growth) (count : Nat) : Option Growth :=
  within ⟨g.states, g.extra + 4 * count⟩

/-- Grow the same way a number of times. -/
def times (step : Growth → Option Growth) : Nat → Growth → Option Growth
  | 0, g => some g
  | count + 1, g =>
    match step g with
    | none => none
    | some g => times step count g

end Growth

end UriRouting.Regex
