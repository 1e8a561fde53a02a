import UriRouting.Regex.Automaton.Growth

/-!
# The states of a choice between literals

A choice between literals becomes a trie over their octets, so that literals share the states of
what they start with.  The preference of an earlier literal over a later one has to be kept: where
a literal ends within another, the literals before it and those after it go to transitions of
their own.
-/

namespace UriRouting.Regex

/-- A literal ends where no octet is left. -/
abbrev Octets := List Nat

/-- Cut the literals that pass a place of the trie wherever one of them ends; a literal that goes
on is given with its next octet. -/
def cutAtEnds : List Octets → List (List (Nat × Octets))
  | [] => [[]]
  | [] :: words => [] :: cutAtEnds words
  | (octet :: word) :: words =>
    match cutAtEnds words with
    | [] => [[(octet, word)]]
    | part :: parts => ((octet, word) :: part) :: parts

/-- Of several literals that end before any other passes, only the first one counts. -/
def dropRepeatedEnds : List Octets → List Octets
  | [] :: [] :: words => dropRepeatedEnds ([] :: words)
  | words => words

/-- Where the literals of a part go on, by their next octets. -/
def byOctet (part : List (Nat × Octets)) : List (List Octets) :=
  (part.map Prod.fst).eraseDups.map fun octet =>
    part.filterMap fun (o, word) => if o = octet then some word else none

/-- The growth by one part of a place: a state that lists its transitions, if there are any, and
which the place lists as a branch.  A single transition needs no list. -/
def partGrowth (transitions : Nat) (g : Growth) : Growth :=
  match transitions with
  | 0 => g
  | 1 => ⟨g.states + 1, g.extra + 4⟩
  | n => ⟨g.states + 1, g.extra + 8 * n + 4⟩

/-- The growth by a place of the trie and by all places behind it, given the literals that pass
it.  A place lists a branch for each of its parts and for each end between two of them, and a
place where nothing goes on needs no state.  Each step takes an octet of every literal, so `fuel`
need not exceed the greatest length by more than one. -/
def placeGrowth : Nat → List Octets → Growth → Growth
  | 0, _, g => g
  | fuel + 1, words, g =>
    let parts := (cutAtEnds (dropRepeatedEnds words)).map byOctet
    let behind := parts.flatten.filter fun words => words.any fun word => !word.isEmpty
    let g := parts.foldl (fun g part => partGrowth part.length g) g
    behind.foldl (fun g words => placeGrowth fuel words g)
      ⟨g.states + 1, g.extra + 4 * (parts.length - 1)⟩

/-- The states of a choice between literals, and of their common end. -/
def literalStates (words : List Octets) (g : Growth) : Option Growth :=
  (placeGrowth ((words.map List.length).foldl max 0 + 1) words ⟨g.states + 1, g.extra⟩).within

end UriRouting.Regex
