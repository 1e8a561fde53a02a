import UriRouting.Regex.Plan

/-!
# Search

`Plan.run` looks for the match of a plan that its choices prefer.  It tries the preferred branch
of a choice with everything that has to follow, and the other branch only if that fails.

The search never enters a choice twice at one place of the text.  Whatever can be reached from there
is already being tried, or has been tried in vain, so a second visit could add nothing but work: the
number of visits is bounded by the number of choices times the length of the text, and a loop whose
round takes no character ends.  The visits are kept in a `Seen`, a set of bits that is handed from
each attempt to the next and never shared, so that a visit is noted in place.

What a capturing group has matched is noted when the group is left; a later note for the same group
takes precedence.
-/

namespace UriRouting.Regex

open Unicode

/-! ## Places in a text -/

/-- A place in a text: how many characters stand before it, the one just before it, and the rest. -/
structure Cursor where
  index : Nat
  before : Option Char
  rest : List Char
  deriving DecidableEq, Repr

namespace Cursor

/-- The place before the first character. -/
def start (cs : List Char) : Cursor := ⟨0, none, cs⟩

/-- The text from one place to a later one. -/
def textTo (c d : Cursor) : List Char := c.rest.take (d.index - c.index)

/-- The character just after a place. -/
def after (c : Cursor) : Option Char := c.rest.head?

end Cursor

/-- Whether a neighbour of a place is a word character. -/
def isWordNeighbour (wide : Bool) (c : Option Char) : Bool :=
  c.any (if wide then CharClass.word else CharClass.asciiWord).contains

/-- Whether an assertion is true at a place. -/
def Look.holds (l : Look) (c : Cursor) : Bool :=
  match l with
  | .textStart => c.before.isNone
  | .textEnd => c.after.isNone
  | .lineStart => c.before.all (· == '\n')
  | .lineEnd => c.after.all (· == '\n')
  | .crlfLineStart =>
    c.before.isNone || c.before == some '\n' || (c.before == some '\r' && c.after != some '\n')
  | .crlfLineEnd =>
    c.after.isNone || c.after == some '\r' || (c.after == some '\n' && c.before != some '\r')
  | .wordBoundary wide => isWordNeighbour wide c.before != isWordNeighbour wide c.after
  | .noWordBoundary wide => isWordNeighbour wide c.before == isWordNeighbour wide c.after
  | .wordStart wide => !isWordNeighbour wide c.before && isWordNeighbour wide c.after
  | .wordEnd wide => isWordNeighbour wide c.before && !isWordNeighbour wide c.after
  | .wordStartHalf wide => !isWordNeighbour wide c.before
  | .wordEndHalf wide => !isWordNeighbour wide c.after

/-! ## Visits -/

/-- The number of bits in a word of a set of visits. -/
def wordSize : Nat := 60

/-- The visits of choices, as bits in words: the bit of a label at a place is the one numbered
`label * width + place`. -/
structure Seen where
  width : Nat
  words : Array Nat
  deriving DecidableEq, Repr

namespace Seen

/-- No visit yet, for a text of the given length. -/
def empty (length : Nat) : Seen := ⟨length + 1, #[]⟩

/-- The bit of a visit. -/
def bit (s : Seen) (label index : Nat) : Nat := label * s.width + index

/-- Whether a choice has been visited at a place. -/
def contains (s : Seen) (label index : Nat) : Bool :=
  (s.words.getD (s.bit label index / wordSize) 0).testBit (s.bit label index % wordSize)

/-- Words enough for a word with the given number. -/
def reach (words : Array Nat) (i : Nat) : Array Nat :=
  if i < words.size then words else words ++ Array.replicate (i + 1 - words.size) 0

/-- Note a visit. -/
def insert (s : Seen) (label index : Nat) : Seen :=
  let bit := s.bit label index
  ⟨s.width, (reach s.words (bit / wordSize)).modify (bit / wordSize) fun word =>
    word ||| (1 <<< (bit % wordSize))⟩

end Seen

/-! ## Running a plan -/

/-- What the groups have matched, the latest note first. -/
abbrev Captures := List (Nat × List Char)

/-- How a search ends: with the groups of the match, or in vain with all the visits so far. -/
inductive Outcome where
  | found (groups : Captures)
  | exhausted (seen : Seen)
  deriving DecidableEq, Repr

/-- Try something else after a search in vain. -/
def Outcome.orElse (o : Outcome) (other : Seen → Outcome) : Outcome :=
  match o with
  | found groups => found groups
  | exhausted seen => other seen

/-- What has to follow. -/
abbrev Continuation := Cursor → Captures → Seen → Outcome

/-- A loop at its choice between one more round and going on.  Every round that comes back here does
so at a place not yet visited, so `fuel` need not exceed the number of places by more than one. -/
def runLoop (label : Nat) (greedy : Bool)
    (round : Cursor → Captures → Seen → Continuation → Outcome) :
    Nat → Cursor → Captures → Seen → Continuation → Outcome
  | 0, _, _, s, _ => .exhausted s
  | fuel + 1, c, g, s, k =>
    if s.contains label c.index then .exhausted s
    else if greedy then
      (round c g (s.insert label c.index) fun c g s =>
        runLoop label greedy round fuel c g s k).orElse fun s => k c g s
    else
      (k c g (s.insert label c.index)).orElse fun s =>
        round c g s fun c g s => runLoop label greedy round fuel c g s k

/-- Look for the preferred match of a plan that starts at the cursor and that `k` can continue. -/
def Plan.run : Plan → Cursor → Captures → Seen → Continuation → Outcome
  | empty, c, g, s, k => k c g s
  | item a, c, g, s, k =>
    match c.rest with
    | [] => .exhausted s
    | x :: rest => if a.contains x then k ⟨c.index + 1, some x, rest⟩ g s else .exhausted s
  | look l, c, g, s, k => if l.holds c then k c g s else .exhausted s
  | cat x y, c, g, s, k => x.run c g s fun c g s => y.run c g s k
  | alt label x y, c, g, s, k =>
    if s.contains label c.index then .exhausted s
    else (x.run c g (s.insert label c.index) k).orElse fun s => y.run c g s k
  | group index x, c, g, s, k => x.run c g s fun d g s => k d ((index, c.textTo d) :: g) s
  | star label greedy x, c, g, s, k => runLoop label greedy x.run (c.rest.length + 2) c g s k
  | plus label greedy x, c, g, s, k =>
    x.run c g s fun c g s => runLoop label greedy x.run (c.rest.length + 2) c g s k

/-- Try the places of a text as starts of a match, from `c` on. -/
def Plan.searchFrom (p : Plan) (index : Nat) (before : Option Char) (s : Seen) :
    List Char → Outcome
  | [] => p.run ⟨index, before, []⟩ [] s fun _ g _ => .found g
  | x :: rest =>
    (p.run ⟨index, before, x :: rest⟩ [] s fun _ g _ => .found g).orElse fun s =>
      p.searchFrom (index + 1) (some x) s rest

/-- The groups of the first match of a plan in a text. -/
def Plan.search (p : Plan) (cs : List Char) : Option Captures :=
  match p.searchFrom 0 none (.empty cs.length) cs with
  | .found g => some g
  | .exhausted _ => none

end UriRouting.Regex
