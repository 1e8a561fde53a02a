import UriRouting.Regex.Automaton.ClassStates
import UriRouting.Regex.Automaton.LiteralStates
import UriRouting.Regex.Normal
import UriRouting.Text.Utf8

/-!
# The size of the automata of an expression

A regular expression is searched for by two automata, one that reads forwards and notes what
groups have matched, and one that reads backwards.  Both are made from the normal form of the
expression, and either must keep to the limit: `Expr.fits` says whether they do.  The automata
themselves are not needed to tell, only how they grow; `Normal.grow` follows that, part by part,
in the order in which the states are made.

Every part has a first state and a last one.  Where another part follows, the last state leads to
it; this takes a branch if the last state lists branches (`Normal.endsInBranches`), and nothing
otherwise.
-/

namespace UriRouting.Regex

open Unicode

namespace Normal

/-! ## Last states -/

mutual

/-- Whether the last state of an expression lists branches, as that of a loop does. -/
def endsInBranches (d : Direction) : Normal → Bool
  | cat xs =>
    match d with
    | .forward => lastEndsInBranches d xs
    | .backward => firstEndsInBranches d xs
  | group _ _ x =>
    match d with
    | .forward => false
    | .backward => x.endsInBranches d
  | rep least none _ x => 0 < least || x.consumes
  | rep least (some most) _ x => 1 < least && least == most && x.endsInBranches d
  | _ => false

/-- Whether the last of some expressions ends in a state that lists branches. -/
def lastEndsInBranches (d : Direction) : List Normal → Bool
  | [] => false
  | [x] => x.endsInBranches d
  | _ :: xs => lastEndsInBranches d xs

/-- Whether the first of some expressions ends in a state that lists branches. -/
def firstEndsInBranches (d : Direction) : List Normal → Bool
  | [] => false
  | x :: _ => x.endsInBranches d

end

/-- The number of branches that it takes to go on from an expression. -/
def exitBranches (d : Direction) (x : Normal) : Nat := if x.endsInBranches d then 1 else 0

/-! ## Repetitions -/

/-- The growth by a repetition without an upper bound.  If a round may take no character, the loop
is entered through a choice of its own. -/
def growLoop (grow : Growth → Option Growth) (exits : Nat) (consumes : Bool) :
    Nat → Growth → Option Growth
  | 0, g =>
    if consumes then
      ((g.addStates 1).bind grow).bind fun g => g.addBranches (1 + exits)
    else
      ((grow g).bind fun g => g.addStates 3).bind fun g => g.addBranches (4 + exits)
  | least + 1, g =>
    ((Growth.times grow (least + 1) g).bind fun g => g.addStates 1).bind fun g =>
      g.addBranches (1 + exits * (least + 1))

/-- The growth by a number of copies, one after another; none at all is a state that leads on. -/
def growCopies (grow : Growth → Option Growth) (exits : Nat) : Nat → Growth → Option Growth
  | 0, g => g.addStates 1
  | count + 1, g => (Growth.times grow (count + 1) g).bind fun g => g.addBranches (exits * count)

/-- The growth by copies each of which may be the last one. -/
def growOptions (grow : Growth → Option Growth) (exits : Nat) (count : Nat) (g : Growth) :
    Option Growth :=
  (g.addStates 1).bind
    (Growth.times
      (fun g => ((g.addStates 1).bind grow).bind fun g => g.addBranches (2 + exits)) count)

/-- The growth by a repetition. -/
def growRepetition (grow : Growth → Option Growth) (exits : Nat) (consumes : Bool) (least : Nat)
    (most : Option Nat) (g : Growth) : Option Growth :=
  match most with
  | none => growLoop grow exits consumes least g
  | some most =>
    if least = 0 && most = 1 then
      ((g.addStates 1).bind grow).bind fun g =>
        (g.addStates 1).bind fun g => g.addBranches (2 + exits)
    else if least = most then growCopies grow exits least g
    else
      (growCopies grow exits least g).bind fun g =>
        (growOptions grow exits (most - least) g).bind fun g =>
          if least = 0 then some g else g.addBranches exits

/-! ## Expressions -/

/-- The octets of a literal, in the order in which they are read. -/
def octetsOf (d : Direction) (cs : List Char) : List Nat :=
  let os := cs.flatMap fun c => octets c.toNat
  match d with
  | .forward => os
  | .backward => os.reverse

/-- The text of an expression that is a literal. -/
def text? : Normal → Option (List Char)
  | literal cs => some cs
  | _ => none

mutual

/-- The growth by the states of an expression. -/
def grow (d : Direction) : Normal → Growth → Option Growth
  | empty, g => g.addStates 1
  | literal cs, g => g.addStates (octetsOf d cs).length
  | item a, g => classStates d a g
  | look _, g => g.addStates 1
  | cat xs, g =>
    match d with
    | .forward => growForward xs g
    | .backward => growBackward xs g
  | alt xs, g =>
    match xs.mapM text? with
    | some texts => literalStates (texts.map (octetsOf d)) g
    | none => growBranches d 0 xs g
  | group _ _ x, g =>
    match d with
    | .forward =>
      ((g.addStates 1).bind (x.grow d)).bind fun g =>
        (g.addStates 1).bind fun g => g.addBranches (x.exitBranches d)
    | .backward => x.grow d g
  | rep least most _ x, g =>
    growRepetition (x.grow d) (x.exitBranches d) x.consumes least most g

/-- The growth by some expressions one after another, made from the first to the last. -/
def growForward : List Normal → Growth → Option Growth
  | [], g => some g
  | [x], g => x.grow .forward g
  | x :: xs, g =>
    ((x.grow .forward g).bind fun g => g.addBranches (x.exitBranches .forward)).bind
      (growForward xs)

/-- The growth by some expressions one after another, made from the last to the first. -/
def growBackward : List Normal → Growth → Option Growth
  | [], g => some g
  | [x], g => x.grow .backward g
  | x :: xs, g =>
    ((growBackward xs g).bind fun g => g.addBranches (firstExits xs)).bind (x.grow .backward)

/-- The growth by the branches of a choice, `index` being the number of branches before.  The
states in front of the choice and behind it are made after the second branch. -/
def growBranches (d : Direction) (index : Nat) : List Normal → Growth → Option Growth
  | [], g => some g
  | x :: xs, g =>
    ((x.grow d g).bind fun g =>
      (if index = 1 then g.addStates 2 else some g).bind fun g =>
        g.addBranches (1 + x.exitBranches d)).bind
      (growBranches d (index + 1) xs)

/-- The number of branches that it takes to go on, backwards, from some expressions one after
another. -/
def firstExits : List Normal → Nat
  | [] => 0
  | x :: _ => x.exitBranches .backward

end

end Normal

/-- The growth by a whole automaton.  Unless every match is tied to the end of the text where the
automaton starts to read, it starts with a loop that drops octets.  Reading forwards, it also
notes the match itself as a group. -/
def Normal.automaton (d : Direction) (x : Normal) : Option Growth := do
  let tied := match d with
    | .forward => x.startsWith .textStart
    | .backward => x.endsWith .textEnd
  let g ←
    if tied then Growth.start.addStates 1
    else do
      let g ← (← Growth.start.addStates 2).addSparse 1
      g.addBranches 2
  match d with
  | .forward => do
    let g ← x.grow d (← g.addStates 1)
    (← (← g.addBranches (x.exitBranches d)).addStates 1).addStates 1
  | .backward => do
    let g ← x.grow d g
    (← g.addStates 1).addBranches (x.exitBranches d)

/-- Whether both automata of an expression keep to the limit. -/
def Expr.fits (x : Expr) : Bool :=
  let y := Normal.ofExpr x
  (y.automaton .forward).isSome && (y.automaton .backward).isSome

end UriRouting.Regex
