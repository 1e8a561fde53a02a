import UriRouting.Regex.Expr.Bracket
import UriRouting.Unicode.Naming

/-!
# Reading regular expressions

`Expr.ofText?` reads the text of a regular expression, or gives nothing if the text is none.  The
reader goes through the text once, one sign at a time, and keeps in a `ReaderState` the flags in
force, the groups met so far, the sequence being read, the branches before it in the same group, and
the groups that are open around them.  No call is nested in another, so a fact about the reading of
one sign carries over to any text around it.

What is read comes as a `Piece`: an expression, its nesting depth, and whether a repetition may
follow it.
-/

namespace UriRouting.Regex

open Unicode

/-- The greatest nesting depth of a regular expression. -/
def depthLimit : Nat := 250

/-- The bound on the counts of a repetition. -/
def countLimit : Nat := 4294967296

/-- An expression that has been read.  A setting of flags cannot be repeated. -/
structure Piece where
  expr : Expr
  depth : Nat
  repeatable : Bool
  deriving DecidableEq, Repr

namespace Piece

/-- A piece without inner structure. -/
def leaf (x : Expr) : Piece := ⟨x, 0, true⟩

/-- A piece that only changes the flags. -/
def setting : Piece := ⟨.empty, 0, false⟩

/-- One level above the deepest of some pieces. -/
def depthAbove (ps : List Piece) : Nat := 1 + (ps.map Piece.depth).foldl max 0

/-- The pieces one after another; the list holds the last one first. -/
def sequence : List Piece → Piece
  | [] => leaf .empty
  | [p] => p
  | ps => ⟨.catList (ps.reverse.map Piece.expr), depthAbove ps, true⟩

/-- A choice between the branches; the list holds the last one first. -/
def choice : List Piece → Piece
  | [] => leaf .empty
  | [p] => p
  | ps => ⟨.altList (ps.reverse.map Piece.expr), depthAbove ps, true⟩

end Piece

/-- A group that is open: its number and name if it captures, and what was being read before it. -/
structure OpenGroup where
  capture : Option (Nat × Option String)
  flags : Flags
  branches : List Piece
  items : List Piece
  deriving DecidableEq, Repr

/-- What a reader knows at a place in the text. -/
structure ReaderState where
  flags : Flags
  /-- The number of capturing groups met so far. -/
  groups : Nat
  /-- The names of those groups. -/
  names : List String
  /-- The branches of the innermost open group that are complete, the last one first. -/
  branches : List Piece
  /-- The branch being read, the last piece first. -/
  items : List Piece
  /-- The open groups, the innermost first. -/
  stack : List OpenGroup
  deriving DecidableEq, Repr

namespace ReaderState

/-- Before the first sign. -/
def start : ReaderState := ⟨{}, 0, [], [], [], []⟩

/-- Append a piece to the branch being read. -/
def push (s : ReaderState) (p : Piece) : ReaderState := { s with items := p :: s.items }

/-- What has been read of the innermost open group. -/
def body (s : ReaderState) : Piece := .choice (.sequence s.items :: s.branches)

/-- Start a new branch. -/
def nextBranch (s : ReaderState) : ReaderState :=
  { s with branches := .sequence s.items :: s.branches, items := [] }

/-- Open a group. -/
def openGroup (s : ReaderState) (capture : Option (Nat × Option String)) (f : Flags) :
    ReaderState :=
  { s with
    flags := f
    branches := []
    items := []
    stack := ⟨capture, s.flags, s.branches, s.items⟩ :: s.stack }

/-- Open a capturing group, whose name must be new. -/
def openCapture (s : ReaderState) (name : Option String) : Option ReaderState :=
  if name.any s.names.contains then none
  else
    some ({ s with groups := s.groups + 1, names := name.toList ++ s.names }.openGroup
      (some (s.groups + 1, name)) s.flags)

/-- Close the innermost open group. -/
def closeGroup (s : ReaderState) : Option ReaderState :=
  match s.stack with
  | [] => none
  | g :: below =>
    let x :=
      match g.capture with
      | some (index, name) => .group index name s.body.expr
      | none => .enclosed s.body.expr
    some
      { s with
        flags := g.flags
        branches := g.branches
        items := ⟨x, 1 + s.body.depth, true⟩ :: g.items
        stack := below }

/-- Repeat the last piece. -/
def repeatLast (s : ReaderState) (least : Nat) (most : Option Nat) (greedy : Bool) :
    Option ReaderState :=
  match s.items with
  | [] => none
  | p :: before =>
    if p.repeatable then
      some
        { s with
          items :=
            ⟨.rep least most (greedy != s.flags.swapGreed) p.expr, 1 + p.depth, true⟩ :: before }
    else none

end ReaderState

/-! ## Repetitions -/

/-- A question mark after a repetition makes it reluctant. -/
def readGreed : List Char → Bool × List Char
  | '?' :: rest => (false, rest)
  | cs => (true, cs)

/-- Drop white space. -/
def dropSpace : List Char → List Char
  | [] => []
  | c :: cs => if whiteSpace.contains c then dropSpace cs else c :: cs

/-- Read the digits of a count; `value` is the number read so far, if there was a digit. -/
def readDigits (f : Flags) (value : Option Nat) : Nat → List Char → Option Nat × List Char
  | 0, cs => (value, cs)
  | fuel + 1, cs =>
    match cs with
    | [] => (value, [])
    | c :: rest =>
      if c.isDigit then
        readDigits f (some (value.getD 0 * 10 + Text.digitValue c)) fuel (f.skip rest)
      else (value, c :: rest)

/-- Read a count, with white space around it. -/
def readCount (f : Flags) (cs : List Char) : Option (Nat × List Char) :=
  match readDigits f none (cs.length + 1) (dropSpace cs) with
  | (none, _) => none
  | (some n, rest) => if n < countLimit then some (n, dropSpace rest) else none

/-- Read the bounds of a counted repetition, the opening brace having been read. -/
def readBounds (f : Flags) (cs : List Char) : Option ((Nat × Option Nat) × List Char) := do
  let (least, rest) ← readCount f (f.skip cs)
  match rest with
  | '\x7d' :: rest => some ((least, some least), rest)
  | ',' :: rest =>
    match f.skip rest with
    | '\x7d' :: rest => some ((least, none), rest)
    | rest => do
      let (most, rest) ← readCount f rest
      match rest with
      | '\x7d' :: rest => if least ≤ most then some ((least, some most), rest) else none
      | _ => none
  | _ => none

/-! ## Groups -/

/-- Read the name of a group up to the sign that ends it. -/
def readGroupName (name : List Char) : List Char → Option (String × List Char)
  | [] => none
  | c :: cs =>
    if c = '>' then if name.isEmpty then none else some (String.ofList name.reverse, cs)
    else if c = '_' ∨ alphabetic.contains c then readGroupName (c :: name) cs
    else if !name.isEmpty ∧ (c = '.' ∨ c = '[' ∨ c = ']' ∨ numerals.contains c) then
      readGroupName (c :: name) cs
    else none

/-- Open the group that starts after a parenthesis, or change the flags. -/
def readGroup (s : ReaderState) (cs : List Char) : Option (ReaderState × List Char) :=
  match s.flags.skip cs with
  | '?' :: '=' :: _ => none
  | '?' :: '!' :: _ => none
  | '?' :: '<' :: '=' :: _ => none
  | '?' :: '<' :: '!' :: _ => none
  | '?' :: 'P' :: '<' :: rest => do
    let (name, rest) ← readGroupName [] rest
    let s ← s.openCapture (some name)
    return (s, rest)
  | '?' :: '<' :: rest => do
    let (name, rest) ← readGroupName [] rest
    let s ← s.openCapture (some name)
    return (s, rest)
  | '?' :: rest =>
    match Flags.readItems [] rest with
    | some (items, ':', rest) => some (s.openGroup none (s.flags.apply true items), rest)
    | some ([], _, _) => none
    | some (items, _, rest) =>
      some ({ s with flags := s.flags.apply true items }.push .setting, rest)
    | none => none
  | rest => do
    let s ← s.openCapture none
    return (s, rest)

/-! ## The text -/

/-- The expression that an escape stands for. -/
def Atom.expr? (f : Flags) : Atom → Option Expr
  | char c octet => f.literal c octet
  | cls a => some (.item a)
  | look l => some (.look l)

/-- Read the sign `c` and whatever belongs to it. -/
def readSign (s : ReaderState) (c : Char) (rest : List Char) : Option (ReaderState × List Char) :=
  match c with
  | '(' => readGroup s rest
  | ')' => s.closeGroup.map fun s => (s, rest)
  | '|' => some (s.nextBranch, rest)
  | '[' => (readBracket s.flags rest).map fun (p, rest) =>
      (s.push ⟨.item p.cls, p.depth, true⟩, rest)
  | '?' =>
    let (greedy, rest) := readGreed rest
    (s.repeatLast 0 (some 1) greedy).map fun s => (s, rest)
  | '*' =>
    let (greedy, rest) := readGreed rest
    (s.repeatLast 0 none greedy).map fun s => (s, rest)
  | '+' =>
    let (greedy, rest) := readGreed rest
    (s.repeatLast 1 none greedy).map fun s => (s, rest)
  | '\x7b' => do
    let ((least, most), rest) ← readBounds s.flags rest
    let (greedy, rest) := readGreed (s.flags.skip rest)
    let s ← s.repeatLast least most greedy
    return (s, rest)
  | '\\' => do
    let (a, rest) ← readEscape s.flags rest
    let x ← a.expr? s.flags
    return (s.push (.leaf x), rest)
  | '.' => s.flags.dot.map fun x => (s.push (.leaf x), rest)
  | '^' => some (s.push (.leaf (.look s.flags.caret)), rest)
  | '$' => some (s.push (.leaf (.look s.flags.dollar)), rest)
  | c => (s.flags.literal c false).map fun x => (s.push (.leaf x), rest)

/-- Read a text sign by sign.  Each round takes at least one character. -/
def readAll : Nat → ReaderState → List Char → Option ReaderState
  | 0, _, _ => none
  | fuel + 1, s, cs =>
    match s.flags.skip cs with
    | [] => some s
    | c :: rest => (readSign s c rest).bind fun (s, rest) => readAll fuel s rest

/-- What has been read once the text has ended: no group may be open, and the nesting must keep to
its limit. -/
def ReaderState.finish (s : ReaderState) : Option Expr :=
  if s.stack.isEmpty && s.body.depth ≤ depthLimit then some s.body.expr else none

/-- Read a regular expression. -/
def Expr.ofText? (cs : List Char) : Option Expr :=
  (readAll (cs.length + 1) .start cs).bind ReaderState.finish

end UriRouting.Regex
