import UriRouting.Regex.Expr.Escape

/-!
# Bracketed classes

A class in brackets lists characters, ranges, escapes and further classes, may be negated, and may
combine such lists by intersection, difference and symmetric difference, which bind equally and to
the left.  `readBracket` reads one with a stack of the brackets that are open; each knows what has
been listed in it and the left operand that waits for its right one.

Every class is read together with its nesting depth, on which there is a limit.
-/

namespace UriRouting.Regex

open Unicode

/-- A class that has been read, with its nesting depth. -/
structure ClassPiece where
  cls : CharClass
  depth : Nat
  deriving DecidableEq, Repr

/-- An operation between lists. -/
inductive SetOp where
  | inter
  | diff
  | symmDiff
  deriving DecidableEq, Repr

/-- Apply an operation to two classes. -/
def SetOp.apply : SetOp → CharClass → CharClass → CharClass
  | inter => CharSet.inter
  | diff => CharSet.diff
  | symmDiff => CharSet.symmDiff

/-- An open bracket. -/
structure Bracket where
  negated : Bool
  /-- The operation whose right operand is being read, with its left operand. -/
  waiting : Option (SetOp × ClassPiece)
  /-- What the list being read holds, the last one first. -/
  items : List ClassPiece
  deriving DecidableEq, Repr

namespace Bracket

/-- List one more class. -/
def add (b : Bracket) (p : ClassPiece) : Bracket := { b with items := p :: b.items }

/-- The list that has been read, as one class. -/
def listed (b : Bracket) : ClassPiece :=
  match b.items with
  | [] => ⟨.none, 0⟩
  | [p] => ⟨.ofList [p.cls], p.depth⟩
  | ps => ⟨.ofList (ps.reverse.map ClassPiece.cls), 1 + (ps.map ClassPiece.depth).foldl max 0⟩

/-- What has been read so far, as one class. -/
def operand (f : Flags) (b : Bracket) : ClassPiece :=
  match b.waiting with
  | none => b.listed
  | some (op, left) =>
    ⟨.ofList [op.apply (f.foldCase left.cls) (f.foldCase b.listed.cls)],
      1 + max left.depth b.listed.depth⟩

/-- Start the right operand of an operation. -/
def operate (f : Flags) (b : Bracket) (op : SetOp) : Bracket :=
  ⟨b.negated, some (op, b.operand f), []⟩

/-- The class that the bracket stands for once it is closed. -/
def close (f : Flags) (b : Bracket) : Option ClassPiece :=
  (f.finishClass b.negated (b.operand f).cls).map fun a => ⟨a, 1 + (b.operand f).depth⟩

end Bracket

/-- Read the hyphens with which a list may start, each of which stands for itself. -/
def readHyphens (f : Flags) (items : List ClassPiece) :
    Nat → List Char → Option (List ClassPiece × List Char)
  | 0, _ => none
  | fuel + 1, cs =>
    match cs with
    | [] => none
    | '-' :: rest => readHyphens f (⟨.one '-', 0⟩ :: items) fuel (f.skip rest)
    | cs => some (items, cs)

/-- Read the sign of negation with which a bracket may start. -/
def readNegation (f : Flags) (cs : List Char) : Bool × List Char :=
  match f.skip cs with
  | '^' :: rest => (true, f.skip rest)
  | cs => (false, cs)

/-- Read the start of a list: hyphens that stand for themselves, or a closing bracket that does. -/
def readListStart (f : Flags) (negated : Bool) (cs : List Char) :
    Option (Bracket × List Char) :=
  match readHyphens f [] (cs.length + 1) cs with
  | none => none
  | some ([], ']' :: rest) =>
    match f.skip rest with
    | [] => none
    | more => some (⟨negated, none, [⟨.one ']', 0⟩]⟩, more)
  | some (items, rest) => some (⟨negated, none, items⟩, rest)

/-- Read the start of a bracket, the bracket itself having been read. -/
def readOpening (f : Flags) (cs : List Char) : Option (Bracket × List Char) :=
  readListStart f (readNegation f cs).1 (readNegation f cs).2

/-- Read the name of a class of ASCII, and the signs that end it. -/
def readAsciiName (f : Flags) (negated : Bool) (cs : List Char) :
    Option (Option CharClass × List Char) :=
  let name := cs.takeWhile (· != ':')
  match cs.drop name.length with
  | ':' :: ']' :: rest =>
    (CharClass.asciiNamed? (String.ofList name)).map fun a => (f.finishClass negated a, rest)
  | _ => none

/-- Read a class of ASCII such as `[:alpha:]`, the bracket before it having been read. -/
def readAsciiClass (f : Flags) (cs : List Char) : Option (Option CharClass × List Char) :=
  match cs with
  | ':' :: '^' :: rest => readAsciiName f true rest
  | ':' :: rest => readAsciiName f false rest
  | _ => none

/-- Read one item of a list: an escape, or a character that stands for itself. -/
def readItem (f : Flags) : List Char → Option (Atom × List Char)
  | [] => none
  | '\\' :: rest => readEscape f rest
  | c :: rest => some (.char c false, rest)

/-- The character that an item stands for, if it is one; without Unicode it must be of ASCII. -/
def Atom.char? (f : Flags) : Atom → Option Char
  | char c _ => if f.wide || c.toNat < 128 then some c else none
  | cls _ => none
  | look _ => none

/-- The class that an item stands for; an assertion is none. -/
def Atom.class? (f : Flags) : Atom → Option CharClass
  | cls a => some a
  | a => (a.char? f).map .one

/-- Read an item of a list, or a range between two. -/
def readRange (f : Flags) (cs : List Char) : Option (CharClass × List Char) := do
  let (first, rest) ← readItem f cs
  match f.skip rest with
  | [] => none
  | '-' :: more =>
    match f.skip more with
    | [] => none
    | ']' :: _ => (first.class? f).map fun a => (a, '-' :: more)
    | '-' :: _ => (first.class? f).map fun a => (a, '-' :: more)
    | more => do
      let (last, rest) ← readItem f more
      let low ← first.char? f
      let high ← last.char? f
      if low ≤ high then some (.range low high, rest) else none
  | rest => (first.class? f).map fun a => (a, rest)

/-- Read the rest of a bracketed class, given the brackets that are open, the innermost first.  Each
round takes at least one character. -/
def readBrackets (f : Flags) : Nat → List Bracket → List Char → Option (ClassPiece × List Char)
  | 0, _, _ => none
  | _, [], _ => none
  | fuel + 1, b :: below, cs =>
    match f.skip cs with
    | [] => none
    | '[' :: rest =>
      match readAsciiClass f rest with
      | some (none, _) => none
      | some (some a, rest) => readBrackets f fuel (b.add ⟨a, 0⟩ :: below) rest
      | none =>
        match readOpening f rest with
        | none => none
        | some (inner, rest) => readBrackets f fuel (inner :: b :: below) rest
    | ']' :: rest =>
      match b.close f, below with
      | none, _ => none
      | some p, [] => some (p, rest)
      | some p, outer :: more => readBrackets f fuel (outer.add p :: more) rest
    | '&' :: '&' :: rest => readBrackets f fuel (b.operate f .inter :: below) rest
    | '-' :: '-' :: rest => readBrackets f fuel (b.operate f .diff :: below) rest
    | '~' :: '~' :: rest => readBrackets f fuel (b.operate f .symmDiff :: below) rest
    | cs =>
      match readRange f cs with
      | none => none
      | some (a, rest) => readBrackets f fuel (b.add ⟨a, 0⟩ :: below) rest

/-- Read a bracketed class, the opening bracket having been read. -/
def readBracket (f : Flags) (cs : List Char) : Option (ClassPiece × List Char) := do
  let (b, rest) ← readOpening f cs
  readBrackets f (rest.length + 1) [b] rest

end UriRouting.Regex
