import UriRouting.Regex.CharClass

/-!
# Regular expressions

`Expr` is a regular expression after reading: the flags that were in force have been worked into the
classes, the assertions and the repetitions, and every capturing group has its number.  How an
expression is repeated depends on whether it can match the empty text, which `Expr.consumes` tells.
-/

namespace UriRouting.Regex

/-- An assertion about a place in the text.  The flag of the word assertions tells whether words are
made of all word characters or of those of ASCII alone. -/
inductive Look where
  | textStart
  | textEnd
  | lineStart
  | lineEnd
  | crlfLineStart
  | crlfLineEnd
  | wordBoundary (wide : Bool)
  | noWordBoundary (wide : Bool)
  | wordStart (wide : Bool)
  | wordEnd (wide : Bool)
  | wordStartHalf (wide : Bool)
  | wordEndHalf (wide : Bool)
  deriving DecidableEq, Repr

/-- A regular expression. -/
inductive Expr where
  | empty
  | item (c : CharClass)
  | look (l : Look)
  | cat (x y : Expr)
  | alt (x y : Expr)
  | group (index : Nat) (name : Option String) (x : Expr)
  /-- A group that does not capture: it keeps its inside apart from the choices around it. -/
  | enclosed (x : Expr)
  /-- At least `least` and, if there is a bound, at most `most` times `x`; as often as possible if
  `greedy`, and as seldom as possible otherwise. -/
  | rep (least : Nat) (most : Option Nat) (greedy : Bool) (x : Expr)
  deriving DecidableEq, Repr

namespace Expr

/-- One expression after another. -/
def catList : List Expr → Expr
  | [] => empty
  | [x] => x
  | x :: y :: rest => cat x (catList (y :: rest))

/-- A choice between expressions, the earlier ones preferred. -/
def altList : List Expr → Expr
  | [] => empty
  | [x] => x
  | x :: y :: rest => alt x (altList (y :: rest))

/-- Whether every match of the expression takes at least one character. -/
def consumes : Expr → Bool
  | empty => false
  | item _ => true
  | look _ => false
  | cat x y => x.consumes || y.consumes
  | alt x y => x.consumes && y.consumes
  | group _ _ x => x.consumes
  | enclosed x => x.consumes
  | rep least _ _ x => 0 < least && x.consumes

/-- The capturing groups that can take part in a match, in the order of their numbers.  A group that
is repeated zero times has vanished. -/
def groups : Expr → List (Nat × Option String)
  | empty => []
  | item _ => []
  | look _ => []
  | cat x y => x.groups ++ y.groups
  | alt x y => x.groups ++ y.groups
  | group index name x => (index, name) :: x.groups
  | enclosed x => x.groups
  | rep _ most _ x => if most = some 0 then [] else x.groups

end Expr

end UriRouting.Regex
