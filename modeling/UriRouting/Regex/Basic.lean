import UriRouting.Regex.Automaton.Size
import UriRouting.Regex.Expr.Reader
import UriRouting.Regex.Search

/-!
# Compiled regular expressions

`Regex.ofText?` compiles the text of a regular expression.  A text that is not a regular expression
is refused, and so is one whose automata would outgrow `sizeLimit`, which `Expr.fits` finds out.
What is searched for is the normal form of the expression.

`Regex.captures?` is the first match in a text, as the texts of the groups: the groups are numbered
from one to the last that can take part, and one that took no part has no text.
-/

namespace UriRouting

open Regex

/-- A compiled regular expression. -/
structure Regex where
  source : String
  plan : Plan
  /-- The names of the groups, from the first one on. -/
  groupNames : List (Option String)
  deriving DecidableEq, Repr

namespace Regex

/-- The names of the groups from one to the last that can take part. -/
def groupTable (groups : List (Nat × Option String)) : List (Option String) :=
  (List.range ((groups.map Prod.fst).foldl max 0)).map fun i => (groups.lookup (i + 1)).join

/-- Make an expression ready for search. -/
def ofExpr (source : String) (x : Expr) : Regex :=
  ⟨source, (Plan.ofExpr (Normal.ofExpr x).expr 0).1, groupTable x.groups⟩

/-- Compile the text of a regular expression. -/
def ofText? (source : String) : Option Regex :=
  (Expr.ofText? source.toList).bind fun x =>
    if x.fits then some (ofExpr source x) else none

/-- The texts of the groups in the first match, from the first group on. -/
def captures? (r : Regex) (text : List Char) : Option (List (Option (List Char))) :=
  (r.plan.search text).map fun g => (List.range r.groupNames.length).map fun i => g.lookup (i + 1)

/-- Whether the expression matches anywhere in a text. -/
def isMatch (r : Regex) (text : List Char) : Bool := (r.plan.search text).isSome

end Regex

end UriRouting
