import UriRouting.Path
import UriRouting.Text.Front

/-!
# Aliases

An alias lets the paths under one canonical path, its front, be served as if they stood under
another, its target.  It applies to a path that equals the front or goes on after it with a `/`;
the front `/` applies to every path.  Of several aliases that apply the longest front is taken,
and among fronts of one length the one that was registered first: `Alias.sort` brings them into
the order in which they are tried.
-/

namespace UriRouting

/-- An alias between canonical paths. -/
structure Alias where
  front : String
  target : String
  deriving DecidableEq, Repr

namespace Alias

/-- The length of the front in bytes. -/
def length (a : Alias) : Nat := Path.byteLength a.front.toList

/-- What is left of a path after the front of an alias that applies to it: nothing, or text that
starts with `/`. -/
def rest? (front path : List Char) : Option (List Char) :=
  if front = ['/'] then some (if path = ['/'] then [] else path)
  else
    match Text.stripFront front path with
    | some [] => some []
    | some ('/' :: rest) => some ('/' :: rest)
    | _ => none

/-- Put what is left of a path after a target. -/
def graft (target rest : List Char) : List Char :=
  if target = ['/'] then (if rest = [] then ['/'] else rest) else target ++ rest

/-- The path for which a path stands by an alias, if it applies. -/
def redirect? (a : Alias) (path : String) : Option String :=
  (rest? a.front.toList path.toList).map fun rest => String.ofList (graft a.target.toList rest)

/-- Put an alias after those that are at least as long. -/
def insert (a : Alias) : List Alias → List Alias
  | [] => [a]
  | b :: rest => if b.length < a.length then a :: b :: rest else b :: insert a rest

/-- The aliases in the order in which they are tried: the longest first, and those of one length in
the order of their registration. -/
def sort (aliases : List Alias) : List Alias := aliases.foldl (fun sorted a => insert a sorted) []

/-- The path for which a path stands by the first alias that applies. -/
def standIn? (aliases : List Alias) (path : String) : Option String :=
  aliases.findSome? fun a => a.redirect? path

end Alias

end UriRouting
