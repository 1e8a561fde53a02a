import UriRouting.Alias
import UriRouting.Event
import UriRouting.ExactTable
import UriRouting.Text.Quoted
import UriRouting.Trie.Basic

/-!
# The router

A `Router` holds, for every method, a table of literal routes and a trie of dynamic ones, and the
aliases in the order in which they are tried.  It is built once and then only read.

`Router.lookup` makes a path canonical and asks four times: the table for the path, the table for
the path that an alias makes of it, the trie for the path, the trie for the aliased path.  The
first hit is the answer.  `Router.resolve` adds what an observer sees of it.
-/

namespace UriRouting

/-- Who is told of every lookup: one that counts the calls, or one that logs them. -/
inductive Observer where
  | counting
  | tracing
  deriving DecidableEq, Repr

/-- What a lookup answers, with the events and the counted calls that it leaves behind. -/
structure Resolution (H : Type) where
  answer : Except RouteError (Option (Match H))
  events : List Event
  calls : Nat

/-- A router. -/
structure Router (H : Type) where
  aliases : List Alias
  exact : MethodMap (ExactTable H)
  tries : MethodMap (RouteTrie H)
  observer : Option Observer

namespace Router

variable {H : Type}

/-- The mapping of a literal route as a match. -/
def literalMatch (m : Mapping H) : Match H := ⟨m, .none⟩

/-- The route that serves a canonical path. -/
def find (r : Router H) (method : Method) (path : String) : Option (Match H) :=
  let aliased := Alias.standIn? r.aliases path
  (((r.exact.get method).get? path).map literalMatch) <|>
    ((aliased.bind (r.exact.get method).get?).map literalMatch) <|>
    (r.tries.get method).lookup path <|>
    aliased.bind (r.tries.get method).lookup

/-- The route that serves a path as it was requested, with the events of the lookup. -/
def lookup (r : Router H) (method : Method) (raw : String) :
    Except RouteError (Option (Match H)) × List Event :=
  match canonicalPath raw with
  | .error e => (.error e, [])
  | .ok path =>
    match r.find method path with
    | some found => (.ok (some found), [])
    | none => (.ok none, [.noRoute method path])

/-- What an observer makes of one call. -/
def observation (observer : Option Observer) : List Event × Nat :=
  match observer with
  | none => ([], 0)
  | some .counting => ([], 1)
  | some .tracing => ([.routeResolved], 0)

/-- Resolve a path as it was requested, and tell the observer. -/
def resolve (r : Router H) (method : Method) (raw : String) : Resolution H :=
  let (answer, events) := r.lookup method raw
  let (seen, calls) := observation r.observer
  ⟨answer, events ++ seen, calls⟩

/-- The number of literal routes of a method. -/
def literalCount (r : Router H) (method : Method) : Nat := (r.exact.get method).size

/-- The number of dynamic routes of a method. -/
def dynamicCount (r : Router H) (method : Method) : Nat := (r.tries.get method).size

/-- The sum of a count over all methods. -/
def total (count : Method → Nat) : Nat := Method.all.foldl (fun sum m => sum + count m) 0

/-- The router in one line, for logs. -/
def describe (r : Router H) : String :=
  let aliases := r.aliases.map fun a =>
    "(" ++ Text.quote a.front ++ ", " ++ Text.quote a.target ++ ")"
  "Router \x7b aliases: [" ++ ", ".intercalate aliases ++
    "], literal: " ++ toString (total r.literalCount) ++
    ", dynamic: " ++ toString (total r.dynamicCount) ++
    ", observer: " ++ (if r.observer.isSome then "true" else "false") ++ " \x7d"

end Router

end UriRouting
