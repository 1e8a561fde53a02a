import UriRouting.Regex.Expr

/-!
# Plans of search

A `Plan` is a regular expression made ready for search: counted repetitions are written out, what
is left of them are options and two kinds of loop, and every place where the search has a choice
carries a label of its own.  The label is what makes it possible to visit a choice only once at
each place of the text.

The two loops differ in how they are entered.  A `star` starts at its choice, between one more round
and going on; a `plus` starts with a round.  An expression that can match the empty text is repeated
as an optional `plus`, since its first round has to be tried before going on is.
-/

namespace UriRouting.Regex

/-- A regular expression with its choices labelled. -/
inductive Plan where
  | empty
  | item (c : CharClass)
  | look (l : Look)
  | cat (x y : Plan)
  | alt (label : Nat) (x y : Plan)
  | group (index : Nat) (x : Plan)
  | star (label : Nat) (greedy : Bool) (x : Plan)
  | plus (label : Nat) (greedy : Bool) (x : Plan)
  deriving DecidableEq, Repr

namespace Plan

/-- A plan with the first label that it leaves free. -/
abbrev Labelled := Plan × Nat

/-- `count` plans one after another. -/
def copies (make : Nat → Labelled) : Nat → Nat → Labelled
  | 0, next => (empty, next)
  | count + 1, next =>
    let (x, next) := make next
    let (rest, next) := copies make count next
    (cat x rest, next)

/-- A plan or nothing. -/
def optional (greedy : Bool) (x : Plan) (next : Nat) : Labelled :=
  (if greedy then alt next x empty else alt next empty x, next + 1)

/-- Up to `count` plans one after another, each of which may be the last. -/
def upTo (greedy : Bool) (make : Nat → Labelled) : Nat → Nat → Labelled
  | 0, next => (empty, next)
  | count + 1, next =>
    let (x, next) := make next
    let (rest, next) := upTo greedy make count next
    optional greedy (cat x rest) next

/-- At least `count` plans one after another; `consumes` tells whether each takes a character. -/
def atLeast (greedy consumes : Bool) (make : Nat → Labelled) : Nat → Nat → Labelled
  | 0, next =>
    let (x, next) := make next
    if consumes then (star next greedy x, next + 1)
    else optional greedy (plus next greedy x) (next + 1)
  | count + 1, next =>
    let (before, next) := copies make count next
    let (x, next) := make next
    (cat before (plus next greedy x), next + 1)

/-- A repetition with the given bounds. -/
def repeated (bounds : Nat × Option Nat) (greedy consumes : Bool) (make : Nat → Labelled)
    (next : Nat) : Labelled :=
  match bounds with
  | (least, some most) =>
    let (before, next) := copies make least next
    let (rest, next) := upTo greedy make (most - least) next
    (cat before rest, next)
  | (least, none) => atLeast greedy consumes make least next

/-- The plan of an expression, with labels from `next` on. -/
def ofExpr : Expr → Nat → Labelled
  | .empty, next => (empty, next)
  | .item c, next => (item c, next)
  | .look l, next => (look l, next)
  | .cat x y, next =>
    let (x, next) := ofExpr x next
    let (y, next) := ofExpr y next
    (cat x y, next)
  | .alt x y, next =>
    let (x, next) := ofExpr x next
    let (y, next) := ofExpr y next
    (alt next x y, next + 1)
  | .group index _ x, next =>
    let (x, next) := ofExpr x next
    (group index x, next)
  | .enclosed x, next => ofExpr x next
  | .rep least most greedy x, next =>
    repeated (least, most) greedy x.consumes (ofExpr x) next

end Plan

end UriRouting.Regex
