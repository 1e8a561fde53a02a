import UriRouting.Regex.Expr

/-!
# Normal forms

Before a regular expression is searched for, and before an automaton is made of it, it is brought
into a form without idle parts: characters that stand one after another are one literal, sequences
and choices are flat, a choice between characters or between classes is a class, what all branches
of a choice start with stands in front of it, and a repetition that changes nothing is gone.
`Normal` is such a form and `Normal.ofExpr` finds it.  Sequences and choices are put together by
`Normal.sequence` and `Normal.choice` alone, which keep the form; their views as lists are
`Normal.factors` and `Normal.branches`.

A normal form matches what the expression matches, but a search may prefer another match: in
`a?a|a?b` the common front `a?` comes to be tried before the branch is chosen, so that `ab` is
preferred to `a`.  `Normal.expr` is the normal form as an expression again, which is what the search
follows.
-/

namespace UriRouting.Regex

open Unicode

/-- A regular expression in normal form. -/
inductive Normal where
  | empty
  | literal (cs : List Char)
  /-- A character of a class, which is neither a single character nor, unless the expression
  cannot match, empty. -/
  | item (a : CharClass)
  | look (l : Look)
  | cat (xs : List Normal)
  | alt (xs : List Normal)
  | group (index : Nat) (name : Option String) (x : Normal)
  | rep (least : Nat) (most : Option Nat) (greedy : Bool) (x : Normal)
  deriving Repr

namespace Normal

/-! ## What an expression can match -/

mutual

/-- Whether no match of the expression takes a character. -/
def isSilent : Normal → Bool
  | empty => true
  | literal _ => false
  | item _ => false
  | look _ => true
  | cat xs => allSilent xs
  | alt xs => allSilent xs
  | group _ _ x => x.isSilent
  | rep _ _ _ x => x.isSilent

/-- Whether all of some expressions are silent. -/
def allSilent : List Normal → Bool
  | [] => true
  | x :: xs => x.isSilent && allSilent xs

end

/-- The lesser of two lengths, if both are known. -/
def lesserLength : Option Nat → Option Nat → Option Nat
  | some m, some n => some (min m n)
  | _, _ => none

mutual

/-- The number of characters that every match takes at least.  None is known if some part of the
expression cannot match. -/
def leastLength? : Normal → Option Nat
  | empty => some 0
  | literal cs => some cs.length
  | item a => if a.spans.isEmpty then none else some 1
  | look _ => some 0
  | cat xs => totalLength? xs
  | alt [] => none
  | alt (x :: xs) => branchLength? x.leastLength? xs
  | group _ _ x => x.leastLength?
  | rep least _ _ x => x.leastLength?.map (· * least)

/-- The least length of some expressions one after another. -/
def totalLength? : List Normal → Option Nat
  | [] => some 0
  | x :: xs => x.leastLength?.bind fun m => (totalLength? xs).map (m + ·)

/-- The least length of a choice, `found` being that of the branches before. -/
def branchLength? (found : Option Nat) : List Normal → Option Nat
  | [] => found
  | x :: xs => branchLength? (lesserLength found x.leastLength?) xs

end

/-- Whether every match takes at least one character. -/
def consumes (x : Normal) : Bool :=
  match x.leastLength? with
  | some n => 0 < n
  | none => false

mutual

/-- Whether every match has to pass an assertion before it takes a character. -/
def startsWith (l : Look) : Normal → Bool
  | empty => false
  | literal _ => false
  | item _ => false
  | look m => m == l
  | cat xs => sequenceStartsWith l xs
  | alt xs => allStartWith l xs
  | group _ _ x => x.startsWith l
  | rep least _ _ x => 0 < least && x.startsWith l

/-- The assertion may stand behind expressions that take no character. -/
def sequenceStartsWith (l : Look) : List Normal → Bool
  | [] => false
  | x :: xs => x.startsWith l || (x.isSilent && sequenceStartsWith l xs)

/-- Whether all branches start with the assertion. -/
def allStartWith (l : Look) : List Normal → Bool
  | [] => true
  | x :: xs => x.startsWith l && allStartWith l xs

end

mutual

/-- Whether every match has to pass an assertion after it has taken its last character. -/
def endsWith (l : Look) : Normal → Bool
  | empty => false
  | literal _ => false
  | item _ => false
  | look m => m == l
  | cat xs => sequenceEndsWith l xs
  | alt xs => allEndWith l xs
  | group _ _ x => x.endsWith l
  | rep least _ _ x => 0 < least && x.endsWith l

/-- The assertion may stand before expressions that take no character. -/
def sequenceEndsWith (l : Look) : List Normal → Bool
  | [] => false
  | x :: xs => sequenceEndsWith l xs || (allSilent xs && x.endsWith l)

/-- Whether all branches end with the assertion. -/
def allEndWith (l : Look) : List Normal → Bool
  | [] => true
  | x :: xs => x.endsWith l && allEndWith l xs

end

/-! ## Comparing -/

mutual

/-- Whether two expressions are the same. -/
def sameAs : Normal → Normal → Bool
  | empty, empty => true
  | literal cs, literal ds => cs == ds
  | item a, item b => a == b
  | look l, look m => l == m
  | cat xs, cat ys => allSame xs ys
  | alt xs, alt ys => allSame xs ys
  | group i n x, group j m y => i == j && n == m && x.sameAs y
  | rep a b g x, rep c d h y => a == c && b == d && g == h && x.sameAs y
  | _, _ => false

/-- Whether two lists of expressions are the same. -/
def allSame : List Normal → List Normal → Bool
  | [], [] => true
  | x :: xs, y :: ys => x.sameAs y && allSame xs ys
  | _, _ => false

end

/-- The number of expressions with which two lists start alike. -/
def commonLength : List Normal → List Normal → Nat
  | x :: xs, y :: ys => if x.sameAs y then commonLength xs ys + 1 else 0
  | _, _ => 0

/-! ## Sequences -/

/-- The expressions that stand one after another. -/
def factors : Normal → List Normal
  | empty => []
  | cat xs => xs
  | x => [x]

/-- The sequence of some factors. -/
def ofFactors : List Normal → Normal
  | [] => empty
  | [x] => x
  | xs => cat xs

/-- One list of factors after another; literals that meet become one. -/
def joinFactors : List Normal → List Normal → List Normal
  | [], ys => ys
  | [literal cs], literal ds :: ys => literal (cs ++ ds) :: ys
  | x :: xs, ys => x :: joinFactors xs ys

/-- One expression after another. -/
def sequence (x y : Normal) : Normal := ofFactors (joinFactors x.factors y.factors)

/-! ## Choices -/

/-- A character of a class. -/
def ofClass (a : CharClass) : Normal :=
  match a.spans with
  | [s] => if s.low = s.high ∧ s.low.isValidChar then literal [Char.ofNat s.low] else item a
  | _ => item a

/-- The expressions that are chosen between. -/
def branches : Normal → List Normal
  | alt xs => xs
  | x => [x]

/-- The class of a literal that is a single character. -/
def characterClass? : Normal → Option CharClass
  | literal [c] => some (.one c)
  | _ => none

/-- The class of an expression that is one. -/
def class? : Normal → Option CharClass
  | item a => some a
  | _ => none

/-- The factors of a sequence; an expression that is no sequence has none here. -/
def sequenceFactors : Normal → List Normal
  | cat xs => xs
  | _ => []

/-- The number of factors that all branches start with. -/
def commonFactors : List Normal → Nat
  | [] => 0
  | x :: xs =>
    xs.foldl (fun n y => min n (commonLength x.sequenceFactors y.sequenceFactors))
      x.sequenceFactors.length

mutual

/-- The number of parts of an expression. -/
def size : Normal → Nat
  | cat xs => sizeAll xs + 1
  | alt xs => sizeAll xs + 1
  | group _ _ x => x.size + 1
  | rep _ _ _ x => x.size + 1
  | _ => 1

/-- The number of parts of some expressions. -/
def sizeAll : List Normal → Nat
  | [] => 0
  | x :: xs => x.size + sizeAll xs

end

/-- A choice between expressions.  A common start is taken out, which leaves a choice between
smaller expressions: `fuel` is at least the size of the branches. -/
def choiceWithin : Nat → List Normal → Normal
  | 0, xs => alt xs
  | fuel + 1, xs =>
    match xs.flatMap branches with
    | [] => item .none
    | [x] => x
    | x :: rest =>
      match (x :: rest).mapM characterClass? <|> (x :: rest).mapM class? with
      | some classes => ofClass (.ofList classes)
      | none =>
        let n := commonFactors (x :: rest)
        if n = 0 then alt (x :: rest)
        else
          sequence (ofFactors (x.sequenceFactors.take n))
            (choiceWithin fuel
              ((x :: rest).map fun y => ofFactors (y.sequenceFactors.drop n)))

/-- A choice between expressions. -/
def choice (xs : List Normal) : Normal := choiceWithin (sizeAll xs) xs

/-- A repetition with the given bounds, unless these change nothing. -/
def bounded (bounds : Nat × Option Nat) (greedy : Bool) (x : Normal) : Normal :=
  match bounds with
  | (0, some 0) => empty
  | (1, some 1) => x
  | (least, most) => rep least most greedy x

/-- A repetition.  What takes no character need not be repeated more than once. -/
def repeated (least : Nat) (most : Option Nat) (greedy : Bool) (x : Normal) : Normal :=
  bounded (if x.isSilent then (min least 1, some (min (most.getD 1) 1)) else (least, most)) greedy x

/-! ## Expressions -/

/-- A choice between the branches of an expression; a single one is no choice. -/
def ofBranches : List Normal → Normal
  | [x] => x
  | xs => choice xs

/-- The normal forms of the branches of an expression. -/
def branchesOfExpr : Expr → List Normal
  | .empty => [empty]
  | .item a => [ofClass a]
  | .look l => [look l]
  | .cat x y => [sequence (ofBranches (branchesOfExpr x)) (ofBranches (branchesOfExpr y))]
  | .alt x y => ofBranches (branchesOfExpr x) :: branchesOfExpr y
  | .group index name x => [group index name (ofBranches (branchesOfExpr x))]
  | .enclosed x => [ofBranches (branchesOfExpr x)]
  | .rep least most greedy x => [repeated least most greedy (ofBranches (branchesOfExpr x))]

/-- The normal form of an expression. -/
def ofExpr (x : Expr) : Normal := ofBranches (branchesOfExpr x)

mutual

/-- A normal form as an expression. -/
def expr : Normal → Expr
  | empty => .empty
  | literal cs => .catList (cs.map fun c => .item (.one c))
  | item a => .item a
  | look l => .look l
  | cat xs => .catList (factorExprs xs)
  | alt [] => .item .none
  | alt (x :: xs) => .altList (x.expr :: branchExprs xs)
  | group index name x => .group index name x.expr
  | rep least most greedy x => .rep least most greedy x.expr

/-- The factors of a sequence as expressions, a literal as its characters. -/
def factorExprs : List Normal → List Expr
  | [] => []
  | literal cs :: xs => cs.map (fun c => .item (.one c)) ++ factorExprs xs
  | x :: xs => x.expr :: factorExprs xs

/-- The branches of a choice as expressions. -/
def branchExprs : List Normal → List Expr
  | [] => []
  | x :: xs => x.expr :: branchExprs xs

end

end Normal

end UriRouting.Regex
