import UriRouting.Unicode.RunText
import UriRouting.Unicode.Runs.CaseFold

/-!
# Sets closed under case

Simple case folding parts the characters into kinds that differ in case only: mostly pairs, and a
few kinds with a third or fourth member, such as `k`, `K` and the sign for the kelvin.
`CharSet.caseless` adds to a set the rest of every kind that it meets, and `CharSet.asciiCaseless`
does so for the letters of ASCII alone.
-/

namespace UriRouting.Unicode

/-- Read runs of pairs, four numbers each: the first of the lesser points, their number, the step
from one to the next, and the distance from each to the greater point. -/
def pairsOfRuns : List Nat → List (Nat × Nat)
  | first :: count :: step :: distance :: rest =>
    ((List.range count).map fun i => (first + i * step, first + i * step + distance)) ++
      pairsOfRuns rest
  | _ => []

/-- The pairs of code points that are the same up to case, the lesser of which is the least of its
kind. -/
def casePairs : List (Nat × Nat) := pairsOfRuns (numbers caseRuns)

namespace CharSet

/-- Add a code point. -/
def insertPoint (a : CharSet) (point : Nat) : CharSet := a.insert ⟨point, point⟩

/-- Add the points whose partner in one of the pairs is in another set. -/
def addPartners (pairs : List (Nat × Nat)) (a b : CharSet) : CharSet :=
  pairs.foldr
    (fun (low, high) b =>
      if a.containsPoint low then b.insertPoint high
      else if a.containsPoint high then b.insertPoint low
      else b)
    b

/-- The set closed under simple case folding.  A kind is reached through its least member, so this
takes two rounds: the first one adds the least members, and the second one what else belongs to
their kinds. -/
def caseless (a : CharSet) : CharSet :=
  let b := addPartners casePairs a (ofSpans a.spans)
  addPartners casePairs b b

/-- The pairs of letters of ASCII. -/
def asciiPairs : List (Nat × Nat) := (List.range 26).map fun i => (65 + i, 97 + i)

/-- The set closed under the case of the letters of ASCII. -/
def asciiCaseless (a : CharSet) : CharSet := addPartners asciiPairs a (ofSpans a.spans)

end CharSet

end UriRouting.Unicode
