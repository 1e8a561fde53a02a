/-!
# The front of a list

Paths, aliases and keys are compared from the front.  `stripFront` takes a given front off a list,
and `commonLength` counts how far two lists agree.
-/

namespace UriRouting.Text

variable {α : Type} [DecidableEq α]

/-- What is left of a list after the given front, if the list starts with it. -/
def stripFront : List α → List α → Option (List α)
  | [], rest => some rest
  | _ :: _, [] => none
  | a :: front, b :: rest => if a = b then stripFront front rest else none

/-- The number of places from the front in which two lists agree. -/
def commonLength : List α → List α → Nat
  | a :: as, b :: bs => if a = b then commonLength as bs + 1 else 0
  | _, _ => 0

/-- A list starts with a front exactly when it is the front and what is left of it. -/
theorem stripFront_eq_some_iff {front list rest : List α} :
    stripFront front list = some rest ↔ list = front ++ rest := by
  induction front generalizing list with
  | nil => simp [stripFront, eq_comm]
  | cons a front ih =>
    cases list with
    | nil => simp [stripFront]
    | cons b list =>
      by_cases h : a = b
      · simp [stripFront, h, ih]
      · simp [stripFront, h, Ne.symm h]

/-- Two lists have the same front of their common length. -/
theorem take_commonLength (as bs : List α) :
    as.take (commonLength as bs) = bs.take (commonLength as bs) := by
  induction as generalizing bs with
  | nil => simp [commonLength]
  | cons a as ih =>
    cases bs with
    | nil => simp [commonLength]
    | cons b bs =>
      by_cases h : a = b
      · simp [commonLength, h, ih]
      · simp [commonLength, h]

end UriRouting.Text
