import UriRouting.Text.Digit
import UriRouting.Unicode.CharSet

/-!
# Texts of runs

The data of Unicode are kept as lines of text, and this file reads them.  A set is written as the
lengths of the alternating runs of code points outside and inside it (`CharSet.ofRuns`).  A table
that gives every code point a tag is written as words, each the length of a run followed by its
tag (`taggedRuns`); the set of the code points whose tag satisfies a condition is
`CharSet.ofTags`.  The names of the tags stand in lines of their own, in which a word with a
capital letter is a tag and the words after it are its names (`tagNamed?`).
-/

namespace UriRouting.Unicode

/-- The decimal numbers in a text, `current` being the one that has begun. -/
def numbersFrom (current : Option Nat) : List Char → List Nat
  | [] => current.toList
  | c :: cs =>
    if c.isDigit then numbersFrom (some (current.getD 0 * 10 + Text.digitValue c)) cs
    else
      match current with
      | none => numbersFrom none cs
      | some n => n :: numbersFrom none cs

/-- The decimal numbers in some lines of text. -/
def numbers (lines : List String) : List Nat :=
  lines.flatMap fun line => numbersFrom none line.toList

/-- The words of a text, `current` being the reversed word that has begun. -/
def wordsFrom (current : List Char) : List Char → List (List Char)
  | [] => if current.isEmpty then [] else [current.reverse]
  | c :: cs =>
    if c = ' ' then
      if current.isEmpty then wordsFrom [] cs else current.reverse :: wordsFrom [] cs
    else wordsFrom (c :: current) cs

/-- The words in some lines of text, which blanks part. -/
def words (lines : List String) : List (List Char) :=
  lines.flatMap fun line => wordsFrom [] line.toList

/-! ## Sets -/

/-- The spans of the runs inside a set, given the lengths of the runs outside and inside it from
`start` on. -/
def spansOfRuns (start : Nat) : List Nat → List Span
  | outside :: inside :: rest =>
    ⟨start + outside, start + outside + inside - 1⟩ :: spansOfRuns (start + outside + inside) rest
  | [outside] => [⟨start + outside, lastPoint⟩]
  | [] => []

/-- The set that some lines of text describe by its runs. -/
def CharSet.ofRuns (lines : List String) : CharSet := ⟨spansOfRuns 0 (numbers lines)⟩

/-- A binary property: its names and the runs of the characters that have it. -/
structure PropertyRuns where
  names : List String
  runs : List String

/-! ## Tables of tags -/

/-- The runs in some lines of text, each with its length and its tag. -/
def taggedRuns (lines : List String) : List (Nat × String) :=
  (words lines).map fun w =>
    ((numbersFrom none (w.takeWhile Char.isDigit)).headD 0,
      String.ofList (w.dropWhile Char.isDigit))

/-- Put a span before spans in ascending order, joining it with the first of them if that follows at
once. -/
def consSpan (s : Span) : List Span → List Span
  | [] => [s]
  | t :: rest => if s.high + 1 = t.low then ⟨s.low, t.high⟩ :: rest else s :: t :: rest

/-- The spans of the runs whose tag satisfies a condition, from `start` on. -/
def spansOfTags (p : String → Bool) (start : Nat) : List (Nat × String) → List Span
  | [] => []
  | (length, tag) :: rest =>
    if p tag then consSpan ⟨start, start + length - 1⟩ (spansOfTags p (start + length) rest)
    else spansOfTags p (start + length) rest

/-- The characters whose tag satisfies a condition. -/
def CharSet.ofTags (p : String → Bool) (runs : List (Nat × String)) : CharSet :=
  ⟨(spansOfTags p 0 runs).filterMap Span.withoutSurrogates?⟩

/-- Find a name among words, `current` being the tag whose names they are. -/
def findTag (name : String) (current : Option String) : List (List Char) → Option String
  | [] => none
  | w :: ws =>
    if w.any Char.isUpper then findTag name (some (String.ofList w)) ws
    else if String.ofList w == name then current
    else findTag name current ws

/-- The tag that has the given name. -/
def tagNamed? (lines : List String) (name : String) : Option String :=
  findTag name none (words lines)

/-- The tags in lines of names, in their order. -/
def tagsOf (lines : List String) : List String :=
  ((words lines).filter fun w => w.any Char.isUpper).map String.ofList

end UriRouting.Unicode
