/-!
# Sets of characters

A set of characters is kept as spans of code points, in ascending order and with a gap between any
two.  `CharSet.insert` keeps that form, and the operations of sets are built from it and from the
difference of two spans.

The surrogates are code points but no characters.  A span may reach across them, and an end that
would fall among them moves to the next character beyond.  The complement takes the span between
two neighbours from the character after the one to the character before the other.  Where only the
surrogates part two neighbours, the first of these two characters stands behind the second: the
span then runs from the last character before the surrogates to the first one after them.
-/

namespace UriRouting.Unicode

/-! ## Spans -/

/-- The code points from `low` to `high`. -/
structure Span where
  low : Nat
  high : Nat
  deriving DecidableEq, Repr

/-- The greatest code point. -/
def lastPoint : Nat := 0x10ffff

/-- The character after a character. -/
def nextPoint (point : Nat) : Nat := if point = 0xd7ff then 0xe000 else point + 1

/-- The character before a character. -/
def previousPoint (point : Nat) : Nat := if point = 0xe000 then 0xd7ff else point - 1

namespace Span

/-- Whether a code point is in a span. -/
def contains (s : Span) (point : Nat) : Bool := s.low ≤ point && point ≤ s.high

/-- The span between two code points, whichever is the greater. -/
def between (a b : Nat) : Span := ⟨min a b, max a b⟩

/-- A span without the surrogates at its ends. -/
def withoutSurrogates? (s : Span) : Option Span :=
  let low := if 0xd800 ≤ s.low && s.low ≤ 0xdfff then 0xe000 else s.low
  let high := if 0xd800 ≤ s.high && s.high ≤ 0xdfff then 0xd7ff else s.high
  if low ≤ high then some ⟨low, high⟩ else none

/-- What two spans share. -/
def inter? (s t : Span) : Option Span :=
  if max s.low t.low ≤ min s.high t.high then some ⟨max s.low t.low, min s.high t.high⟩ else none

/-- What is left of a span without another. -/
def diff (s t : Span) : List Span :=
  if t.low ≤ s.low && s.high ≤ t.high then []
  else if (s.inter? t).isNone then [s]
  else
    (if s.low < t.low then [between s.low (previousPoint t.low)] else []) ++
      (if t.high < s.high then [between (nextPoint t.high) s.high] else [])

end Span

/-! ## Sets -/

/-- A set of characters, as spans in ascending order. -/
structure CharSet where
  spans : List Span
  deriving DecidableEq, Repr

namespace CharSet

/-- Whether a code point is in the set. -/
def containsPoint (a : CharSet) (point : Nat) : Bool := a.spans.any fun s => s.contains point

/-- Whether a character is in the set. -/
def contains (a : CharSet) (c : Char) : Bool := a.containsPoint c.toNat

/-- The set without characters. -/
def none : CharSet := ⟨[]⟩

/-- All characters. -/
def any : CharSet := ⟨[⟨0, lastPoint⟩]⟩

/-- The characters from one to another. -/
def range (low high : Char) : CharSet := ⟨[⟨low.toNat, high.toNat⟩]⟩

/-- A single character. -/
def one (c : Char) : CharSet := range c c

/-- Insert a span among spans in ascending order, joining it with those that it meets. -/
def insertSpan (s : Span) : List Span → List Span
  | [] => [s]
  | t :: rest =>
    if s.high + 1 < t.low then s :: t :: rest
    else if t.high + 1 < s.low then t :: insertSpan s rest
    else insertSpan ⟨min s.low t.low, max s.high t.high⟩ rest

/-- Add the code points of a span. -/
def insert (s : Span) (a : CharSet) : CharSet := ⟨insertSpan s a.spans⟩

/-- The set of the code points in some spans. -/
def ofSpans (spans : List Span) : CharSet := spans.foldr insert none

/-- The characters in either of two sets. -/
def union (a b : CharSet) : CharSet := b.spans.foldr insert a

/-- The characters in any of some sets. -/
def ofList (sets : List CharSet) : CharSet := sets.foldl union none

/-- The characters in both of two sets. -/
def inter (a b : CharSet) : CharSet := ⟨a.spans.flatMap fun s => b.spans.filterMap s.inter?⟩

/-- What is left of a span without some others. -/
def diffSpan (s : Span) (others : List Span) : List Span :=
  others.foldl (fun pieces t => pieces.flatMap fun piece => piece.diff t) [s]

/-- The characters in one set and not in the other. -/
def diff (a b : CharSet) : CharSet := ⟨a.spans.flatMap fun s => diffSpan s b.spans⟩

/-- The characters in just one of two sets. -/
def symmDiff (a b : CharSet) : CharSet := (a.union b).diff (a.inter b)

/-- The spans between the spans of a list and after them, `s` being the span before them. -/
def gapsAfter (s : Span) : List Span → List Span
  | [] => if s.high < lastPoint then [.between (nextPoint s.high) lastPoint] else []
  | t :: rest => .between (nextPoint s.high) (previousPoint t.low) :: gapsAfter t rest

/-- The characters that are not in the set. -/
def compl (a : CharSet) : CharSet :=
  match a.spans with
  | [] => any
  | s :: rest =>
    ⟨(if 0 < s.low then [.between 0 (previousPoint s.low)] else []) ++ gapsAfter s rest⟩

/-- Whether the set keeps to ASCII. -/
def isAscii (a : CharSet) : Bool := a.spans.all fun s => s.high < 128

end CharSet

end UriRouting.Unicode
