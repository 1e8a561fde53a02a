import UriRouting.Unicode.CharSet

/-!
# Spans of characters as spans of octets

In UTF-8 a character is written in one to four octets.  The characters of a span are written by
some sequences of spans of octets, and `Span.octetSpans` lists these in ascending order.  To that
end the span is cut at the surrogates, where the number of octets changes, and where an octet
changes while the octets after it do not run through all their values; `Span.pieces` does the
cutting.  What remains is written octet by octet.
-/

namespace UriRouting.Unicode

namespace Span

/-- A span in two parts, up to a code point and from the one behind it; or just the span, if the
code point does not part it. -/
def cutAfter (point : Nat) (s : Span) : List Span :=
  if s.low ≤ point && point < s.high then [⟨s.low, point⟩, ⟨point + 1, s.high⟩] else [s]

/-- A span without the surrogates, in up to two parts. -/
def cutAtSurrogates (s : Span) : List Span :=
  if s.low < 0xe000 && 0xd7ff < s.high then [⟨s.low, 0xd7ff⟩, ⟨0xe000, s.high⟩] else [s]

/-- Cut a span at the ends of blocks of the given sizes, the least first, so that a part which
leaves a block takes all of it.  `lowAligned` tells that the span is known to start with a block
of the first size. -/
def cutAtBlocks (s : Span) : List Nat → List Span
  | [] => [s]
  | size :: sizes =>
    if s.low / size = s.high / size then [s]
    else
      let next := (s.low / size + 1) * size
      let last := s.high / size * size
      let (head, low) := if s.low % size = 0 then ([], s.low) else ([⟨s.low, next - 1⟩], next)
      if low / size = s.high / size then head ++ [⟨low, s.high⟩]
      else if s.high % size = size - 1 then head ++ cutAtBlocks ⟨low, s.high⟩ sizes
      else head ++ cutAtBlocks ⟨low, last - 1⟩ sizes ++ [⟨last, s.high⟩]

/-- The parts of a span in each of which every octet takes a span of values of its own. -/
def pieces (s : Span) : List Span :=
  (s.cutAtSurrogates.filter fun t => t.low ≤ t.high).flatMap fun t =>
    (t.cutAfter 0x7f).flatMap fun t =>
      (t.cutAfter 0x7ff).flatMap fun t =>
        (t.cutAfter 0xffff).flatMap fun t =>
          if t.high < 0x80 then [t] else t.cutAtBlocks [0x40, 0x1000, 0x40000]

end Span

/-- The octets of a code point in UTF-8. -/
def octets (point : Nat) : List Nat :=
  if point < 0x80 then [point]
  else if point < 0x800 then [0xc0 + point / 0x40, 0x80 + point % 0x40]
  else if point < 0x10000 then
    [0xe0 + point / 0x1000, 0x80 + point / 0x40 % 0x40, 0x80 + point % 0x40]
  else
    [0xf0 + point / 0x40000, 0x80 + point / 0x1000 % 0x40, 0x80 + point / 0x40 % 0x40,
      0x80 + point % 0x40]

/-- The sequences of spans of octets by which the characters of a span are written. -/
def Span.octetSpans (s : Span) : List (List Span) :=
  s.pieces.map fun t => List.zipWith Span.mk (octets t.low) (octets t.high)

end UriRouting.Unicode
