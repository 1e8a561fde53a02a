/-!
# Paths and their canonical form

A path is text that starts with `/`.  Its segments are the pieces between slashes, and the
canonical form spells only those that matter: an empty segment and `.` say nothing, `..` takes back
the segment before it, and the canonical text is `/` followed by what is left, joined by `/`.  Two
spellings of one location have the same canonical form, which is what the routing tables are keyed
by.

`Path.walk` reads the segments once, from left to right, and keeps them in a `Trail`: the segments
still standing, each with the place where it starts, and the running total of their lengths.
`Path.normalize` writes the trail down.  Places and lengths are counted in bytes of UTF-8, the unit
in which the text is stored; a segment holds whole characters, so no place ever falls inside one.
-/

namespace UriRouting.Path

/-- Why a text has no canonical form: it does not start with `/`, or a `..` in it finds no segment
to take back. -/
inductive Fault where
  | relative
  | aboveRoot
  deriving DecidableEq, Repr

/-- The number of bytes that the characters take in UTF-8. -/
def byteLength : List Char → Nat
  | [] => 0
  | c :: cs => c.utf8Size + byteLength cs

/-- A piece of a path between two slashes, with the byte at which it starts. -/
structure Segment where
  start : Nat
  text : List Char
  deriving DecidableEq, Repr

namespace Segment

/-- The length of the segment in bytes. -/
def length (s : Segment) : Nat := byteLength s.text

/-- The byte just after the segment. -/
def stop (s : Segment) : Nat := s.start + s.length

/-- An empty segment and `.` leave the location as it is. -/
def isSilent (s : Segment) : Bool := s.text == [] || s.text == ['.']

/-- `..` takes back the segment before it. -/
def isParent (s : Segment) : Bool := s.text == ['.', '.']

end Segment

/-- Cut a text at its slashes.  `start` is the byte at which the text begins. -/
def segmentsFrom (start : Nat) : List Char → List Segment
  | [] => [⟨start, []⟩]
  | c :: cs =>
    if c = '/' then ⟨start, []⟩ :: segmentsFrom (start + 1) cs
    else
      match segmentsFrom (start + c.utf8Size) cs with
      | [] => [⟨start, [c]⟩]
      | s :: rest => ⟨start, c :: s.text⟩ :: rest

/-- The segments that stand so far, the last one first, and the sum of their lengths. -/
structure Trail where
  segments : List Segment
  total : Nat
  deriving DecidableEq, Repr

namespace Trail

/-- The trail of `/`, on which no segment stands. -/
def root : Trail := ⟨[], 0⟩

/-- Read one more segment. -/
def step (t : Trail) (s : Segment) : Except Fault Trail :=
  if s.isSilent then .ok t
  else if s.isParent then
    match t.segments with
    | [] => .error .aboveRoot
    | last :: above => .ok ⟨above, t.total - last.length⟩
  else .ok ⟨s :: t.segments, t.total + s.length⟩

/-- The path that the trail stands for. -/
def text (t : Trail) : List Char :=
  match t.segments with
  | [] => ['/']
  | segments => segments.reverse.flatMap fun s => '/' :: s.text

end Trail

/-- The trail of a path, or why the text is no path. -/
def walk : List Char → Except Fault Trail
  | '/' :: rest => (segmentsFrom 1 rest).foldlM Trail.step Trail.root
  | _ => .error .relative

/-- The canonical form of a path. -/
def normalize (raw : String) : Except Fault String :=
  (walk raw.toList).map fun t => String.ofList t.text

end UriRouting.Path
