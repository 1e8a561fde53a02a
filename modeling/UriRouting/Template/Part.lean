import UriRouting.Error

/-!
# The parts of a template

A dynamic template is text with holes in it.  In a variable template a hole is a name in braces,
in a pattern template it is what stands between a `(` and the next `)`.  `variableParts` and
`patternParts` cut the canonical text of a template into its parts, and check the text between the
holes on the way: a NUL or a `*` there would be taken for a mark of the key.

The two differ in what an opening sign without a closing one means.  A variable that is not closed
is a fault, found before the text in front of it is looked at; a group that is not closed is plain
text.
-/

namespace UriRouting

/-- A part of a dynamic template: text, or what stands inside a hole. -/
inductive TemplatePart where
  | run (text : List Char)
  | hole (inner : List Char)
  deriving DecidableEq, Repr

namespace TemplatePart

/-- The sign that stands for a hole in a key. -/
def wildcard : Char := '*'

/-- The sign that ends a key. -/
def terminator : Char := '\x00'

/-- Check the text between holes for the marks of the key. -/
def checkRun (text : List Char) : Except TemplateFault Unit :=
  if text.contains terminator then .error .nul
  else if text.contains wildcard then .error .star
  else .ok ()

/-- The parts of a variable template, given the reversed text since the last hole and, inside a
hole, its reversed name. -/
def variablePartsFrom (run : List Char) (name : Option (List Char)) :
    List Char → Except TemplateFault (List TemplatePart)
  | [] =>
    match name with
    | none => (checkRun run.reverse).map fun _ => [.run run.reverse]
    | some _ => .error .openVariable
  | c :: cs =>
    match name with
    | none =>
      if c = '\x7b' then variablePartsFrom run (some []) cs
      else variablePartsFrom (c :: run) none cs
    | some inner =>
      if c = '\x7d' then
        match checkRun run.reverse with
        | .error fault => .error fault
        | .ok _ =>
          (variablePartsFrom [] none cs).map fun rest =>
            .run run.reverse :: .hole inner.reverse :: rest
      else variablePartsFrom run (some (c :: inner)) cs

/-- The parts of a variable template. -/
def variableParts (path : List Char) : Except TemplateFault (List TemplatePart) :=
  variablePartsFrom [] none path

/-- The parts of a pattern template, given the reversed text since the last hole and, inside a hole,
its reversed text. -/
def patternPartsFrom (run : List Char) (group : Option (List Char)) :
    List Char → Except TemplateFault (List TemplatePart)
  | [] =>
    let tail :=
      match group with
      | none => run.reverse
      | some inner => run.reverse ++ '(' :: inner.reverse
    (checkRun tail).map fun _ => [.run tail]
  | c :: cs =>
    match group with
    | none =>
      if c = '(' then patternPartsFrom run (some []) cs
      else patternPartsFrom (c :: run) none cs
    | some inner =>
      if c = ')' then
        match checkRun run.reverse with
        | .error fault => .error fault
        | .ok _ =>
          (patternPartsFrom [] none cs).map fun rest =>
            .run run.reverse :: .hole inner.reverse :: rest
      else patternPartsFrom run (some (c :: inner)) cs

/-- The parts of a pattern template. -/
def patternParts (path : List Char) : Except TemplateFault (List TemplatePart) :=
  patternPartsFrom [] none path

/-- The shape of a template: its text with a single sign in place of every hole, and the sign that
ends it. -/
def shape (parts : List TemplatePart) : List Char :=
  (parts.flatMap fun
    | .run text => text
    | .hole _ => [wildcard]) ++ [terminator]

end TemplatePart

end UriRouting
