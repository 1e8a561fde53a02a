import UriRouting.Regex.Basic
import UriRouting.Template.Part
import UriRouting.Template.Style
import UriRouting.Text.Utf8

/-!
# Templates

A template is compiled into a key and, if it is dynamic, a regular expression.  The key is the
canonical text in bytes with a `*` for every hole and a NUL at the end; the trie knows a route by
its key alone.  The regular expression is anchored at both ends; it checks a whole path and yields
the values of the holes.

`Template.compile` compiles a text in a given style and says why it cannot.  `Template.capture?`
matches a canonical path.
-/

namespace UriRouting

/-- A compiled template. -/
structure Template where
  /-- The canonical text. -/
  path : String
  /-- The bytes under which the template is kept, a NUL last. -/
  key : List UInt8
  /-- The expression of a dynamic template. -/
  regex : Option Regex
  style : TemplateStyle
  deriving DecidableEq, Repr

/-- What a path holds in the place of a template's holes. -/
inductive PathParams where
  | none
  /-- The values of variables, in the order of the template. -/
  | named (values : List (String × String))
  /-- The texts of groups; a group that took no part has the empty text. -/
  | positional (values : List String)
  deriving DecidableEq, Repr

namespace PathParams

/-- Whether there were holes. -/
def isPresent : PathParams → Bool
  | none => false
  | named _ => true
  | positional _ => true

/-- The value of a variable. -/
def param? (p : PathParams) (name : String) : Option String :=
  match p with
  | named values => values.lookup name
  | _ => Option.none

/-- The text of a group; groups are counted from one. -/
def group? (p : PathParams) (index : Nat) : Option String :=
  match p with
  | positional values => if index = 0 then Option.none else values[index - 1]?
  | _ => Option.none

end PathParams

namespace Template

open TemplatePart

/-- The bytes of a shape. -/
def keyOf (shape : List Char) : List UInt8 := Text.utf8 shape

/-- The regular expression that a hole of a variable template stands for: any text within a segment,
under the name of the variable. -/
def variableGroup (name : List Char) : List Char :=
  "(?<".toList ++ name ++ ">[^/]*)".toList

/-- The body of a variable template's expression.  The text between the variables stands for itself
if it is escaped, and is part of the expression as it is otherwise. -/
def variableBody (escaped : Bool) (parts : List TemplatePart) : List Char :=
  parts.flatMap fun
    | .run text => if escaped then Regex.escape text else text
    | .hole name => variableGroup name

/-- The text of an expression that has to match a path from its start to its end. -/
def anchored (body : List Char) : String := String.ofList ('^' :: (body ++ ['$']))

/-- Compile the expression of a template. -/
def compileRegex (template : String) (body : List Char) : Except RouteError Regex :=
  match Regex.ofText? (anchored body) with
  | some r => .ok r
  | none => .error (.invalidPattern template)

/-- Name the template that a fault was found in. -/
def unsupported {α : Type} (template : String) : Except TemplateFault α → Except RouteError α :=
  Except.mapError (.unsupportedTemplate template)

/-- A template that stands for itself. -/
def literal (template : String) : Except RouteError Template := do
  let path ← canonicalPath template
  if path.toList.contains '\x7b' || path.toList.contains '(' then
    .error (.unsupportedTemplate template .dynamicLiteral)
  else if path.toList.contains terminator then
    .error (.unsupportedTemplate template .nul)
  else
    .ok ⟨path, keyOf (path.toList ++ [terminator]), none, .literal⟩

/-- A template with variables; `escaped` tells whether the text around them stands for itself. -/
def variableTemplate (template : String) (escaped : Bool) : Except RouteError Template := do
  let path ← canonicalPath template
  if path.toList.contains '\x7b' then do
    let parts ← unsupported template (variableParts path.toList)
    let regex ← compileRegex template (variableBody escaped parts)
    .ok ⟨path, keyOf (shape parts), some regex, .variable⟩
  else .error (.unsupportedTemplate template (.noVariable (path.toList.contains '(')))

/-- A template that is a regular expression with groups. -/
def pattern (template : String) : Except RouteError Template := do
  let path ← canonicalPath template
  if path.toList.contains '(' then do
    let parts ← unsupported template (patternParts path.toList)
    let regex ← compileRegex template path.toList
    .ok ⟨path, keyOf (shape parts), some regex, .pattern⟩
  else .error (.unsupportedTemplate template (.noGroup (path.toList.contains '\x7b')))

/-- Compile a template in a given style. -/
def compile (style : TemplateStyle) (template : String) (escaped : Bool) :
    Except RouteError Template :=
  match style with
  | .literal => literal template
  | .variable => variableTemplate template escaped
  | .pattern => pattern template

/-- Whether the template has no holes. -/
def isLiteral (t : Template) : Bool := t.regex.isNone

/-- The values of the named groups that took part in a match. -/
def namedValues (r : Regex) (texts : List (Option (List Char))) : List (String × String) :=
  (r.groupNames.zip texts).filterMap fun
    | (some name, some text) => some (name, String.ofList text)
    | _ => none

/-- Match a whole canonical path, and take the values of the holes from it. -/
def capture? (t : Template) (path : String) : Option PathParams :=
  match t.regex with
  | none => if t.path = path then some .none else none
  | some r =>
    (r.captures? path.toList).map fun texts =>
      match t.style with
      | .variable => .named (namedValues r texts)
      | _ => .positional (texts.map fun text => String.ofList (text.getD []))

end Template

end UriRouting
