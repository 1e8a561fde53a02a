/-!
# Styles of templates

A template is written in one of three styles.  The style decides how the text is read: a literal
template stands for itself, a variable template has holes `{name}`, and a pattern template is a
regular expression with groups.
-/

namespace UriRouting

/-- How a template's text is to be read. -/
inductive TemplateStyle where
  | literal
  | variable
  | pattern
  deriving DecidableEq, Repr

namespace TemplateStyle

/-- The style that a text is written in: a `(` anywhere makes it a pattern, and otherwise a `{`
anywhere makes it a variable template. -/
def infer (template : String) : TemplateStyle :=
  if template.toList.contains '(' then .pattern
  else if template.toList.contains '{' then .variable
  else .literal

/-- The name of a style in a configuration. -/
def name : TemplateStyle → String
  | .literal => "literal"
  | .variable => "variable"
  | .pattern => "pattern"

/-- Every style. -/
def all : List TemplateStyle := [.literal, .variable, .pattern]

/-- The style with the given name. -/
def ofName? (text : String) : Option TemplateStyle :=
  all.find? fun s => s.name == text

end TemplateStyle

end UriRouting
