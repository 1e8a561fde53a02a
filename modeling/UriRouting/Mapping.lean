import UriRouting.Template.Basic

/-!
# Declarations, mappings and matches

A route is declared by its methods, its template and the handler that serves it.  Compiled, it is
a `Mapping`, which the tables of several methods may share; a lookup that hits gives a `Match`,
the mapping together with what the path holds in the template's holes.  Handlers are of any type:
they are stored and given back, and nothing is ever done with them.
-/

namespace UriRouting

/-- A route as it is declared. -/
structure Declaration (H : Type) where
  methods : List Method
  template : String
  style : TemplateStyle
  handler : H
  deriving DecidableEq, Repr

/-- A declaration in the style that its template is written in, or in the one that is given. -/
def Declaration.make {H : Type} (methods : List Method) (template : String)
    (style : Option TemplateStyle) (handler : H) : Declaration H :=
  ⟨methods, template, style.getD (.infer template), handler⟩

/-- A compiled route. -/
structure Mapping (H : Type) where
  methods : List Method
  template : Template
  handler : H
  deriving DecidableEq, Repr

/-- A route that serves a path, with the values that the path holds. -/
structure Match (H : Type) where
  mapping : Mapping H
  params : PathParams
  deriving DecidableEq, Repr

end UriRouting
