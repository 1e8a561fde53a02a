import UriRouting.Method

/-!
# Events

Registering routes, building a router and resolving paths leave events behind, which a log may keep.
An event has a level, a message and fields; `Event.level`, `Event.message` and `Event.fields` spell
them out.
-/

namespace UriRouting

/-- What registration, building and resolution leave behind. -/
inductive Event where
  | mappingAdded (method : Method) (template : String) (literal : Bool)
  | aliasAdded (front target : String)
  | methodsMissing (template : String)
  | duplicateIgnored (method : Method) (template : String)
  | routerBuilt (literal dynamic aliases : Nat)
  | noRoute (method : Method) (path : String)
  | routeResolved
  deriving DecidableEq, Repr

/-- How urgent an event is. -/
inductive Level where
  | trace
  | debug
  | warn
  deriving DecidableEq, Repr

/-- The name of a level in a log. -/
def Level.name : Level → String
  | trace => "TRACE"
  | debug => "DEBUG"
  | warn => "WARN"

/-- The value of a field.  How long a lookup took is not known to the router's own rules. -/
inductive FieldValue where
  | text (s : String)
  | number (n : Nat)
  | duration
  deriving DecidableEq, Repr

namespace Event

/-- How urgent the event is. -/
def level : Event → Level
  | mappingAdded .. => .trace
  | aliasAdded .. => .trace
  | methodsMissing .. => .warn
  | duplicateIgnored .. => .warn
  | routerBuilt .. => .debug
  | noRoute .. => .trace
  | routeResolved => .trace

/-- The event in words. -/
def message : Event → String
  | mappingAdded .. => "add mapping"
  | aliasAdded .. => "add alias"
  | methodsMissing .. => "route declared without methods"
  | duplicateIgnored .. => "duplicate route ignored, first registration wins"
  | routerBuilt .. => "router built"
  | noRoute .. => "no route"
  | routeResolved => "route resolved"

/-- The fields of the event. -/
def fields : Event → List (String × FieldValue)
  | mappingAdded method template literal =>
    [("method", .text method.name), ("template", .text template),
      ("kind", .text (if literal then "direct" else "pattern"))]
  | aliasAdded front target => [("alias", .text front), ("target", .text target)]
  | methodsMissing template => [("template", .text template)]
  | duplicateIgnored method template =>
    [("method", .text method.name), ("template", .text template)]
  | routerBuilt literal dynamic aliases =>
    [("literal", .number literal), ("dynamic", .number dynamic), ("aliases", .number aliases)]
  | noRoute method path => [("method", .text method.name), ("path", .text path)]
  | routeResolved => [("duration_nanos", .duration)]

end Event

end UriRouting
