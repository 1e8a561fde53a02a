import UriRouting.Router

/-!
# Building a router

A `Builder` takes declarations and aliases one after another.  A declaration is compiled at once
and registered under each of its methods, unless a route with the same key is registered there
already: then the policy for duplicates decides whether the earlier route stays or the declaration
is refused.  A declaration is registered as a whole or not at all.

Every operation gives back a `Registration`: the builder after it, the events on the way, and the
refusal at which it ended, if it did.

`Builder.build` fills the tables of a new router in the order of registration, and leaves the
builder as it is.
-/

namespace UriRouting

/-- What happens to a route whose key is registered already. -/
inductive DuplicatePolicy where
  /-- The earlier route stays, and a warning is left behind. -/
  | ignore
  /-- The declaration is refused. -/
  | reject
  deriving DecidableEq, Repr

namespace DuplicatePolicy

/-- The name of a policy in a configuration. -/
def name : DuplicatePolicy → String
  | ignore => "ignore"
  | reject => "reject"

/-- The policy with the given name. -/
def ofName? (text : String) : Option DuplicatePolicy :=
  [ignore, reject].find? fun p => p.name == text

end DuplicatePolicy

/-- How routes are compiled and registered. -/
structure RouterOptions where
  /-- Let the text around variables stand for itself. -/
  escapeLiterals : Bool := false
  duplicates : DuplicatePolicy := .ignore
  deriving DecidableEq, Repr

/-- What a route is registered under.  Literal and dynamic routes never meet, since they are kept
apart. -/
structure RouteKey where
  method : Method
  literal : Bool
  key : List UInt8
  deriving DecidableEq, Repr

/-- Routes, aliases and options for a router to come. -/
structure Builder (H : Type) where
  options : RouterOptions
  /-- The registered routes, in the order of their registration. -/
  routes : List (Method × Mapping H)
  /-- The keys of the registered routes. -/
  seen : List RouteKey
  /-- The aliases, in the order of their registration. -/
  aliases : List Alias
  observer : Option Observer

/-- What comes of an operation on a builder. -/
structure Registration (H : Type) where
  builder : Builder H
  events : List Event
  refusal : Option RouteError

namespace Registration

variable {H : Type}

/-- Go on with another operation, unless there was a refusal. -/
def andThen (r : Registration H) (next : Builder H → Registration H) : Registration H :=
  match r.refusal with
  | some _ => r
  | none =>
    let s := next r.builder
    ⟨s.builder, r.events ++ s.events, s.refusal⟩

end Registration

namespace Builder

variable {H : Type}

/-- A builder without routes. -/
def withOptions (options : RouterOptions) : Builder H := ⟨options, [], [], [], none⟩

/-- The key of a template under a method. -/
def routeKey (t : Template) (method : Method) : RouteKey := ⟨method, t.isLiteral, t.key⟩

/-- The methods of a declaration without repetitions, in the order in which they come first. -/
def uniqueMethods (methods : List Method) : List Method :=
  methods.foldl (fun unique m => if unique.contains m then unique else unique ++ [m]) []

/-- The first of the methods under which the template is registered already. -/
def taken? (b : Builder H) (t : Template) (methods : List Method) : Option Method :=
  methods.find? fun m => b.seen.contains (routeKey t m)

/-- The methods under which the template is new. -/
def fresh (b : Builder H) (t : Template) (methods : List Method) : List Method :=
  methods.filter fun m => !b.seen.contains (routeKey t m)

/-- Register a mapping under some methods. -/
def register (b : Builder H) (m : Mapping H) (methods : List Method) : Builder H :=
  { b with
    routes := b.routes ++ methods.map fun method => (method, m)
    seen := b.seen ++ methods.map (routeKey m.template) }

/-- The warnings about a declaration: that it has no methods, and what is registered already. -/
def warnings (b : Builder H) (t : Template) (methods : List Method) : List Event :=
  (if methods.isEmpty then [.methodsMissing t.path] else []) ++
    (methods.filter fun m => b.seen.contains (routeKey t m)).map fun m => .duplicateIgnored m t.path

/-- Register a compiled declaration. -/
def addCompiled (b : Builder H) (methods : List Method) (t : Template) (handler : H) :
    Registration H :=
  match b.options.duplicates, b.taken? t methods with
  | .reject, some method => ⟨b, [], some (.duplicateRoute method t.path)⟩
  | _, _ =>
    ⟨b.register ⟨methods, t, handler⟩ (b.fresh t methods),
      b.warnings t methods ++
        (b.fresh t methods).map fun m => .mappingAdded m t.path t.isLiteral,
      none⟩

/-- Compile a declaration and register it under each of its methods. -/
def addRoute (b : Builder H) (d : Declaration H) : Registration H :=
  match Template.compile d.style d.template b.options.escapeLiterals with
  | .error e => ⟨b, [], some e⟩
  | .ok t => b.addCompiled (uniqueMethods d.methods) t d.handler

/-- Register declarations in order, up to the first that is refused. -/
def addRoutes (b : Builder H) : List (Declaration H) → Registration H
  | [] => ⟨b, [], none⟩
  | d :: rest => (b.addRoute d).andThen fun b => b.addRoutes rest

/-- Serve the paths under `front` as if they stood under `target`. -/
def addAlias (b : Builder H) (front target : String) : Registration H :=
  match canonicalPath front with
  | .error e => ⟨b, [], some e⟩
  | .ok front =>
    match canonicalPath target with
    | .error e => ⟨b, [], some e⟩
    | .ok target =>
      ⟨{ b with aliases := b.aliases ++ [⟨front, target⟩] }, [.aliasAdded front target], none⟩

/-- Let an observer be told of the lookups in the routers to come. -/
def observe (b : Builder H) (observer : Observer) : Builder H :=
  { b with observer := some observer }

/-- The tables of a router while they are filled, with the numbers of routes put into them. -/
structure Tables (H : Type) where
  exact : MethodMap (ExactTable H)
  tries : MethodMap (RouteTrie H)
  literal : Nat
  dynamic : Nat

/-- Tables without routes. -/
def Tables.empty : Tables H := ⟨.replicate .empty, .replicate .empty, 0, 0⟩

/-- Put a registered route into its table.  The trie refuses it if a branch is full. -/
def Tables.add (t : Tables H) (route : Method × Mapping H) : Except RouteError (Tables H) :=
  let (method, m) := route
  if m.template.isLiteral then
    let table := ((t.exact.get method).insert m.template.path m).2
    .ok { t with exact := t.exact.set method table, literal := t.literal + 1 }
  else
    match (t.tries.get method).insert m with
    | .added trie => .ok { t with tries := t.tries.set method trie, dynamic := t.dynamic + 1 }
    | .present => .ok { t with dynamic := t.dynamic + 1 }
    | .full run => .error (RouteTrie.capacityError run)

/-- The tables of the registered routes. -/
def tables (b : Builder H) : Except RouteError (Tables H) := b.routes.foldlM Tables.add .empty

/-- A router of what has been registered so far, with the event that tells of it. -/
def build (b : Builder H) : Except RouteError (Router H × List Event) :=
  b.tables.map fun t =>
    (⟨Alias.sort b.aliases, t.exact, t.tries, b.observer⟩,
      [.routerBuilt t.literal t.dynamic b.aliases.length])

end Builder

end UriRouting
