import UriRouting.Builder
import UriRouting.Text.Utf8
import UriRouting.Toml.Reader

/-!
# Configurations

A `Config` lists options, aliases and routes; a route names its handler, which whoever loads the
configuration has to supply.  `Config.ofValue?` takes it from a value that a format has yielded,
with `Config.ofToml` and `Config.ofFile` for texts and files in TOML, and `Config.validate` checks
the rules that no format can express, and reports everything that breaks them.

A record may also be written as the list of its fields, in their order.  What a record holds beside
its fields does not count.
-/

namespace UriRouting

/-- One alias of a configuration. -/
structure AliasEntry where
  front : String
  target : String
  deriving DecidableEq, Repr

/-- One route of a configuration. -/
structure RouteEntry where
  methods : List Method
  path : String
  style : Option TemplateStyle
  handler : String
  deriving DecidableEq, Repr

/-- Options, aliases and routes as they are written. -/
structure Config where
  options : RouterOptions
  aliases : List AliasEntry
  routes : List RouteEntry
  deriving DecidableEq, Repr

/-! ## Reading values -/

/-- The formats differ in how they write a name with nothing to it, and in whether a list may hold
more than the fields of a record. -/
inductive Dialect where
  | toml
  | json
  deriving DecidableEq, Repr

namespace Value

/-- The values of a record's fields, in the order of their names; a field that is not given has
none. -/
def fields? (d : Dialect) (names : List String) : Value → Option (List (Option Value))
  | table _ entries => some (names.map fun name => entries.lookup name)
  | moment => some (names.map fun _ => none)
  | list _ items =>
    if d = .json ∧ names.length < items.length then none
    else some ((List.range names.length).map fun i => items[i]?)
  | _ => none

/-- Whether a value is the nothing that may stand beside a name. -/
def isNothing (d : Dialect) : Value → Bool
  | null => d == .json
  | list _ [] => d == .toml
  | table _ [] => d == .toml
  | _ => false

/-- A name: a text, or a record with the name as its only field and nothing in it. -/
def name? (d : Dialect) : Value → Option String
  | text s => some s
  | table _ [(s, v)] => if v.isNothing d then some s else none
  | _ => none

/-- A text. -/
def text? : Value → Option String
  | text s => some s
  | _ => none

/-- A truth value. -/
def boolean? : Value → Option Bool
  | boolean b => some b
  | _ => none

/-- The elements of a list. -/
def items? : Value → Option (List Value)
  | list _ items => some items
  | _ => none

/-- Read a field that has a default. -/
def orDefault {α : Type} (v : Option Value) (default : α) (read : Value → Option α) : Option α :=
  match v with
  | none => some default
  | some v => read v

end Value

namespace Config

open Value (orDefault)

/-- Read the options. -/
def options? (d : Dialect) (v : Value) : Option RouterOptions := do
  match ← v.fields? d ["escape_literals", "duplicates"] with
  | [escaped, duplicates] => do
    let escaped ← orDefault escaped false Value.boolean?
    let duplicates ← orDefault duplicates .ignore fun v => (v.name? d).bind DuplicatePolicy.ofName?
    return ⟨escaped, duplicates⟩
  | _ => none

/-- Read an alias. -/
def alias? (d : Dialect) (v : Value) : Option AliasEntry := do
  match ← v.fields? d ["prefix", "target"] with
  | [some front, some target] => do
    let front ← front.text?
    let target ← target.text?
    return ⟨front, target⟩
  | _ => none

/-- Read the style of a route, which need not be given. -/
def style? (d : Dialect) : Value → Option (Option TemplateStyle)
  | .null => some none
  | v => ((v.name? d).bind TemplateStyle.ofName?).map some

/-- Read a route. -/
def route? (d : Dialect) (v : Value) : Option RouteEntry := do
  match ← v.fields? d ["methods", "path", "style", "handler"] with
  | [some methods, some path, style, some handler] => do
    let methods ← methods.items?
    let methods ← methods.mapM fun v => (v.name? d).bind Method.ofName?
    let path ← path.text?
    let style ← orDefault style none (style? d)
    let handler ← handler.text?
    return ⟨methods, path, style, handler⟩
  | _ => none

/-- Read a configuration. -/
def ofValue? (d : Dialect) (v : Value) : Option Config := do
  match ← v.fields? d ["options", "aliases", "routes"] with
  | [options, aliases, routes] => do
    let options ← orDefault options {} (options? d)
    let aliases ← orDefault aliases [] fun v => v.items?.bind fun items => items.mapM (alias? d)
    let routes ← orDefault routes [] fun v => v.items?.bind fun items => items.mapM (route? d)
    return ⟨options, aliases, routes⟩
  | _ => none

/-- Read a configuration from a text in TOML. -/
def ofToml (text : String) : Except RouteError Config :=
  match (Toml.ofText? text).bind (ofValue? .toml) with
  | some c => .ok c
  | none => .error .malformedConfig

/-- Read a configuration from the bytes of a file, if there is one. -/
def ofFile (content : Option (List UInt8)) : Except RouteError Config :=
  match content with
  | none => .error (.unreadableFile .notFound)
  | some bytes =>
    match Text.decode? bytes with
    | none => .error (.unreadableFile .invalidData)
    | some cs => ofToml (String.ofList cs)

/-! ## Validation -/

/-- Whether a path starts with a slash. -/
def isAbsolute (path : String) : Bool := path.toList.head? == some '/'

/-- The rules that a route breaks. -/
def routeProblems (index : Nat) (r : RouteEntry) : List ConfigProblem :=
  (if r.methods.isEmpty then [.noMethods index r.path] else []) ++
    (if r.handler.isEmpty then [.noHandler index r.path] else []) ++
    (if isAbsolute r.path then [] else [.relativeRoute index r.path])

/-- The rule that an alias breaks, if it does. -/
def aliasProblems (index : Nat) (a : AliasEntry) : List ConfigProblem :=
  if isAbsolute a.front && isAbsolute a.target then [] else [.relativeAlias index a.front a.target]

/-- The problems of the entries of a list, counted from `index` on. -/
def problemsFrom {α : Type} (problems : Nat → α → List ConfigProblem) (index : Nat) :
    List α → List ConfigProblem
  | [] => []
  | a :: rest => problems index a ++ problemsFrom problems (index + 1) rest

/-- Everything that is wrong with a configuration: first the routes, then the aliases. -/
def problems (c : Config) : List ConfigProblem :=
  problemsFrom routeProblems 0 c.routes ++ problemsFrom aliasProblems 0 c.aliases

/-- Check a configuration. -/
def validate (c : Config) : Except RouteError Unit :=
  if c.problems.isEmpty then .ok () else .error (.invalidConfig c.problems)

end Config

end UriRouting
