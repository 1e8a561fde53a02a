import UriRouting.Method
import UriRouting.Path

/-!
# What can go wrong

`RouteError` holds the causes for which a declaration, a configuration or a request is refused, and
`RouteError.message` is the one place where they are put into words.  A path that no route serves is
not among them: that is an answer, not a failure.
-/

namespace UriRouting

/-- Why a template does not suit the style that it is compiled for. -/
inductive TemplateFault where
  /-- A literal template with a hole in it. -/
  | dynamicLiteral
  /-- A NUL in the text of the template, where the key keeps it for the end. -/
  | nul
  /-- A `*` in the text of a dynamic template, where the key keeps it for the holes. -/
  | star
  /-- A `{` that no `}` follows. -/
  | openVariable
  /-- A variable template without a variable; the flag tells whether it has a group. -/
  | noVariable (hasGroup : Bool)
  /-- A pattern template without a group; the flag tells whether it has a variable. -/
  | noGroup (hasVariable : Bool)
  deriving DecidableEq, Repr

/-- A rule that an entry of a configuration breaks; entries are counted from zero. -/
inductive ConfigProblem where
  | noMethods (index : Nat) (path : String)
  | noHandler (index : Nat) (path : String)
  | relativeRoute (index : Nat) (path : String)
  | relativeAlias (index : Nat) (front target : String)
  deriving DecidableEq, Repr

/-- Why a file cannot be read as text. -/
inductive FileFault where
  | notFound
  | invalidData
  deriving DecidableEq, Repr

/-- The causes of a refusal. -/
inductive RouteError where
  | invalidPath (path : String) (fault : Path.Fault)
  | unsupportedTemplate (template : String) (fault : TemplateFault)
  | invalidPattern (template : String)
  | duplicateRoute (method : Method) (template : String)
  | nodeCapacity (run : String)
  | unknownMethod (name : String)
  | unknownHandler (name : String)
  | invalidConfig (problems : List ConfigProblem)
  | malformedConfig
  | unreadableFile (fault : FileFault)
  deriving DecidableEq, Repr

/-- The reason given for a refused path. -/
def Path.Fault.reason : Path.Fault → String
  | .relative => "expected a path starting with /"
  | .aboveRoot => "trying to go above the root"

/-- The reason given for a refused template. -/
def TemplateFault.reason : TemplateFault → String
  | .dynamicLiteral => "literal routes cannot contain \x7bvariables\x7d or (groups)"
  | .nul => "NUL bytes are not allowed in routes"
  | .star => "`*` is reserved for dynamic segments"
  | .openVariable => "unterminated \x7bvariable\x7d"
  | .noVariable true => "no \x7bvariable\x7d found, use a pattern route for (groups)"
  | .noVariable false => "no \x7bvariable\x7d found, use a literal route"
  | .noGroup true => "no (group) found, use a variable route for \x7bvariables\x7d"
  | .noGroup false => "no (group) found, use a literal route"

/-- One broken rule of a configuration in words. -/
def ConfigProblem.message : ConfigProblem → String
  | noMethods i path => "routes[" ++ toString i ++ "] `" ++ path ++ "` has no methods"
  | noHandler i path => "routes[" ++ toString i ++ "] `" ++ path ++ "` has no handler"
  | relativeRoute i path => "routes[" ++ toString i ++ "] `" ++ path ++ "` must start with /"
  | relativeAlias i front target =>
    "aliases[" ++ toString i ++ "] `" ++ front ++ "` → `" ++ target ++ "` must be absolute"

/-- A refusal in words.  The explanations of a configuration format and of a file system are their
own, and are left out. -/
def RouteError.message : RouteError → String
  | invalidPath path fault => "invalid path `" ++ path ++ "`: " ++ fault.reason
  | unsupportedTemplate template fault =>
    "unsupported template `" ++ template ++ "`: " ++ fault.reason
  | invalidPattern template => "invalid pattern in template `" ++ template ++ "`"
  | duplicateRoute method template => "duplicate route " ++ method.name ++ " " ++ template
  | nodeCapacity run => "trie node `" ++ run ++ "` exceeds the maximum fan-out"
  | unknownMethod name => "unknown http method `" ++ name ++ "`"
  | unknownHandler name => "no handler named `" ++ name ++ "`"
  | invalidConfig problems => "config: " ++ ", ".intercalate (problems.map ConfigProblem.message)
  | malformedConfig => "config: malformed"
  | unreadableFile .notFound => "io: not found"
  | unreadableFile .invalidData => "io: not text"

/-- The canonical form of a path, or the refusal that names the path as it was given. -/
def canonicalPath (raw : String) : Except RouteError String :=
  (Path.normalize raw).mapError (RouteError.invalidPath raw)

/-- The method with the given name, or the refusal that names it. -/
def Method.parse (name : String) : Except RouteError Method :=
  match Method.ofName? name with
  | some m => .ok m
  | none => .error (.unknownMethod name)

end UriRouting
