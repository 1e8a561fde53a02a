import UriRouting.Unicode.Category
import UriRouting.Unicode.Runs.Age
import UriRouting.Unicode.Runs.Case
import UriRouting.Unicode.Runs.Cluster
import UriRouting.Unicode.Runs.ClusterBreak
import UriRouting.Unicode.Runs.Identifier
import UriRouting.Unicode.Runs.Letter
import UriRouting.Unicode.Runs.Mark
import UriRouting.Unicode.Runs.Script
import UriRouting.Unicode.Runs.ScriptExtension
import UriRouting.Unicode.Runs.SentenceBreak
import UriRouting.Unicode.Runs.WordBreak

/-!
# Properties of characters by name

A class of characters can be asked for by the name of a property: a bare name stands for a binary
property, a general category or a script (`Property.named?`), and a name with a value for the
characters for which the property has that value (`Property.withValue?`).  `Property.members` is
the set of the characters that have a property.

Names are compared loosely, as `looseName` does: case, blanks, hyphens, underscores and a leading
`is` do not count, and neither does anything outside ASCII.

The sets from which regular expressions build their shorthands stand at the end.
-/

namespace UriRouting.Unicode

/-! ## Loose names -/

/-- Drop the characters that do not count and fold the rest to lower case. -/
def looseCore (cs : List Char) : List Char :=
  (cs.filter fun c => c.toNat < 128 && !(c == ' ' || c == '_' || c == '-')).map Char.toLower

/-- The loose form of a name.  A leading `is` is dropped, except that `isc` is a name of its own and
not the category `c`. -/
def looseName (name : String) : String :=
  match name.toList with
  | a :: b :: rest =>
    if a.toLower = 'i' ∧ b.toLower = 's' then
      if looseCore rest = ['c'] then "isc" else String.ofList (looseCore rest)
    else String.ofList (looseCore (a :: b :: rest))
  | short => String.ofList (looseCore short)

/-! ## Properties -/

/-- The binary properties. -/
def binaryProperties : List PropertyRuns :=
  letterProperties ++ caseProperties ++ identifierProperties ++ clusterProperties ++ markProperties

/-- The characters that have a binary property, if there is one of that name. -/
def binaryMembers? (name : String) : Option CharSet :=
  (binaryProperties.find? fun p => p.names.contains name).map fun p => .ofRuns p.runs

/-- The codes of scripts in a tag, four letters each. -/
def scriptCodes : List Char → List String
  | a :: b :: c :: d :: rest => String.ofList [a, b, c, d] :: scriptCodes rest
  | _ => []

/-- A property that a class of characters can be asked for by.  Tags and names are those of the
tables. -/
inductive Property where
  | any
  | ascii
  | categories (cs : List Category)
  | binary (name : String)
  | script (tag : String)
  /-- Used in a script. -/
  | scriptExtension (tag : String)
  | clusterBreak (tag : String)
  | wordBreak (tag : String)
  | sentenceBreak (tag : String)
  /-- Assigned in a version or before it. -/
  | age (tag : String)
  deriving DecidableEq, Repr

namespace Property

/-- The characters that have a property. -/
def members : Property → CharSet
  | any => .any
  | ascii => .range '\x00' '\x7f'
  | categories cs => Category.members cs
  | binary name => (binaryMembers? name).getD .none
  | script tag => .ofTags (· == tag) (taggedRuns scriptRuns)
  | scriptExtension tag =>
    .ofTags (fun tags => (scriptCodes tags.toList).contains tag) (taggedRuns scriptExtensionRuns)
  | clusterBreak tag => .ofTags (· == tag) (taggedRuns clusterBreakRuns)
  | wordBreak tag => .ofTags (· == tag) (taggedRuns wordBreakRuns)
  | sentenceBreak tag => .ofTags (· == tag) (taggedRuns sentenceBreakRuns)
  | age tag =>
    .ofTags (((tagsOf ageNames).takeWhile (· != tag)) ++ [tag]).contains (taggedRuns ageRuns)

/-- The general category that a loose name stands for; three names stand for sets that are no
category. -/
def category? (name : String) : Option Property :=
  if name = "any" then some any
  else if name = "assigned" then some (categories (Category.all.filter (· != .cn)))
  else if name = "ascii" then some ascii
  else (Category.named? name).map categories

/-- The binary property that a loose name stands for. -/
def binary? (name : String) : Option Property :=
  if binaryProperties.any fun p => p.names.contains name then some (binary name) else none

/-- The property that a bare name stands for: a binary property, else a category, else a script. -/
def named? (name : String) : Option Property :=
  let loose := looseName name
  binary? loose <|> category? loose <|> (tagNamed? scriptNames loose).map script

/-- The property that a name with a value stands for.  A binary property takes no value. -/
def withValue? (name value : String) : Option Property :=
  let value := looseName value
  match looseName name with
  | "gc" | "generalcategory" => category? value
  | "sc" | "script" => (tagNamed? scriptNames value).map script
  | "scx" | "scriptextensions" => (tagNamed? scriptNames value).map scriptExtension
  | "gcb" | "graphemeclusterbreak" => (tagNamed? clusterBreakNames value).map clusterBreak
  | "wb" | "wordbreak" => (tagNamed? wordBreakNames value).map wordBreak
  | "sb" | "sentencebreak" => (tagNamed? sentenceBreakNames value).map sentenceBreak
  | "age" => (tagNamed? ageNames value).map age
  | _ => none

end Property

/-! ## The sets in daily use -/

/-- White space. -/
def whiteSpace : CharSet := Property.members (.binary "whitespace")

/-- The decimal digits. -/
def decimalDigits : CharSet := Category.members [.nd]

/-- The characters that words are made of: letters, marks, decimal digits, connectors and joiners.
-/
def wordCharacters : CharSet :=
  .ofList
    [Property.members (.binary "alphabetic"), Category.members (Category.marks ++ [.nd, .pc]),
      Property.members (.binary "joincontrol")]

end UriRouting.Unicode
