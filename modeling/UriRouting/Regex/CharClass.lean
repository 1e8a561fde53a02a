import UriRouting.Unicode.CaseFold
import UriRouting.Unicode.Property

/-!
# Classes of characters

A class of a regular expression is a set of characters.  This file names the sets that have a
spelling of their own there: the shorthands for digits, white space and word characters, each in a
wide form and in one that keeps to ASCII, and the classes of ASCII that a bracket may name.
-/

namespace UriRouting.Regex

open Unicode

/-- A class of characters. -/
abbrev CharClass := CharSet

namespace CharClass

/-- The decimal digits. -/
def digit : CharClass := decimalDigits

/-- White space. -/
def space : CharClass := whiteSpace

/-- The characters of words. -/
def word : CharClass := wordCharacters

/-- The decimal digits of ASCII. -/
def asciiDigit : CharClass := .range '0' '9'

/-- The white space of ASCII. -/
def asciiSpace : CharClass := .ofList [.range '\t' '\r', .one ' ']

/-- The word characters of ASCII. -/
def asciiWord : CharClass :=
  .ofList [.range '0' '9', .range 'A' 'Z', .one '_', .range 'a' 'z']

/-- The classes of ASCII that a bracket may name. -/
def asciiNamed? (name : String) : Option CharClass :=
  match name with
  | "alnum" => some (.ofList [.range '0' '9', .range 'A' 'Z', .range 'a' 'z'])
  | "alpha" => some (.ofList [.range 'A' 'Z', .range 'a' 'z'])
  | "ascii" => some (.range '\x00' '\x7f')
  | "blank" => some (.ofList [.one '\t', .one ' '])
  | "cntrl" => some (.ofList [.range '\x00' '\x1f', .one '\x7f'])
  | "digit" => some asciiDigit
  | "graph" => some (.range '!' '~')
  | "lower" => some (.range 'a' 'z')
  | "print" => some (.range ' ' '~')
  | "punct" => some (.ofList [.range '!' '/', .range ':' '@', .range '[' '\x60', .range '\x7b' '~'])
  | "space" => some asciiSpace
  | "upper" => some (.range 'A' 'Z')
  | "word" => some asciiWord
  | "xdigit" => some (.ofList [.range '0' '9', .range 'A' 'F', .range 'a' 'f'])
  | _ => none

end CharClass

end UriRouting.Regex
