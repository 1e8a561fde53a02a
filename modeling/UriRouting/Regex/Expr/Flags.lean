import UriRouting.Regex.Expr

/-!
# Flags

Flags change how the text of a regular expression is read from the place where they are set to the
end of the group around it.  `Flags.literal`, `Flags.dot` and their neighbours say what the plain
signs of a regular expression stand for under the flags in force.  Without the flag for Unicode an
expression is read in octets, and what could match a lone octet outside ASCII is refused.
-/

namespace UriRouting.Regex

open Unicode

/-- The flags in force. -/
structure Flags where
  caseless : Bool := false
  multiLine : Bool := false
  dotAll : Bool := false
  swapGreed : Bool := false
  wide : Bool := true
  crlf : Bool := false
  verbose : Bool := false
  deriving DecidableEq, Repr

/-- One letter of a flag setting: a flag to set, or the sign after which flags are cleared. -/
inductive FlagItem where
  | negation
  | caseless
  | multiLine
  | dotAll
  | swapGreed
  | wide
  | crlf
  | verbose
  deriving DecidableEq, Repr

/-- The item that a letter stands for. -/
def FlagItem.ofChar? : Char → Option FlagItem
  | '-' => some negation
  | 'i' => some caseless
  | 'm' => some multiLine
  | 's' => some dotAll
  | 'U' => some swapGreed
  | 'u' => some wide
  | 'R' => some crlf
  | 'x' => some verbose
  | _ => none

namespace Flags

/-- Set or clear the flags of a setting. -/
def apply (f : Flags) (on : Bool) : List FlagItem → Flags
  | [] => f
  | .negation :: rest => f.apply false rest
  | .caseless :: rest => { f with caseless := on }.apply on rest
  | .multiLine :: rest => { f with multiLine := on }.apply on rest
  | .dotAll :: rest => { f with dotAll := on }.apply on rest
  | .swapGreed :: rest => { f with swapGreed := on }.apply on rest
  | .wide :: rest => { f with wide := on }.apply on rest
  | .crlf :: rest => { f with crlf := on }.apply on rest
  | .verbose :: rest => { f with verbose := on }.apply on rest

/-- Read the items of a setting up to the `:` or `)` that ends it, which is given back with the text
after it.  No item may stand twice, and a sign must be followed by a flag. -/
def readItems (seen : List FlagItem) : List Char → Option (List FlagItem × Char × List Char)
  | [] => none
  | c :: cs =>
    if c = ':' ∨ c = ')' then
      if seen.head? = some .negation then none else some (seen.reverse, c, cs)
    else
      match FlagItem.ofChar? c with
      | none => none
      | some item => if seen.contains item then none else readItems (item :: seen) cs

/-- Drop blanks and comments from the front of a text. -/
def dropBlanks (inComment : Bool) : List Char → List Char
  | [] => []
  | c :: cs =>
    if inComment then dropBlanks (c != '\n') cs
    else if whiteSpace.contains c then dropBlanks false cs
    else if c = '#' then dropBlanks true cs
    else c :: cs

/-- In verbose mode blanks and comments do not count. -/
def skip (f : Flags) (cs : List Char) : List Char :=
  if f.verbose then dropBlanks false cs else cs

/-- Close a class under case, if case does not count. -/
def foldCase (f : Flags) (a : CharClass) : CharClass :=
  if f.caseless then (if f.wide then a.caseless else a.asciiCaseless) else a

/-- Refuse a class that would match a lone octet. -/
def guardClass (f : Flags) (a : CharClass) : Option CharClass :=
  if f.wide || a.isAscii then some a else none

/-- Close a class under case, then negate it if it is to be. -/
def finishClass (f : Flags) (negated : Bool) (a : CharClass) : Option CharClass :=
  f.guardClass (if negated then (f.foldCase a).compl else f.foldCase a)

/-- A single character; `octet` tells that it was written as one octet. -/
def literal (f : Flags) (c : Char) (octet : Bool) : Option Expr :=
  if !f.wide && octet && 128 ≤ c.toNat then none else some (.item (f.foldCase (.one c)))

/-- Any character, or any character within a line. -/
def dot (f : Flags) : Option Expr :=
  if !f.wide then none
  else if f.dotAll then some (.item .any)
  else if f.crlf then some (.item (CharSet.ofList [.one '\n', .one '\r']).compl)
  else some (.item (CharSet.one '\n').compl)

/-- The start of the text, or of a line. -/
def caret (f : Flags) : Look :=
  if f.multiLine then (if f.crlf then .crlfLineStart else .lineStart) else .textStart

/-- The end of the text, or of a line. -/
def dollar (f : Flags) : Look :=
  if f.multiLine then (if f.crlf then .crlfLineEnd else .lineEnd) else .textEnd

/-- One of the classes of digits, blanks and word characters. -/
def shorthand (f : Flags) (wide narrow : CharClass) (negated : Bool) : Option CharClass :=
  let a := if f.wide then wide else narrow
  f.guardClass (if negated then a.compl else a)

/-- A class that a property names. -/
def propertyClass (f : Flags) (p : Option Property) (negated : Bool) : Option CharClass :=
  if f.wide then p.bind fun p => f.finishClass negated p.members else none

end Flags

end UriRouting.Regex
