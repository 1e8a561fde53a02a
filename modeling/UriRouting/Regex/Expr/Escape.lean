import UriRouting.Regex.Expr.Flags

/-!
# Escapes

What a backslash and the text after it stand for: a character, a class of characters, or an
assertion.  `readEscape` is given the text after the backslash and gives back an `Atom` with the
text after the escape, or nothing if the escape has no meaning.
-/

namespace UriRouting.Regex

open Unicode

/-- What an escape stands for. -/
inductive Atom where
  | char (c : Char) (octet : Bool)
  | cls (a : CharClass)
  | look (l : Look)
  deriving DecidableEq, Repr

/-- The characters that mean something other than themselves somewhere in a regular expression. -/
def isMeta (c : Char) : Bool :=
  "\\.+*?()|[]\x7b\x7d^$#&-~".toList.contains c

/-- Put a backslash before every character that might mean something other than itself. -/
def escape (cs : List Char) : List Char :=
  cs.flatMap fun c => if isMeta c then ['\\', c] else [c]

/-- Whether a backslash before the character leaves it as it is: marks of ASCII, except the two that
stand for assertions. -/
def isEscapable (c : Char) : Bool :=
  isMeta c || (c.toNat < 128 && !c.isAlphanum && c != '<' && c != '>')

/-- Read `count` hexadecimal digits. -/
def readHexDigits (f : Flags) (value : Nat) : Nat → List Char → Option (Nat × List Char)
  | 0, cs => some (value, cs)
  | count + 1, cs =>
    match cs with
    | [] => none
    | c :: rest => (Text.hexValue? c).bind fun d =>
        readHexDigits f (value * 16 + d) count (f.skip rest)

/-- Read hexadecimal digits up to a closing brace; `none` as value says that there was no digit. -/
def readHexBraced (f : Flags) (value : Option Nat) : Nat → List Char → Option (Nat × List Char)
  | 0, _ => none
  | fuel + 1, cs =>
    match cs with
    | [] => none
    | c :: rest =>
      if c = '\x7d' then value.map fun v => (v, f.skip rest)
      else (Text.hexValue? c).bind fun d =>
        readHexBraced f (some (value.getD 0 * 16 + d)) fuel (f.skip rest)

/-- Read the number of a character: `count` hexadecimal digits, or any number of them in braces. -/
def readHex (f : Flags) (count : Nat) (cs : List Char) : Option (Atom × List Char) :=
  match f.skip cs with
  | '\x7b' :: rest => do
    let (value, rest) ← readHexBraced f none (rest.length + 1) (f.skip rest)
    let c ← Text.charOfNumber? value
    return (.char c false, rest)
  | cs => do
    let (value, rest) ← readHexDigits f 0 count cs
    let c ← Text.charOfNumber? value
    return (.char c (count == 2), rest)

/-- Cut a text at the first place where a pattern stands. -/
def splitAtText (pattern : List Char) (before : List Char) :
    List Char → Option (List Char × List Char)
  | [] => none
  | c :: cs =>
    if pattern.isPrefixOf (c :: cs) then some (before.reverse, (c :: cs).drop pattern.length)
    else splitAtText pattern (c :: before) cs

/-- The property that the text between braces names, and whether the text denies it: a name, a
name with a value, or a name with a value that is not to be had. -/
def namedProperty (text : List Char) : Option Property × Bool :=
  match splitAtText ['!', '='] [] text with
  | some (name, value) => (Property.withValue? (String.ofList name) (String.ofList value), true)
  | none =>
    match splitAtText [':'] [] text <|> splitAtText ['='] [] text with
    | some (name, value) => (Property.withValue? (String.ofList name) (String.ofList value), false)
    | none => (Property.named? (String.ofList text), false)

/-- Read up to a closing brace. -/
def readBraced (f : Flags) (text : List Char) : Nat → List Char → Option (List Char × List Char)
  | 0, _ => none
  | fuel + 1, cs =>
    match cs with
    | [] => none
    | c :: rest =>
      if c = '\x7d' then some (text.reverse, rest)
      else readBraced f (c :: text) fuel (f.skip rest)

/-- Read the property of a class: one letter, or a name in braces. -/
def readProperty (f : Flags) (negated : Bool) (cs : List Char) : Option (Atom × List Char) :=
  match f.skip cs with
  | [] => none
  | '\\' :: _ => none
  | '\x7b' :: rest => do
    let (text, rest) ← readBraced f [] (rest.length + 1) (f.skip rest)
    let (p, denied) := namedProperty text
    let a ← f.propertyClass p (negated != denied)
    return (.cls a, rest)
  | c :: rest => do
    let a ← f.propertyClass (Property.named? (String.singleton c)) negated
    return (.cls a, f.skip rest)

/-- Read the name of a word assertion, letters and hyphens, up to the brace after it. -/
def readBoundaryName (f : Flags) (name : List Char) : Nat → List Char → Option (String × List Char)
  | 0, _ => none
  | fuel + 1, cs =>
    match cs with
    | [] => none
    | c :: rest =>
      if c.isAlpha || c == '-' then readBoundaryName f (c :: name) fuel (f.skip rest)
      else if c = '\x7d' then some (String.ofList name.reverse, rest)
      else none

/-- Read what follows the escape of a word boundary: nothing, or the name of a special one in
braces.  Braces that start with something else belong to a repetition. -/
def readBoundary (f : Flags) (cs : List Char) : Option (Atom × List Char) :=
  match cs with
  | '\x7b' :: rest =>
    match f.skip rest with
    | [] => none
    | c :: more =>
      if c.isAlpha || c == '-' then
        match readBoundaryName f [] (more.length + 2) (c :: more) with
        | some ("start", rest) => some (.look (.wordStart f.wide), rest)
        | some ("end", rest) => some (.look (.wordEnd f.wide), rest)
        | some ("start-half", rest) => some (.look (.wordStartHalf f.wide), rest)
        | some ("end-half", rest) => some (.look (.wordEndHalf f.wide), rest)
        | _ => none
      else some (.look (.wordBoundary f.wide), cs)
  | cs => some (.look (.wordBoundary f.wide), cs)

/-- A class with the text after it. -/
def classAtom (a : Option CharClass) (rest : List Char) : Option (Atom × List Char) :=
  a.map fun a => (.cls a, rest)

/-- Read an escape; the backslash before it has been read. -/
def readEscape (f : Flags) : List Char → Option (Atom × List Char)
  | [] => none
  | c :: rest =>
    if isEscapable c then some (.char c false, rest)
    else
      match c with
      | 'x' => readHex f 2 rest
      | 'u' => readHex f 4 rest
      | 'U' => readHex f 8 rest
      | 'p' => readProperty f false rest
      | 'P' => readProperty f true rest
      | 'd' => classAtom (f.shorthand CharClass.digit CharClass.asciiDigit false) rest
      | 'D' => classAtom (f.shorthand CharClass.digit CharClass.asciiDigit true) rest
      | 's' => classAtom (f.shorthand CharClass.space CharClass.asciiSpace false) rest
      | 'S' => classAtom (f.shorthand CharClass.space CharClass.asciiSpace true) rest
      | 'w' => classAtom (f.shorthand CharClass.word CharClass.asciiWord false) rest
      | 'W' => classAtom (f.shorthand CharClass.word CharClass.asciiWord true) rest
      | 'a' => some (.char '\x07' false, rest)
      | 'f' => some (.char '\x0c' false, rest)
      | 't' => some (.char '\t' false, rest)
      | 'n' => some (.char '\n' false, rest)
      | 'r' => some (.char '\r' false, rest)
      | 'v' => some (.char '\x0b' false, rest)
      | 'A' => some (.look .textStart, rest)
      | 'z' => some (.look .textEnd, rest)
      | 'b' => readBoundary f rest
      | 'B' => some (.look (.noWordBoundary f.wide), rest)
      | '<' => some (.look (.wordStart f.wide), rest)
      | '>' => some (.look (.wordEnd f.wide), rest)
      | _ => none

end UriRouting.Regex
