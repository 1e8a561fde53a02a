import UriRouting.Text.Digit

/-!
# Texts in a TOML document

Texts stand between double or single quotes, on one line or, between three quotes each, on
several.  Escapes count between double quotes only.  A line break in a text of several lines is a
line feed, however it was written; one right after the opening quotes does not count, and neither
does one after a backslash, together with the blanks around it.

The readers here are given the text after the opening quotes, and give back what was read with the
text after the closing ones.
-/

namespace UriRouting.Toml

/-- A blank within a line. -/
def isBlank (c : Char) : Bool := c == ' ' || c == '\t'

/-- Drop the blanks at the front of a line. -/
def dropBlanks (cs : List Char) : List Char := cs.dropWhile isBlank

/-- Whether a character may stand for itself: anything but the controls, of which only the tab
may. -/
def isPlain (c : Char) : Bool := c == '\t' || (32 ≤ c.toNat && c.toNat != 127)

/-- Take a line break off the front of a text. -/
def readNewline : List Char → Option (List Char)
  | '\n' :: rest => some rest
  | '\r' :: '\n' :: rest => some rest
  | _ => none

/-- Read the number of a character in the given count of hexadecimal digits. -/
def readCharNumber (value : Nat) : Nat → List Char → Option (Char × List Char)
  | 0, rest => (Text.charOfNumber? value).map fun c => (c, rest)
  | count + 1, cs =>
    match cs with
    | [] => none
    | c :: rest => (Text.hexValue? c).bind fun d => readCharNumber (value * 16 + d) count rest

/-- Read an escape; the backslash before it has been read. -/
def readEscape : List Char → Option (Char × List Char)
  | 'b' :: rest => some ('\x08', rest)
  | 't' :: rest => some ('\t', rest)
  | 'n' :: rest => some ('\n', rest)
  | 'f' :: rest => some ('\x0c', rest)
  | 'r' :: rest => some ('\r', rest)
  | '"' :: rest => some ('"', rest)
  | '\\' :: rest => some ('\\', rest)
  | 'u' :: rest => readCharNumber 0 4 rest
  | 'U' :: rest => readCharNumber 0 8 rest
  | _ => none

/-- Read a text of one line between double quotes; `text` is what has been read, reversed. -/
def readBasic (text : List Char) : Nat → List Char → Option (List Char × List Char)
  | 0, _ => none
  | fuel + 1, cs =>
    match cs with
    | [] => none
    | '"' :: rest => some (text.reverse, rest)
    | '\\' :: rest => (readEscape rest).bind fun (c, rest) => readBasic (c :: text) fuel rest
    | c :: rest => if isPlain c then readBasic (c :: text) fuel rest else none

/-- Read a text of one line between single quotes. -/
def readLiteral (text : List Char) : List Char → Option (List Char × List Char)
  | [] => none
  | c :: rest =>
    if c = '\'' then some (text.reverse, rest)
    else if isPlain c then readLiteral (c :: text) rest
    else none

/-- Drop blanks and line breaks. -/
def dropBreaks : Nat → List Char → List Char
  | 0, cs => cs
  | fuel + 1, cs =>
    match readNewline (dropBlanks cs) with
    | some rest => dropBreaks fuel rest
    | none => dropBlanks cs

/-- Read a text of several lines between quotes of the given kind.  Up to two quotes may stand
together in the text, and up to two more right before the three that end it. -/
def readMultiline (quote : Char) (text : List Char) :
    Nat → List Char → Option (List Char × List Char)
  | 0, _ => none
  | fuel + 1, cs =>
    match cs with
    | [] => none
    | c :: rest =>
      if c = quote then
        let quotes := (c :: rest).takeWhile (· == quote)
        let count := min quotes.length 5
        if count < 3 then readMultiline quote (quotes ++ text) fuel ((c :: rest).drop count)
        else some ((quotes.take (count - 3) ++ text).reverse, (c :: rest).drop count)
      else if c = '\\' ∧ quote = '"' then
        match readNewline (dropBlanks rest) with
        | some more => readMultiline quote text fuel (dropBreaks (more.length + 1) more)
        | none => (readEscape rest).bind fun (c, rest) => readMultiline quote (c :: text) fuel rest
      else
        match readNewline (c :: rest) with
        | some rest => readMultiline quote ('\n' :: text) fuel rest
        | none => if isPlain c then readMultiline quote (c :: text) fuel rest else none

/-- Read a text of several lines; a line break at its start does not count. -/
def readLines (quote : Char) (cs : List Char) : Option (List Char × List Char) :=
  let cs := (readNewline cs).getD cs
  readMultiline quote [] (cs.length + 1) cs

/-- Read a text with its quotes. -/
def readText : List Char → Option (List Char × List Char)
  | '"' :: '"' :: '"' :: rest => readLines '"' rest
  | '\'' :: '\'' :: '\'' :: rest => readLines '\'' rest
  | '"' :: rest => readBasic [] (rest.length + 1) rest
  | '\'' :: rest => readLiteral [] rest
  | _ => none

end UriRouting.Toml
