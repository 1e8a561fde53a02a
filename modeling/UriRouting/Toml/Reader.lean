import UriRouting.Toml.Scalar
import UriRouting.Toml.Table

/-!
# Reading TOML

`Toml.ofText?` reads a TOML document, or gives nothing if the text is none.  A document is a
sequence of lines: a setting, a header, or neither, each with a comment at its end if need be.
The values of settings are nested through lists and records, up to a limit.
-/

namespace UriRouting.Toml

open Value (Entries)

/-- The number of levels to which values may be nested, and of parts that a key may have. -/
def nestingLimit : Nat := 79

/-! ## Blanks and comments -/

/-- Drop a comment, whose sign has been read; it may hold any plain character. -/
def dropComment (cs : List Char) : List Char := cs.dropWhile isPlain

/-- Read the end of a line: blanks, a comment, and a line break or the end of the text. -/
def readLineEnd (cs : List Char) : Option (List Char) :=
  let cs :=
    match dropBlanks cs with
    | '#' :: rest => dropComment rest
    | cs => cs
  match cs with
  | [] => some []
  | cs => readNewline cs

/-- Drop blanks, comments and line breaks between the elements of a list. -/
def dropFiller : Nat → List Char → List Char
  | 0, cs => cs
  | fuel + 1, cs =>
    match dropBlanks cs with
    | '#' :: rest =>
      match readNewline (dropComment rest) with
      | some more => dropFiller fuel more
      | none => '#' :: rest
    | cs =>
      match readNewline cs with
      | some more => dropFiller fuel more
      | none => cs

/-! ## Keys -/

/-- The characters of a key without quotes. -/
def isBareKeyChar (c : Char) : Bool := c.isAlphanum || c == '-' || c == '_'

/-- Read one part of a key. -/
def readKeyPart (cs : List Char) : Option (String × List Char) :=
  match cs with
  | '"' :: rest =>
    (readBasic [] (rest.length + 1) rest).map fun (t, rest) => (String.ofList t, rest)
  | '\'' :: rest => (readLiteral [] rest).map fun (t, rest) => (String.ofList t, rest)
  | cs =>
    let name := cs.takeWhile isBareKeyChar
    if name.isEmpty then none else some (String.ofList name, cs.drop name.length)

/-- Read the parts of a key, with the blanks around them. -/
def readKeyParts (parts : List String) : Nat → List Char → Option (List String × List Char)
  | 0, _ => none
  | fuel + 1, cs => do
    let (part, rest) ← readKeyPart (dropBlanks cs)
    match dropBlanks rest with
    | '.' :: more => readKeyParts (part :: parts) fuel more
    | rest => some ((part :: parts).reverse, rest)

/-- Read a key. -/
def readKey (cs : List Char) : Option (List String × List Char) := do
  let (path, rest) ← readKeyParts [] (cs.length + 1) cs
  if path.length ≤ nestingLimit then some (path, rest) else none

/-! ## Values -/

/-- How a value is read. -/
abbrev ValueReader := List Char → Option (Value × List Char)

/-- Read a value that has no others in it. -/
def readScalar (cs : List Char) : Option (Value × List Char) :=
  match cs with
  | '"' :: _ => (readText cs).map fun (t, rest) => (.text (String.ofList t), rest)
  | '\'' :: _ => (readText cs).map fun (t, rest) => (.text (String.ofList t), rest)
  | 't' :: 'r' :: 'u' :: 'e' :: rest => some (.boolean true, rest)
  | 'f' :: 'a' :: 'l' :: 's' :: 'e' :: rest => some (.boolean false, rest)
  | cs =>
    match readMoment cs with
    | some rest => some (.moment, rest)
    | none => (readFloat cs <|> readNamedFloat cs <|> readInteger cs).map fun rest =>
        (.number, rest)

/-- Read the elements of a list up to its end; `items` are those read so far, the last one first. -/
def readItems (readValue : ValueReader) (items : List Value) :
    Nat → List Char → Option (Value × List Char)
  | 0, _ => none
  | fuel + 1, cs =>
    match dropFiller (cs.length + 1) cs with
    | ']' :: rest => some (.list false items.reverse, rest)
    | cs => do
      let (v, rest) ← readValue cs
      match dropFiller (rest.length + 1) rest with
      | ',' :: rest => readItems readValue (v :: items) fuel rest
      | ']' :: rest => some (.list false (v :: items).reverse, rest)
      | _ => none

/-- Read the settings of a record up to its end. -/
def readEntries (readValue : ValueReader) (entries : Entries) :
    Nat → List Char → Option (Value × List Char)
  | 0, _ => none
  | fuel + 1, cs => do
    let (path, rest) ← readKey cs
    match rest with
    | '=' :: rest => do
      let (v, rest) ← readValue (dropBlanks rest)
      let (_, entries) ← assign path v .header entries
      match dropBlanks rest with
      | ',' :: rest => readEntries readValue entries fuel rest
      | '\x7d' :: rest => some (.table .closed entries, rest)
      | _ => none
    | _ => none

/-- Read a value with others in it. -/
def readNested (readValue : ValueReader) (cs : List Char) : Option (Value × List Char) :=
  match cs with
  | '[' :: rest => readItems readValue [] (rest.length + 1) rest
  | '\x7b' :: rest =>
    match dropBlanks rest with
    | '\x7d' :: rest => some (.table .closed [], rest)
    | rest => readEntries readValue [] (rest.length + 1) rest
  | cs => readScalar cs

/-- Read a value that is nested to at most the given number of levels. -/
def readValue : Nat → ValueReader
  | 0, cs => readScalar cs
  | levels + 1, cs => readNested (readValue levels) cs

/-! ## Lines -/

/-- Read a header, its first bracket having been read. -/
def readHeader (d : Document) (cs : List Char) : Option (Document × List Char) :=
  match cs with
  | '[' :: rest => do
    let (path, rest) ← readKey rest
    match rest with
    | ']' :: ']' :: rest => do
      let rest ← readLineEnd rest
      let d ← d.addHeader path true
      return (d, rest)
    | _ => none
  | cs => do
    let (path, rest) ← readKey cs
    match rest with
    | ']' :: rest => do
      let rest ← readLineEnd rest
      let d ← d.addHeader path false
      return (d, rest)
    | _ => none

/-- Read a setting with the end of its line. -/
def readSetting (d : Document) (cs : List Char) : Option (Document × List Char) := do
  let (path, rest) ← readKey cs
  match rest with
  | '=' :: rest => do
    let (v, rest) ← readValue nestingLimit (dropBlanks rest)
    let rest ← readLineEnd rest
    let d ← d.addSetting path v
    return (d, rest)
  | _ => none

/-- Read lines to the end of the text. -/
def readLinesOf (d : Document) : Nat → List Char → Option Document
  | 0, _ => none
  | fuel + 1, cs =>
    match dropBlanks cs with
    | [] => some d
    | '#' :: rest => (readLineEnd ('#' :: rest)).bind fun rest => readLinesOf d fuel rest
    | '\n' :: rest => readLinesOf d fuel rest
    | '\r' :: '\n' :: rest => readLinesOf d fuel rest
    | '[' :: rest => (readHeader d rest).bind fun (d, rest) => readLinesOf d fuel rest
    | cs => (readSetting d cs).bind fun (d, rest) => readLinesOf d fuel rest

/-- Read a document; a mark of the byte order at its start does not count. -/
def ofText? (text : String) : Option Value :=
  let cs :=
    match text.toList with
    | '\ufeff' :: rest => rest
    | cs => cs
  (readLinesOf .empty (cs.length + 1) cs).map fun d => .table .header d.entries

end UriRouting.Toml
