import UriRouting.Config.Value

/-!
# The tables of a TOML document

A document is a record that grows line by line.  A header opens a record, or a new element of a
list of records, below the records on the way to it; a setting with a dotted key passes records of
its own.  Whether a record may be passed, opened or added to depends on how it came about: what
has been written as a whole is closed, a record has one header at most, and dotted keys and
headers do not open each other's records.
-/

namespace UriRouting.Toml

open Value (Entries)

/-- What an operation makes of a record. -/
abbrev TableStep := TableForm → Entries → Option (TableForm × Entries)

/-- Carry out an operation on the record at the end of a path; `dotted` tells that the path is the
key of a setting.  Records that are missing on the way are made. -/
def descend (dotted : Bool) (step : TableStep) : List String → TableStep
  | [], form, entries => step form entries
  | key :: path, form, entries =>
    match entries.lookup key with
    | none =>
      (descend dotted step path (if dotted then .dotted else .implied) []).map fun (f, sub) =>
        (form, entries ++ [(key, .table f sub)])
    | some (.table f sub) =>
      if f = .closed ∨ (dotted ∧ f = .header) then none
      else
        (descend dotted step path f sub).map fun (f, sub) =>
          (form, Value.replace key (.table f sub) entries)
    | some (.list true items) =>
      match items.getLast? with
      | some (.table f sub) =>
        (descend dotted step path f sub).map fun (f, sub) =>
          (form, Value.replace key (.list true (items.dropLast ++ [.table f sub])) entries)
      | _ => none
    | some _ => none

/-- Put a setting into a record.  `direct` tells that its key was not dotted, which a record made by
dotted keys does not take, and other records take nothing else. -/
def define (direct : Bool) (key : String) (v : Value) : TableStep := fun form entries =>
  if (form == .dotted) == direct then none
  else if (entries.lookup key).isSome then none
  else some (form, entries ++ [(key, v)])

/-- Put a setting with a key of several parts into a record. -/
def assign (path : List String) (v : Value) : TableStep := fun form entries =>
  match path.getLast? with
  | none => none
  | some key =>
    descend true (define path.dropLast.isEmpty key v) path.dropLast form entries

/-- Open the record under a key.  It may be there only as the way to another header. -/
def openTable (key : String) : TableStep := fun form entries =>
  match entries.lookup key with
  | none => some (form, entries ++ [(key, .table .header [])])
  | some (.table .implied sub) => some (form, Value.replace key (.table .header sub) entries)
  | some _ => none

/-- Open a new element of the list of records under a key. -/
def openElement (key : String) : TableStep := fun form entries =>
  match entries.lookup key with
  | none => some (form, entries ++ [(key, .list true [.table .header []])])
  | some (.list true items) =>
    some (form, Value.replace key (.list true (items ++ [.table .header []])) entries)
  | some _ => none

/-- A document while it is read: its record, and the path of the header in force. -/
structure Document where
  entries : Entries
  header : List String

namespace Document

/-- Before the first line. -/
def empty : Document := ⟨[], []⟩

/-- Carry out an operation on the document's record. -/
def update (d : Document) (path : List String) (step : TableStep) : Option Document :=
  (descend false step path .header d.entries).map fun (_, entries) => { d with entries := entries }

/-- A line with a setting. -/
def addSetting (d : Document) (path : List String) (v : Value) : Option Document :=
  d.update d.header (assign path v)

/-- A line with a header; `element` tells that it opens an element of a list. -/
def addHeader (d : Document) (path : List String) (element : Bool) : Option Document :=
  match path.getLast? with
  | none => none
  | some key =>
    (d.update path.dropLast (if element then openElement key else openTable key)).map fun d =>
      { d with header := path }

end Document

end UriRouting.Toml
