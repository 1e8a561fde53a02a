/-!
# Configuration values

A configuration may be written in more than one format; what is read from any of them is a `Value`.
It keeps what a setting can be made of: truth values, texts, lists and records.  Numbers and moments
of time are kept only as such, because no setting is one.

A format that builds its records piece by piece marks how open each still is, in a `TableForm`;
once a text has been read, the marks say nothing.
-/

namespace UriRouting

/-- How a record came about, which decides what may still be added to it. -/
inductive TableForm where
  /-- Written as a whole. -/
  | closed
  /-- Opened by a header of its own. -/
  | header
  /-- Passed on the way to a header further down. -/
  | implied
  /-- Passed by the dotted key of a setting. -/
  | dotted
  deriving DecidableEq, Repr

/-- A value in a configuration. -/
inductive Value where
  | null
  | boolean (b : Bool)
  | text (s : String)
  | number
  | moment
  /-- A list; `growing` tells that each of its elements came with a header. -/
  | list (growing : Bool) (items : List Value)
  | table (form : TableForm) (entries : List (String × Value))

namespace Value

/-- The entries of a record. -/
abbrev Entries := List (String × Value)

/-- Put a value in the place of the one under a key. -/
def replace (key : String) (v : Value) : Entries → Entries
  | [] => []
  | (k, old) :: rest => if k = key then (k, v) :: rest else (k, old) :: replace key v rest

end Value

end UriRouting
