import UriRouting.Mapping

/-!
# Tables of literal routes

An `ExactTable` maps canonical paths to mappings.  The first mapping under a path stays: a later one
is not taken in.  Every entry that is ever made is found under its path, so the number of entries is
the number of distinct paths.
-/

namespace UriRouting

/-- Paths with their mappings, in the order in which they were entered. -/
structure ExactTable (H : Type) where
  entries : List (String × Mapping H)

namespace ExactTable

variable {H : Type}

/-- The table without entries. -/
def empty : ExactTable H := ⟨[]⟩

/-- The mapping under a path. -/
def get? (t : ExactTable H) (path : String) : Option (Mapping H) := t.entries.lookup path

/-- Enter a mapping under a path, unless the path is taken; tell whether it was entered. -/
def insert (t : ExactTable H) (path : String) (m : Mapping H) : Bool × ExactTable H :=
  match t.get? path with
  | some _ => (false, t)
  | none => (true, ⟨t.entries ++ [(path, m)]⟩)

/-- The number of paths. -/
def size (t : ExactTable H) : Nat := t.entries.length

/-- Whether there is no path. -/
def isEmpty (t : ExactTable H) : Bool := t.size == 0

end ExactTable

end UriRouting
