/-!
# Request methods

The closed set of methods that routes are registered under: the eight of the core protocol with
`PATCH`, the WebDAV families, and `PURGE`.  A method is written in upper case, and its name is
case-sensitive.

`Method.all` lists the methods in the order of their ordinals, and `MethodMap` is a table with one
entry for every method, read and written at the ordinal.
-/

namespace UriRouting

/-- A request method. -/
inductive Method where
  | connect
  | delete
  | get
  | head
  | options
  | patch
  | post
  | put
  | trace
  | copy
  | lock
  | mkcol
  | move
  | propfind
  | proppatch
  | unlock
  | mkcalendar
  | report
  | search
  | purge
  deriving DecidableEq, Repr

namespace Method

/-- The number of methods. -/
def count : Nat := 20

/-- Every method, in the order of the ordinals. -/
def all : List Method :=
  [.connect, .delete, .get, .head, .options, .patch, .post, .put, .trace, .copy, .lock, .mkcol,
    .move, .propfind, .proppatch, .unlock, .mkcalendar, .report, .search, .purge]

/-- The place of a method in `Method.all`, and in every table kept by method. -/
def ordinal (m : Method) : Fin count :=
  ⟨m.ctorIdx, by cases m <;> decide⟩

/-- The name of a method as it stands in a request. -/
def name : Method → String
  | connect => "CONNECT"
  | delete => "DELETE"
  | get => "GET"
  | head => "HEAD"
  | options => "OPTIONS"
  | patch => "PATCH"
  | post => "POST"
  | put => "PUT"
  | trace => "TRACE"
  | copy => "COPY"
  | lock => "LOCK"
  | mkcol => "MKCOL"
  | move => "MOVE"
  | propfind => "PROPFIND"
  | proppatch => "PROPPATCH"
  | unlock => "UNLOCK"
  | mkcalendar => "MKCALENDAR"
  | report => "REPORT"
  | search => "SEARCH"
  | purge => "PURGE"

/-- The method with the given name. -/
def ofName? (text : String) : Option Method :=
  all.find? fun m => m.name == text

/-- A method's name names it, and no other text does. -/
theorem ofName?_name (m : Method) : ofName? m.name = some m := by
  cases m <;> decide

/-- The methods stand in `all` at their ordinals. -/
theorem all_get_ordinal (m : Method) : all[m.ordinal.val]? = some m := by
  cases m <;> rfl

/-! ## Method tokens

A request may carry any token as its method.  What is no token is malformed; a token outside the
closed set is well formed and unknown. -/

/-- The characters that a token is made of: letters, digits, and fifteen marks. -/
def isTokenChar (c : Char) : Bool :=
  c.isAlphanum || "!#$%&'*+-.^_`|~".toList.contains c

/-- Why a text gives no method. -/
inductive TokenFault where
  | malformed
  | unknown
  deriving DecidableEq, Repr

/-- The method that a request's token names. -/
def ofToken (text : String) : Except TokenFault Method :=
  if text.toList.isEmpty || !text.toList.all isTokenChar then .error .malformed
  else
    match ofName? text with
    | some m => .ok m
    | none => .error .unknown

end Method

/-- A table with one entry for every method. -/
structure MethodMap (α : Type) where
  slots : Vector α Method.count

namespace MethodMap

variable {α : Type}

/-- The table that holds `a` for every method. -/
def replicate (a : α) : MethodMap α := ⟨Vector.replicate Method.count a⟩

/-- The entry of a method. -/
def get (t : MethodMap α) (m : Method) : α := t.slots[m.ordinal]

/-- Write the entry of a method. -/
def set (t : MethodMap α) (m : Method) (a : α) : MethodMap α := ⟨t.slots.set m.ordinal a⟩

end MethodMap

end UriRouting
