import UriRouting.Unicode.RunText
import UriRouting.Unicode.Runs.Hidden

/-!
# Quoted text

`quote` writes text between double quotes so that it can be read in a log: a backslash stands
before quotes and backslashes, four controls have a letter or digit of their own, and what cannot
be shown on its own is written by its number in hexadecimal.
-/

namespace UriRouting.Text

/-- The characters that do not show on their own: controls, format characters, marks that continue
the character before them, separators other than the blank, and what is private, unassigned or may
be ignored. -/
def hidden : Unicode.CharSet := .ofRuns Unicode.hiddenRuns

/-- One character between quotes. -/
def quoteChar (c : Char) : List Char :=
  match c with
  | '\x00' => ['\\', '0']
  | '\t' => ['\\', 't']
  | '\r' => ['\\', 'r']
  | '\n' => ['\\', 'n']
  | '\\' => ['\\', '\\']
  | '"' => ['\\', '"']
  | c =>
    if hidden.contains c then ['\\', 'u', '\x7b'] ++ Nat.toDigits 16 c.toNat ++ ['\x7d']
    else [c]

/-- A text between quotes. -/
def quote (text : String) : String :=
  String.ofList (['"'] ++ text.toList.flatMap quoteChar ++ ['"'])

end UriRouting.Text
