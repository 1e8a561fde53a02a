import UriRouting.Unicode.RunText
import UriRouting.Unicode.Runs.Naming

/-!
# Characters of names

The names of groups in a regular expression are made of letters and numerals in the wide sense of
Unicode, as its version 17 has them; the classes that a regular expression can ask for are those
of version 16.
-/

namespace UriRouting.Unicode

/-- The letters, in the wide sense: letters, numerals that are letters, and the marks that behave as
letters. -/
def alphabetic : CharSet := .ofRuns alphabeticRuns

/-- The numerals of any kind. -/
def numerals : CharSet := .ofRuns numeralRuns

end UriRouting.Unicode
