import UriRouting.Unicode.RunText
import UriRouting.Unicode.Runs.Category

/-!
# General categories

Every code point has one of thirty general categories.  `Category.members` is the set of the
characters of some categories, and `Category.named?` gives the categories that a name stands for:
a name of one category, or of a group such as the letters.  Names are compared in the loose form
of `looseName`, in lower case and without separators.
-/

namespace UriRouting.Unicode

/-- A general category, named by its code. -/
inductive Category where
  | lu | ll | lt | lm | lo
  | mn | mc | me
  | nd | nl | no
  | pc | pd | ps | pe | pi | pf | po
  | sm | sc | sk | so
  | zs | zl | zp
  | cc | cf | cs | co | cn
  deriving DecidableEq, Repr

namespace Category

/-- The two-letter code of a category. -/
def code : Category → String
  | lu => "Lu" | ll => "Ll" | lt => "Lt" | lm => "Lm" | lo => "Lo"
  | mn => "Mn" | mc => "Mc" | me => "Me"
  | nd => "Nd" | nl => "Nl" | no => "No"
  | pc => "Pc" | pd => "Pd" | ps => "Ps" | pe => "Pe" | pi => "Pi" | pf => "Pf" | po => "Po"
  | sm => "Sm" | sc => "Sc" | sk => "Sk" | so => "So"
  | zs => "Zs" | zl => "Zl" | zp => "Zp"
  | cc => "Cc" | cf => "Cf" | cs => "Cs" | co => "Co" | cn => "Cn"

def letters : List Category := [.lu, .ll, .lt, .lm, .lo]
def casedLetters : List Category := [.lu, .ll, .lt]
def marks : List Category := [.mn, .mc, .me]
def numerals : List Category := [.nd, .nl, .no]
def punctuation : List Category := [.pc, .pd, .ps, .pe, .pi, .pf, .po]
def symbols : List Category := [.sm, .sc, .sk, .so]
def separators : List Category := [.zs, .zl, .zp]
def others : List Category := [.cc, .cf, .cs, .co, .cn]

/-- Every category. -/
def all : List Category :=
  letters ++ marks ++ numerals ++ punctuation ++ symbols ++ separators ++ others

/-- The code of the category of every code point. -/
def table : List (Nat × String) := taggedRuns categoryRuns

/-- The characters of some categories. -/
def members (cs : List Category) : CharSet := .ofTags (cs.map code).contains table

/-- The names of the categories and of their groups. -/
def names : List (List String × List Category) :=
  [(["l", "letter"], letters),
    (["lc", "casedletter"], casedLetters),
    (["lu", "uppercaseletter"], [.lu]),
    (["ll", "lowercaseletter"], [.ll]),
    (["lt", "titlecaseletter"], [.lt]),
    (["lm", "modifierletter"], [.lm]),
    (["lo", "otherletter"], [.lo]),
    (["m", "mark", "combiningmark"], marks),
    (["mn", "nonspacingmark"], [.mn]),
    (["mc", "spacingmark"], [.mc]),
    (["me", "enclosingmark"], [.me]),
    (["n", "number"], numerals),
    (["nd", "decimalnumber", "digit"], [.nd]),
    (["nl", "letternumber"], [.nl]),
    (["no", "othernumber"], [.no]),
    (["p", "punctuation", "punct"], punctuation),
    (["pc", "connectorpunctuation"], [.pc]),
    (["pd", "dashpunctuation"], [.pd]),
    (["ps", "openpunctuation"], [.ps]),
    (["pe", "closepunctuation"], [.pe]),
    (["pi", "initialpunctuation"], [.pi]),
    (["pf", "finalpunctuation"], [.pf]),
    (["po", "otherpunctuation"], [.po]),
    (["s", "symbol"], symbols),
    (["sm", "mathsymbol"], [.sm]),
    (["sc", "currencysymbol"], [.sc]),
    (["sk", "modifiersymbol"], [.sk]),
    (["so", "othersymbol"], [.so]),
    (["z", "separator"], separators),
    (["zs", "spaceseparator"], [.zs]),
    (["zl", "lineseparator"], [.zl]),
    (["zp", "paragraphseparator"], [.zp]),
    (["c", "other"], others),
    (["cc", "control", "cntrl"], [.cc]),
    (["cf", "format"], [.cf]),
    (["co", "privateuse"], [.co]),
    (["cn", "unassigned"], [.cn])]

/-- The categories that a loose name stands for.  The surrogates have no name here, because no
character is one. -/
def named? (name : String) : Option (List Category) :=
  (names.find? fun entry => entry.1.contains name).map Prod.snd

end Category

end UriRouting.Unicode
