import UriRouting.Toml.Text

/-!
# Numbers and moments in a TOML document

No setting is a number or a moment of time, but a document that holds one has to be well formed.
The readers here take a number or a moment off the front of a text and give back what follows it;
what it was is not kept.  Each reads the longest form that it can, so that anything wrong with a
number shows in what follows it.

Integers have 64 bits, a float must be finite when it is written in digits, and a day must be one of
its month.
-/

namespace UriRouting.Toml

/-- Read digits, which single underscores may part; `value` is the number so far. -/
def readRun (base : Nat) (value : Nat) : List Char → Option (Nat × List Char)
  | [] => some (value, [])
  | '_' :: c :: rest =>
    match Text.hexValue? c with
    | some d => if d < base then readRun base (value * base + d) rest else none
    | none => none
  | '_' :: [] => none
  | c :: rest =>
    match Text.hexValue? c with
    | some d => if d < base then readRun base (value * base + d) rest else some (value, c :: rest)
    | none => some (value, c :: rest)

/-- Read digits, of which there must be one. -/
def readDigits (base : Nat) : List Char → Option (Nat × List Char)
  | [] => none
  | c :: rest =>
    match Text.hexValue? c with
    | some d => if d < base then readRun base d rest else none
    | none => none

/-- Take a sign off the front of a number; tell whether it is negative. -/
def readSign : List Char → Bool × List Char
  | '+' :: rest => (false, rest)
  | '-' :: rest => (true, rest)
  | cs => (false, cs)

/-- Read the digits of a decimal number, of which the first is no zero unless it stands alone. -/
def readDecimal : List Char → Option (Nat × List Char)
  | '0' :: rest => some (0, rest)
  | cs => readDigits 10 cs

/-- The least number that is too great for an integer of 64 bits; its negation is one. -/
def integerLimit : Nat := Nat.pow 2 63

/-- Read an integer. -/
def readInteger (cs : List Char) : Option (List Char) :=
  let bounded (limit : Nat) (r : Option (Nat × List Char)) : Option (List Char) :=
    r.bind fun (n, rest) => if n < limit then some rest else none
  match cs with
  | '0' :: 'x' :: rest => bounded integerLimit (readDigits 16 rest)
  | '0' :: 'o' :: rest => bounded integerLimit (readDigits 8 rest)
  | '0' :: 'b' :: rest => bounded integerLimit (readDigits 2 rest)
  | cs =>
    let (negative, rest) := readSign cs
    bounded (if negative then integerLimit + 1 else integerLimit) (readDecimal rest)

/-- The least number that is too great for a float of 64 bits after rounding. -/
def floatLimit : Nat := Nat.pow 2 1024 - Nat.pow 2 970

/-- The number of decimal digits of a number. -/
def digitCount (n : Nat) : Nat := (Nat.toDigits 10 n).length

/-- Whether `digits * 10 ^ exponent` is too great for a float of 64 bits. -/
def overflows (digits : Nat) (exponent : Int) : Bool :=
  let places := (digitCount digits : Int) + exponent
  if digits = 0 ∨ places < 300 then false
  else if 400 < places then true
  else if 0 ≤ exponent then floatLimit ≤ digits * Nat.pow 10 exponent.toNat
  else floatLimit * Nat.pow 10 (-exponent).toNat ≤ digits

/-- Read an exponent with the letter before it. -/
def readExponent : List Char → Option (Int × List Char)
  | c :: rest =>
    if c = 'e' ∨ c = 'E' then
      let (negative, rest) := readSign rest
      (readDigits 10 rest).map fun (n, rest) => (if negative then -(n : Int) else n, rest)
    else none
  | [] => none

/-- The digits before a text, without underscores. -/
def digitsBefore (cs rest : List Char) : List Char :=
  (cs.take (cs.length - rest.length)).filter Char.isDigit

/-- Read a float in digits: an integer with a fraction, an exponent, or both. -/
def readFloat (cs : List Char) : Option (List Char) := do
  let (negative, digits) := readSign cs
  let (whole, rest) ← readDecimal digits
  let (value, places, more) ←
    match rest with
    | '.' :: fraction => do
      let (_, more) ← readDigits 10 fraction
      let read := digitsBefore fraction more
      some (read.foldl (fun n c => n * 10 + Text.digitValue c) whole, read.length, more)
    | rest => some (whole, 0, rest)
  let finish (exponent : Int) (after : List Char) : Option (List Char) :=
    if !negative && overflows value (exponent - places) then none else some after
  match readExponent more with
  | some (exponent, after) => finish exponent after
  | none => if more.length < rest.length then finish 0 more else none

/-- Read one of the floats that have a name. -/
def readNamedFloat (cs : List Char) : Option (List Char) :=
  match (readSign cs).2 with
  | 'i' :: 'n' :: 'f' :: rest => some rest
  | 'n' :: 'a' :: 'n' :: rest => some rest
  | _ => none

/-- Read exactly the given count of digits. -/
def readFixed (value : Nat) : Nat → List Char → Option (Nat × List Char)
  | 0, rest => some (value, rest)
  | count + 1, cs =>
    match cs with
    | [] => none
    | c :: rest =>
      if c.isDigit then readFixed (value * 10 + Text.digitValue c) count rest else none

/-- The number of days of a month. -/
def daysOf (year month : Nat) : Nat :=
  if month = 2 then
    if year % 4 = 0 ∧ (year % 100 ≠ 0 ∨ year % 400 = 0) then 29 else 28
  else if month = 4 ∨ month = 6 ∨ month = 9 ∨ month = 11 then 30
  else 31

/-- Take a sign that has to be there off the front of a text. -/
def expect (sign : Char) : List Char → Option (List Char)
  | c :: rest => if c = sign then some rest else none
  | [] => none

/-- Read a day. -/
def readDate (cs : List Char) : Option (List Char) := do
  let (year, cs) ← readFixed 0 4 cs
  let cs ← expect '-' cs
  let (month, cs) ← readFixed 0 2 cs
  let cs ← expect '-' cs
  let (day, cs) ← readFixed 0 2 cs
  if 1 ≤ month ∧ month ≤ 12 ∧ 1 ≤ day ∧ day ≤ daysOf year month then some cs else none

/-- Read a time of day. -/
def readTime (cs : List Char) : Option (List Char) := do
  let (hour, cs) ← readFixed 0 2 cs
  let cs ← expect ':' cs
  let (minute, cs) ← readFixed 0 2 cs
  let cs ← expect ':' cs
  let (second, cs) ← readFixed 0 2 cs
  if hour ≤ 23 ∧ minute ≤ 59 ∧ second ≤ 60 then
    match cs with
    | '.' :: fraction =>
      match fraction.dropWhile Char.isDigit with
      | rest => if rest.length < fraction.length then some rest else some cs
    | cs => some cs
  else none

/-- Read the distance from universal time, if there is one. -/
def readOffset (cs : List Char) : List Char :=
  match cs with
  | 'Z' :: rest => rest
  | 'z' :: rest => rest
  | c :: rest =>
    if c = '+' ∨ c = '-' then
      (do
        let (hour, rest) ← readFixed 0 2 rest
        let rest ← expect ':' rest
        let (minute, rest) ← readFixed 0 2 rest
        if hour ≤ 23 ∧ minute ≤ 59 then some rest else none : Option (List Char)).getD cs
    else cs
  | [] => []

/-- Read a moment: a day, a time of day, or both, then with or without the distance from universal
time. -/
def readMoment (cs : List Char) : Option (List Char) :=
  match readDate cs with
  | some rest =>
    match rest with
    | c :: time =>
      if c = 'T' ∨ c = 't' ∨ c = ' ' then
        match readTime time with
        | some after => some (readOffset after)
        | none => some rest
      else some rest
    | [] => some []
  | none => readTime cs

end UriRouting.Toml
