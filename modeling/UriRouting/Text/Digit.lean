/-!
# Digits and numbers of characters

Texts spell numbers in decimal and hexadecimal digits, and characters by their numbers.
`digitValue` and `hexValue?` give the values of the digits, and `charOfNumber?` the character with
a number; surrogates and what lies beyond the last character are the numbers of none.
-/

namespace UriRouting.Text

/-- The value of a decimal digit. -/
def digitValue (c : Char) : Nat := c.toNat - '0'.toNat

/-- The value of a hexadecimal digit, in either case. -/
def hexValue? (c : Char) : Option Nat :=
  if c.isDigit then some (digitValue c)
  else if 'a' ≤ c ∧ c ≤ 'f' then some (c.toNat - 'a'.toNat + 10)
  else if 'A' ≤ c ∧ c ≤ 'F' then some (c.toNat - 'A'.toNat + 10)
  else none

/-- The character with a number, if there is one. -/
def charOfNumber? (n : Nat) : Option Char :=
  if n.isValidChar then some (Char.ofNat n) else none

/-- The number of a character leads back to it. -/
theorem charOfNumber?_toNat (c : Char) : charOfNumber? c.toNat = some c := by
  have h : c.toNat.isValidChar := c.valid
  simp [charOfNumber?, h]

end UriRouting.Text
