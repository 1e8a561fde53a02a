/-!
# Text as bytes

The byte keys of the routing trie, the lengths that aliases are ordered by, and the files that
configurations are read from are text in UTF-8.  `utf8` encodes characters; `decodeLossy` reads
bytes that may be cut in the middle of a character, and puts the replacement character in place of
each longest piece that no character can begin with or continue; `decode?` accepts only what
`utf8` can have written.
-/

namespace UriRouting.Text

/-- The bytes of some characters. -/
def utf8 (cs : List Char) : List UInt8 :=
  cs.flatMap String.utf8EncodeChar

/-- The character that stands for bytes which are no character. -/
def replacement : Char := '\ufffd'

/-- A character whose first bytes have been read: how many bytes it still owes, its value so far,
and the bounds for the next byte. -/
structure Pending where
  owed : Nat
  value : Nat
  low : UInt8
  high : UInt8
  deriving DecidableEq, Repr

/-- What a byte outside ASCII begins, if it can begin a character.  The bounds for the second byte
keep out overlong forms, surrogates, and numbers beyond the last character. -/
def Pending.ofLead? (b : UInt8) : Option Pending :=
  let n := b.toNat
  if 0xc2 ≤ n ∧ n ≤ 0xdf then some ⟨1, n - 0xc0, 0x80, 0xbf⟩
  else if n = 0xe0 then some ⟨2, 0, 0xa0, 0xbf⟩
  else if n = 0xed then some ⟨2, 0xd, 0x80, 0x9f⟩
  else if 0xe1 ≤ n ∧ n ≤ 0xef then some ⟨2, n - 0xe0, 0x80, 0xbf⟩
  else if n = 0xf0 then some ⟨3, 0, 0x90, 0xbf⟩
  else if n = 0xf4 then some ⟨3, 4, 0x80, 0x8f⟩
  else if 0xf1 ≤ n ∧ n ≤ 0xf3 then some ⟨3, n - 0xf0, 0x80, 0xbf⟩
  else none

/-- The value of a pending character with one more byte. -/
def Pending.extend (p : Pending) (b : UInt8) : Nat := p.value * 64 + b.toNat % 64

/-- Begin a character: what can be written down at once, and what is pending after the byte. -/
def beginChar (b : UInt8) : List Char × Option Pending :=
  if b.toNat < 128 then ([Char.ofNat b.toNat], none)
  else
    match Pending.ofLead? b with
    | some p => ([], some p)
    | none => ([replacement], none)

/-- Read bytes after what is pending. -/
def decodeFrom (pending : Option Pending) : List UInt8 → List Char
  | [] => if pending.isSome then [replacement] else []
  | b :: bs =>
    match pending with
    | none => (beginChar b).1 ++ decodeFrom (beginChar b).2 bs
    | some p =>
      if p.low ≤ b ∧ b ≤ p.high then
        if p.owed ≤ 1 then Char.ofNat (p.extend b) :: decodeFrom none bs
        else decodeFrom (some ⟨p.owed - 1, p.extend b, 0x80, 0xbf⟩) bs
      else replacement :: ((beginChar b).1 ++ decodeFrom (beginChar b).2 bs)

/-- Read bytes, putting the replacement character for what is no character. -/
def decodeLossy (bs : List UInt8) : List Char := decodeFrom none bs

/-- Read bytes that are the encoding of some characters. -/
def decode? (bs : List UInt8) : Option (List Char) :=
  if utf8 (decodeLossy bs) = bs then some (decodeLossy bs) else none

end UriRouting.Text
