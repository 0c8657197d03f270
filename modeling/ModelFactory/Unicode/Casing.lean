import ModelFactory.Unicode.CasingTable

/-!
# Letter case

`isLowercase` and `isUppercase` are the properties of one character, and `smallLetters` is its full
mapping to small letters, which no neighbour changes. Every ASCII character is decided without the
table.
-/

set_option autoImplicit false

namespace ModelFactory.Unicode

/-- The property Lowercase. -/
def isLowercase (char : Char) : Bool :=
  if char.toNat < 0x80 then 'a' ≤ char && char ≤ 'z' else lowercase.hasChar char

/-- The property Uppercase. -/
def isUppercase (char : Char) : Bool :=
  if char.toNat < 0x80 then 'A' ≤ char && char ≤ 'Z' else uppercase.hasChar char

/-- The code point of the small letter. -/
def smallLetterCode (code : Nat) : Nat :=
  match smallLetterRuns.find? (·.capitals.has code) with
  | some run => (code + run.distance).toNat
  | none => code

/-- The small letters of a character. One character has two: the capital i with a dot becomes the
small i followed by a dot above. -/
def smallLetters (char : Char) : List Char :=
  if char.toNat < 0x80 then [char.toLower]
  else if char.toNat = 0x130 then ['i', Char.ofNat 0x307]
  else [Char.ofNat (smallLetterCode char.toNat)]

end ModelFactory.Unicode
