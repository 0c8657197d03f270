import ModelFactory.Text.Digits

/-!
# TOML strings

A string stands between quotes (`readBasic`, with escapes) or apostrophes (`readLiteral`, without).
Three marks in place of one let it go over several lines. In such a string a line break is read as
one line feed, the line break right after the opening marks does not count, and a backslash at the
end of a line takes away all blanks and line breaks up to the next character.
-/

set_option autoImplicit false

namespace ModelFactory.Toml

/-- A tab, or any character that is no control. -/
def isTextChar (char : Char) : Bool :=
  char == '\t' || (0x20 ≤ char.toNat && char.toNat != 0x7f)

/-- A character that blanks within a line are made of. -/
def isBlank (char : Char) : Bool := char == ' ' || char == '\t'

/-- The character whose code point has these hexadecimal digits. -/
def codedChar? (digits : List Char) : Option Char := do
  let code := Text.digitsNumber 16 (← digits.mapM Text.hexDigit?)
  if h : code.isValidChar then some (Char.ofNatAux code h) else none

/-- The character of an escape of one letter. -/
def shortEscape? : Char → Option Char
  | 'b' => some '\x08'
  | 'f' => some '\x0c'
  | 'n' => some '\n'
  | 'r' => some '\r'
  | 't' => some '\t'
  | '"' => some '"'
  | '\\' => some '\\'
  | _ => none

/-- Where a reader is in a string. -/
inductive Spot where
  | text
  /-- After a backslash and blanks: the line has to end. -/
  | lineEnd
  /-- After a line break that a backslash took away. -/
  | trimmed
deriving DecidableEq

/-- Puts a character in front of what a reader gives. -/
def consChar (char : Char) (result : Option (List Char × List Char)) :
    Option (List Char × List Char) :=
  result.map fun (chars, rest) => (char :: chars, rest)

/-- Reads a string with escapes after its opening marks, with what stands after it. -/
def readBasic (multiline : Bool) : Spot → List Char → Option (List Char × List Char)
  | _, [] => none
  | .lineEnd, '\r' :: '\n' :: rest => readBasic multiline .trimmed rest
  | .lineEnd, char :: rest =>
    if isBlank char then readBasic multiline .lineEnd rest
    else if char = '\n' then readBasic multiline .trimmed rest
    else none
  | .trimmed, ' ' :: rest => readBasic multiline .trimmed rest
  | .trimmed, '\t' :: rest => readBasic multiline .trimmed rest
  | .trimmed, '\n' :: rest => readBasic multiline .trimmed rest
  | .trimmed, '\r' :: '\n' :: rest => readBasic multiline .trimmed rest
  | _, '\\' :: 'u' :: a :: b :: c :: d :: rest =>
    match codedChar? [a, b, c, d] with
    | some char => consChar char (readBasic multiline .text rest)
    | none => none
  | _, '\\' :: 'U' :: a :: b :: c :: d :: e :: f :: g :: h :: rest =>
    match codedChar? [a, b, c, d, e, f, g, h] with
    | some char => consChar char (readBasic multiline .text rest)
    | none => none
  | _, '\\' :: '\r' :: '\n' :: rest =>
    if multiline then readBasic multiline .trimmed rest else none
  | _, '\\' :: escape :: rest =>
    match shortEscape? escape with
    | some char => consChar char (readBasic multiline .text rest)
    | none =>
      if !multiline then none
      else if isBlank escape then readBasic multiline .lineEnd rest
      else if escape = '\n' then readBasic multiline .trimmed rest
      else none
  | _, '"' :: rest =>
    if !multiline then some ([], rest)
    else
      match rest with
      | '"' :: '"' :: '"' :: '"' :: after => some (['"', '"'], after)
      | '"' :: '"' :: '"' :: after => some (['"'], after)
      | '"' :: '"' :: after => some ([], after)
      | _ => consChar '"' (readBasic multiline .text rest)
  | _, '\r' :: '\n' :: rest =>
    if multiline then consChar '\n' (readBasic multiline .text rest) else none
  | _, char :: rest =>
    if isTextChar char && char != '\\' || multiline && char == '\n' then
      consChar char (readBasic multiline .text rest)
    else none

/-- Reads a string without escapes after its opening marks, with what stands after it. -/
def readLiteral (multiline : Bool) : List Char → Option (List Char × List Char)
  | [] => none
  | '\'' :: rest =>
    if !multiline then some ([], rest)
    else
      match rest with
      | '\'' :: '\'' :: '\'' :: '\'' :: after => some (['\'', '\''], after)
      | '\'' :: '\'' :: '\'' :: after => some (['\''], after)
      | '\'' :: '\'' :: after => some ([], after)
      | _ => consChar '\'' (readLiteral multiline rest)
  | '\r' :: '\n' :: rest =>
    if multiline then consChar '\n' (readLiteral multiline rest) else none
  | char :: rest =>
    if isTextChar char || multiline && char == '\n' then
      consChar char (readLiteral multiline rest)
    else none

/-- The text after a line break, if it starts with one. -/
def afterNewline? : List Char → Option (List Char)
  | '\n' :: rest => some rest
  | '\r' :: '\n' :: rest => some rest
  | _ => none

/-- The text after a line break that may be there. -/
def skipNewline (chars : List Char) : List Char := (afterNewline? chars).getD chars

/-- Reads a string of one line. -/
def readLineString : List Char → Option (String × List Char)
  | '"' :: rest => (readBasic false .text rest).map fun (chars, after) => (.ofList chars, after)
  | '\'' :: rest => (readLiteral false rest).map fun (chars, after) => (.ofList chars, after)
  | _ => none

/-- Reads a string of any form. -/
def readString : List Char → Option (String × List Char)
  | '"' :: '"' :: '"' :: rest =>
    (readBasic true .text (skipNewline rest)).map fun (chars, after) => (.ofList chars, after)
  | '\'' :: '\'' :: '\'' :: rest =>
    (readLiteral true (skipNewline rest)).map fun (chars, after) => (.ofList chars, after)
  | chars => readLineString chars

end ModelFactory.Toml
