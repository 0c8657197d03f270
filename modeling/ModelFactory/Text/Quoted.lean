import ModelFactory.Unicode.PrintableTable

/-!
# Quoted text

`Text.quoted` shows a text between double quotes so that every character can be told: a quote and a
backslash follow a backslash, and a character that shows nothing of its own, or that changes the
one before it, is written with its code point.
-/

set_option autoImplicit false

namespace ModelFactory.Text

/-- The characters that have a short escape, with the letter of the escape. -/
def shortEscapes : List (Char × Char) :=
  [('\x00', '0'), ('\t', 't'), ('\n', 'n'), ('\r', 'r'), ('"', '"'), ('\\', '\\')]

/-- The hexadecimal digits of a code point. -/
def hexDigits (code : Nat) : List Char := Nat.toDigits 16 code

/-- A character between quotes. -/
def quotedChar (char : Char) : List Char :=
  match shortEscapes.lookup char with
  | some letter => ['\\', letter]
  | none =>
    if Unicode.graphemeExtend.hasChar char || Unicode.unprintable.hasChar char then
      '\\' :: 'u' :: '\x7b' :: hexDigits char.toNat ++ ['\x7d']
    else [char]

/-- A text between quotes. -/
def quoted (text : String) : String :=
  String.ofList ('"' :: text.toList.flatMap quotedChar ++ ['"'])

end ModelFactory.Text
