import ModelFactory.Unicode.CodeSet

/-!
# White space

`isBlank` is the property White_Space of one character, and `trimmed` is a text without the blanks
at its ends.
-/

set_option autoImplicit false

namespace ModelFactory.Unicode

/-- The code points with the property White_Space. -/
def whiteSpace : CodeSet := .ofBounds [
    (0x9, 0xd), (0x20, 0x20), (0x85, 0x85), (0xa0, 0xa0), (0x1680, 0x1680), (0x2000, 0x200a),
    (0x2028, 0x2029), (0x202f, 0x202f), (0x205f, 0x205f), (0x3000, 0x3000)]

/-- The property White_Space. -/
def isBlank (char : Char) : Bool := whiteSpace.hasChar char

/-- A text without the blanks at its start. -/
def trimmedStart (chars : List Char) : List Char := chars.dropWhile isBlank

/-- A text without the blanks at its ends. -/
def trimmed (text : String) : String :=
  String.ofList (trimmedStart (trimmedStart text.toList).reverse).reverse

end ModelFactory.Unicode
