/-!
# Flaws of JSON text

Why text is refused as JSON. A flaw in which the text ended too early is kept apart from the
others (`Flaw.textEnded`).
-/

set_option autoImplicit false

namespace ModelFactory.Json

/-- Why text is refused. -/
inductive Flaw where
  | endInValue
  | endInString
  | endInList
  | endInObject
  | valueExpected
  | wordExpected
  | invalidNumber
  | numberOutOfRange
  | invalidEscape
  | controlCharacter
  | loneSurrogate
  | unfinishedSurrogatePair
  | keyNotString
  | colonExpected
  | listSeparatorExpected
  | objectSeparatorExpected
  | trailingComma
  | trailingCharacters
  | tooDeep
deriving DecidableEq

namespace Flaw

/-- The text ended before the value did. -/
def textEnded : Flaw → Bool
  | endInValue | endInString | endInList | endInObject => true
  | _ => false

/-- The message to the user. -/
def message : Flaw → String
  | endInValue => "EOF while parsing a value"
  | endInString => "EOF while parsing a string"
  | endInList => "EOF while parsing a list"
  | endInObject => "EOF while parsing an object"
  | valueExpected => "expected value"
  | wordExpected => "expected ident"
  | invalidNumber => "invalid number"
  | numberOutOfRange => "number out of range"
  | invalidEscape => "invalid escape"
  | controlCharacter => "control character (\\u0000-\\u001F) found while parsing a string"
  | loneSurrogate => "lone leading surrogate in hex escape"
  | unfinishedSurrogatePair => "unexpected end of hex escape"
  | keyNotString => "key must be a string"
  | colonExpected => "expected `:`"
  | listSeparatorExpected => "expected `,` or `]`"
  | objectSeparatorExpected => "expected `,` or `\x7d`"
  | trailingComma => "trailing comma"
  | trailingCharacters => "trailing characters"
  | tooDeep => "recursion limit exceeded"

end Flaw

end ModelFactory.Json
