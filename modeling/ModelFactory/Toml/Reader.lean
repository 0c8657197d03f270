import ModelFactory.Toml.Moment
import ModelFactory.Toml.NumberText
import ModelFactory.Toml.Tables

/-!
# Reading TOML text

`documentOf` gives the entries of a text, or `none` if the text is not TOML. Arrays and tables
between braces may stand in each other at most `deepest` deep, and a key has at most as many parts;
the depth bounds the recursion of `readValue`. The loops over elements, entries and lines are
bounded by the length of the text, since each round takes a character.
-/

set_option autoImplicit false

namespace ModelFactory.Toml

/-- How deep values may stand in each other, and how many parts a key may have. -/
def deepest : Nat := 79

/-! ## Blanks and comments -/

/-- The text after blanks within a line. -/
def skipBlanks (chars : List Char) : List Char := chars.dropWhile isBlank

/-- The text after a comment, which stands at its mark. -/
def skipComment (chars : List Char) : List Char :=
  match chars with
  | '#' :: rest => rest.dropWhile isTextChar
  | _ => chars

/-- The text after the end of a line: blanks and a comment may stand before the line break or the
end of the text. -/
def lineEnd? (chars : List Char) : Option (List Char) :=
  match skipComment (skipBlanks chars) with
  | [] => some []
  | rest => afterNewline? rest

/-- The text after blanks, comments and line breaks. A comment has to end with its line. -/
def skipLines : (steps : Nat) → List Char → List Char
  | 0, chars => chars
  | steps + 1, chars =>
    match skipBlanks chars with
    | '#' :: rest =>
      match afterNewline? (rest.dropWhile isTextChar) with
      | some after => skipLines steps after
      | none => '#' :: rest
    | rest =>
      match afterNewline? rest with
      | some after => skipLines steps after
      | none => rest

/-- The text after everything between two elements of an array. -/
def skipGap (chars : List Char) : List Char := skipLines chars.length chars

/-! ## Keys -/

/-- A character of a key without quotes. -/
def isKeyChar (char : Char) : Bool := char.isAlphanum || char == '-' || char == '_'

/-- Reads one part of a key. -/
def readKeyPart (chars : List Char) : Option (String × List Char) :=
  match chars with
  | '"' :: _ | '\'' :: _ => readLineString chars
  | _ =>
    let part := chars.takeWhile isKeyChar
    if part.isEmpty then none else some (.ofList part, chars.dropWhile isKeyChar)

/-- Reads the parts of a key, at most so many, with the blanks around them. -/
def readKeyParts : (most : Nat) → List Char → Option (List String × List Char)
  | 0, _ => none
  | most + 1, chars => do
    let (part, chars) ← readKeyPart (skipBlanks chars)
    match skipBlanks chars with
    | '.' :: rest => do
      let (parts, after) ← readKeyParts most rest
      return (part :: parts, after)
    | rest => return ([part], rest)

/-- The path of a key with these parts. -/
def KeyPath.ofParts? : List String → Option KeyPath
  | [] => none
  | [key] => some ⟨[], key⟩
  | part :: parts => (ofParts? parts).map fun target => ⟨part :: target.path, target.key⟩

/-- Reads a key. -/
def readKey (chars : List Char) : Option (KeyPath × List Char) := do
  let (parts, rest) ← readKeyParts deepest chars
  return (← KeyPath.ofParts? parts, rest)

/-! ## Values -/

/-- A reader of values. -/
abbrev ValueReader := List Char → Option (Value × List Char)

/-- Reads a key, the equals sign and a value. -/
def readEntry (read : ValueReader) (chars : List Char) :
    Option ((KeyPath × Value) × List Char) := do
  let (target, chars) ← readKey chars
  match chars with
  | '=' :: rest =>
    let (value, rest) ← read (skipBlanks rest)
    return ((target, value), rest)
  | _ => none

/-- Reads the elements of an array from the next element on. -/
def readItems (read : ValueReader) : (steps : Nat) → List Char → Option (List Value × List Char)
  | 0, _ => none
  | steps + 1, chars =>
    match skipGap chars with
    | ']' :: rest => some ([], rest)
    | chars => do
      let (item, chars) ← read chars
      match skipGap chars with
      | ']' :: rest => return ([item], rest)
      | ',' :: rest => do
        let (items, after) ← readItems read steps rest
        return (item :: items, after)
      | _ => none

/-- Reads the entries of a table between braces from the next entry on. -/
def readInlineEntries (read : ValueReader) :
    (steps : Nat) → List Char → Option (List (KeyPath × Value) × List Char)
  | 0, _ => none
  | steps + 1, chars => do
    let (entry, chars) ← readEntry read chars
    match skipBlanks chars with
    | '\x7d' :: rest => return ([entry], rest)
    | ',' :: rest => do
      let (entries, after) ← readInlineEntries read steps rest
      return (entry :: entries, after)
    | _ => none

/-- Reads a value of one word or number, or a string. -/
def readScalar (chars : List Char) : Option (Value × List Char) :=
  match chars with
  | '"' :: _ | '\'' :: _ => (readString chars).map fun (text, rest) => (.string text, rest)
  | 't' :: 'r' :: 'u' :: 'e' :: rest => some (.boolean true, rest)
  | 'f' :: 'a' :: 'l' :: 's' :: 'e' :: rest => some (.boolean false, rest)
  | _ =>
    match readMoment chars with
    | some (text, rest) => some (.moment text, rest)
    | none => readNumber chars

/-- Reads a value with at most `room` arrays and tables between braces in each other. -/
def readValue : (room : Nat) → ValueReader
  | 0, chars =>
    match chars with
    | '[' :: _ | '\x7b' :: _ => none
    | _ => readScalar chars
  | room + 1, chars =>
    match chars with
    | '[' :: rest => (readItems (readValue room) (rest.length + 1) rest).map fun (items, after) =>
      (.array items, after)
    | '\x7b' :: rest =>
      match skipBlanks rest with
      | '\x7d' :: after => some (.table .inline [], after)
      | _ => do
        let (entries, after) ← readInlineEntries (readValue room) (rest.length + 1) rest
        return (← inlineTable? entries, after)
    | _ => readScalar chars

/-! ## Lines -/

/-- Reads a header after its opening brackets up to the closing ones. -/
def readHeader (closing : List Char) (chars : List Char) : Option (KeyPath × List Char) := do
  let (target, chars) ← readKey chars
  if closing.isPrefixOf chars then return (target, ← lineEnd? (chars.drop closing.length))
  else none

/-- Reads a line that is not empty, with the text after it. -/
def readLine (draft : Draft) (chars : List Char) : Option (Draft × List Char) :=
  match chars with
  | '[' :: '[' :: rest => do
    let (target, after) ← readHeader [']', ']'] rest
    return (← draft.openRow target, after)
  | '[' :: rest => do
    let (target, after) ← readHeader [']'] rest
    return (← draft.openTable target, after)
  | _ => do
    let ((target, value), rest) ← readEntry (readValue deepest) chars
    let after ← lineEnd? rest
    return (← draft.addLine target value, after)

/-- Reads the lines of a text. -/
def readLines : (steps : Nat) → Draft → List Char → Option Draft
  | 0, _, _ => none
  | steps + 1, draft, chars =>
    match skipGap chars with
    | [] => some draft
    | '#' :: rest => if (lineEnd? ('#' :: rest)).isSome then some draft else none
    | chars => do
      let (draft, rest) ← readLine draft chars
      readLines steps draft rest

/-- The entries of a text. A mark of byte order at its start does not count. -/
def documentOf (text : String) : Option Entries :=
  let chars := match text.toList with
    | '\uFEFF' :: rest => rest
    | chars => chars
  (readLines (chars.length + 1) {} chars).bind (·.closed)

end ModelFactory.Toml
