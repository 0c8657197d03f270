import ModelFactory.Json.Node

/-!
# Reading JSON text

`Text.read` gives the tree of a text. It is total: a flaw ends the tree and is kept in it. A reader
of one value returns the node and, unless a flaw ended the text, what stands after the node.

The recursion is bounded by a number of steps computed from the length of the text: each character
costs at most two.
-/

set_option autoImplicit false

namespace ModelFactory.Json

/-- The four characters that may stand between the parts of a text. -/
def isBlank (char : Char) : Bool :=
  char == ' ' || char == '\n' || char == '\t' || char == '\r'

/-- The text from the next character that is no blank. -/
def skipBlanks (chars : List Char) : List Char := chars.dropWhile isBlank

/-- The rest of a word: `none` if a character differs or the text ends. -/
def readWord (word : List Char) (value : Node) (chars : List Char) : Node × Option (List Char) :=
  if word.isPrefixOf chars then (value, some (chars.drop word.length))
  else (.gap (.word (chars.isPrefixOf word)), none)

/-- A number that starts with the first character. -/
def readNumber (chars : List Char) : Node × Option (List Char) :=
  match NumberText.read chars with
  | .ok (number, rest) => (.number number, some rest)
  | .error flaw => (.gap (.number flaw.textEnded), none)

mutual

/-- Reads a value. -/
def readValue : (steps : Nat) → List Char → Node × Option (List Char)
  | 0, _ => (.gap .textEnds, none)
  | steps + 1, chars =>
    match skipBlanks chars with
    | [] => (.gap .textEnds, none)
    | 'n' :: rest => readWord ['u', 'l', 'l'] .null rest
    | 't' :: rest => readWord ['r', 'u', 'e'] (.boolean true) rest
    | 'f' :: rest => readWord ['a', 'l', 's', 'e'] (.boolean false) rest
    | '"' :: rest =>
      let (text, after) := StringText.read rest
      (.string text, after)
    | '[' :: rest =>
      match skipBlanks rest with
      | [] => (.array [] .textEnds, none)
      | ']' :: after => (.array [] .closed, some after)
      | rest =>
        let (items, stop, after) := readItems steps rest
        (.array items stop, after)
    | '\x7b' :: rest =>
      match skipBlanks rest with
      | [] => (.object [] .textEnds, none)
      | '\x7d' :: after => (.object [] .closed, some after)
      | rest =>
        let (entries, stop, after) := readEntries steps rest
        (.object entries stop, after)
    | char :: rest =>
      if char == '-' || char.isDigit then readNumber (char :: rest) else (.gap .stray, none)

/-- Reads the elements of an array from the next element on. -/
def readItems : (steps : Nat) → List Char → List Node × ArrayStop × Option (List Char)
  | 0, _ => ([], .textEnds, none)
  | steps + 1, chars =>
    match readValue steps chars with
    | (item, none) => ([item], .openElement, none)
    | (item, some rest) =>
      match skipBlanks rest with
      | [] => ([item], .textEnds, none)
      | ']' :: after => ([item], .closed, some after)
      | ',' :: rest =>
        match skipBlanks rest with
        | [] => ([item], .textEndsAfterComma, none)
        | ']' :: _ => ([item], .closedAfterComma, none)
        | rest =>
          let (items, stop, after) := readItems steps rest
          (item :: items, stop, after)
      | _ => ([item], .noSeparator, none)

/-- Reads the entries of an object from the next key on. -/
def readEntries :
    (steps : Nat) → List Char → List (StringText × Node) × ObjectStop × Option (List Char)
  | 0, _ => ([], .textEnds, none)
  | steps + 1, chars =>
    match chars with
    | '"' :: rest =>
      match StringText.read rest with
      | (key, none) => ([], .openKey key, none)
      | (key, some rest) =>
        match skipBlanks rest with
        | [] => ([], .noColon key true, none)
        | ':' :: rest =>
          match readValue steps rest with
          | (value, none) => ([(key, value)], .openValue, none)
          | (value, some rest) =>
            match skipBlanks rest with
            | [] => ([(key, value)], .textEnds, none)
            | '\x7d' :: after => ([(key, value)], .closed, some after)
            | ',' :: rest =>
              match skipBlanks rest with
              | [] => ([(key, value)], .textEndsAfterComma, none)
              | '\x7d' :: _ => ([(key, value)], .closedAfterComma, none)
              | rest =>
                let (entries, stop, after) := readEntries steps rest
                ((key, value) :: entries, stop, after)
            | _ => ([(key, value)], .noSeparator, none)
        | _ => ([], .noColon key false, none)
    | _ => ([], .notKey (readValue steps chars).1, none)

end

/-- Reads a whole text. -/
def Text.read (text : String) : Text :=
  let chars := text.toList
  let (root, after) := readValue (2 * chars.length + 2) chars
  ⟨root, match after with
    | some rest => !(skipBlanks rest).isEmpty
    | none => false⟩

end ModelFactory.Json
