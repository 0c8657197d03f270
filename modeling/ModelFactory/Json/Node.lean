import ModelFactory.Json.NumberText
import ModelFactory.Json.StringText

/-!
# JSON text as a tree

A `Node` is a value as far as the text gives one. Text without a flaw gives a tree in which every
array and object is closed. In a text with a flaw the tree ends there: a value that is not there is
a `Gap`, and an array or object that is not closed says how it stops.

The tree does not say which flaw is reported. That depends on what the reader of the tree wants at
the place: a value that it takes in, or one that it passes over (`Node.skipFlaw`).
-/

set_option autoImplicit false

namespace ModelFactory.Json

/-- What stands in the place of a value. -/
inductive Gap where
  /-- The text ends. -/
  | textEnds
  /-- A character that starts no value. -/
  | stray
  /-- The start of `null`, `true` or `false`, and then the end of the text or another character. -/
  | word (ended : Bool)
  /-- The start of a number, and then the end of the text or a character that spoils it. -/
  | number (ended : Bool)
deriving DecidableEq

namespace Gap

/-- The flaw that is met when the value is taken in. -/
def readFlaw : Gap → Flaw
  | textEnds => .endInValue
  | stray => .valueExpected
  | word ended => if ended then .endInValue else .wordExpected
  | number ended => if ended then .endInValue else .invalidNumber

/-- The flaw that is met when the value is passed over. -/
def skipFlaw : Gap → Flaw
  | number _ => .invalidNumber
  | gap => gap.readFlaw

end Gap

/-- How an array stops. -/
inductive ArrayStop where
  | closed
  /-- The text ends where an element, a comma or the closing bracket may stand. -/
  | textEnds
  /-- After an element stands neither a comma nor the closing bracket. -/
  | noSeparator
  | closedAfterComma
  | textEndsAfterComma
  /-- The last element is not complete. -/
  | openElement
deriving DecidableEq

mutual

/-- A value as far as the text gives one. -/
inductive Node where
  | null
  | boolean (value : Bool)
  | number (text : NumberText)
  | string (text : StringText)
  | array (items : List Node) (stop : ArrayStop)
  | object (entries : List (StringText × Node)) (stop : ObjectStop)
  | gap (kind : Gap)

/-- How an object stops. -/
inductive ObjectStop where
  | closed
  /-- The text ends where a key, a comma or the closing brace may stand. -/
  | textEnds
  /-- After an entry stands neither a comma nor the closing brace. -/
  | noSeparator
  | closedAfterComma
  | textEndsAfterComma
  /-- In the place of a key stands another value. -/
  | notKey (stands : Node)
  /-- The last key is not complete. -/
  | openKey (key : StringText)
  /-- After the last key stands no colon: the text ends or goes on. -/
  | noColon (key : StringText) (ended : Bool)
  /-- The last value is not complete. -/
  | openValue

end

/-- A whole text: its value, and whether more than blanks stands after it. -/
structure Text where
  root : Node
  trailing : Bool

namespace Node

/-! ## Passing over a value -/

/-- The flaw that stops a reader who passes over the elements of an array. -/
def arraySkipFlaw : ArrayStop → Option Flaw
  | .closed | .openElement => none
  | .textEnds => some .endInList
  | .noSeparator => some .listSeparatorExpected
  | .closedAfterComma => some .valueExpected
  | .textEndsAfterComma => some .endInValue

/-- The flaw that stops a reader who passes over the entries of an object. -/
def objectSkipFlaw : ObjectStop → Option Flaw
  | .closed | .openValue => none
  | .textEnds | .textEndsAfterComma => some .endInObject
  | .noSeparator => some .objectSeparatorExpected
  | .closedAfterComma | .notKey _ => some .keyNotString
  | .openKey key => key.skipFlaw
  | .noColon key ended =>
    key.skipFlaw.or (some (if ended then .endInObject else .colonExpected))

mutual

/-- The first flaw that a reader meets who passes over the value. -/
def skipFlaw : Node → Option Flaw
  | null | boolean _ | number _ => none
  | string text => text.skipFlaw
  | array items stop => (skipFlawOfItems items).or (arraySkipFlaw stop)
  | object entries stop => (skipFlawOfEntries entries).or (objectSkipFlaw stop)
  | .gap kind => some kind.skipFlaw

/-- The first flaw among elements. -/
def skipFlawOfItems : List Node → Option Flaw
  | [] => none
  | item :: rest => (skipFlaw item).or (skipFlawOfItems rest)

/-- The first flaw among entries. -/
def skipFlawOfEntries : List (StringText × Node) → Option Flaw
  | [] => none
  | (key, value) :: rest => key.skipFlaw.or ((skipFlaw value).or (skipFlawOfEntries rest))

end

end Node

end ModelFactory.Json
