import ModelFactory.Json.Node
import ModelFactory.Record.Shape
import ModelFactory.Decimal.Notation

/-!
# Faults of JSON documents

A document is refused for a flaw of its text or for a fault of its data. The text is read from left
to right, so the first of the two in reading order is reported.
-/

set_option autoImplicit false

namespace ModelFactory.Json

open Record (DataFault Found Wanted)

/-- Why a document is refused. -/
inductive Fault where
  | flaw (reason : Flaw)
  | data (reason : DataFault)
deriving DecidableEq

namespace Fault

/-- The message to the user. -/
def message : Fault → String
  | .flaw reason => reason.message
  | .data reason => reason.message

/-- A flaw, if there is one, stops the reader. -/
def stopAt : Option Flaw → Except Fault Unit
  | some reason => .error (.flaw reason)
  | none => .ok ()

end Fault

namespace StringText

/-- The string that is written, or the fault of its text. -/
def read? (text : StringText) : Except Fault String := text.decoded.mapError .flaw

/-- The first flaw that a reader meets who takes the string in. -/
def readFlaw (text : StringText) : Option Flaw :=
  match text.decoded with
  | .ok _ => none
  | .error reason => some reason

end StringText

namespace Node

/-- The fault of a value of another type than the reader wants. A scalar is read to its end
first. -/
def refused (node : Node) (wanted : Wanted) : Fault :=
  let wrongType (found : Found) : Fault := .data (.wrongType found wanted)
  match node with
  | null => wrongType .null
  | boolean value => wrongType (.boolean value)
  | number text =>
    match text.value with
    | .integer value => wrongType (.integer value)
    | .binary value => wrongType (.binary (Decimal.floatText .compact value))
    | .outOfRange => .flaw .numberOutOfRange
  | string text =>
    match text.decoded with
    | .ok value => wrongType (.string value)
    | .error reason => .flaw reason
  | array _ _ => wrongType .sequence
  | object _ _ => wrongType .map
  | gap kind => .flaw kind.readFlaw

/-! ## Arrays and objects that are taken in -/

/-- The flaw that stops a reader after the elements of an array. -/
def arrayReadFlaw : ArrayStop → Option Flaw
  | .closed | .openElement => none
  | .textEnds => some .endInList
  | .noSeparator => some .listSeparatorExpected
  | .closedAfterComma => some .trailingComma
  | .textEndsAfterComma => some .endInValue

/-- The flaw that stops a reader who has taken all that it wants from an array, when so many
elements are left. -/
def arraySurplusFlaw (left : Nat) (stop : ArrayStop) : Option Flaw :=
  if left > 0 then some .trailingCharacters
  else
    match stop with
    | .closed | .openElement => none
    | .textEnds => some .endInList
    | .closedAfterComma => some .trailingComma
    | .noSeparator | .textEndsAfterComma => some .trailingCharacters

/-- The flaw that stops a reader after the entries of an object. -/
def objectReadFlaw : ObjectStop → Option Flaw
  | .closed | .openValue => none
  | .textEnds => some .endInObject
  | .noSeparator => some .objectSeparatorExpected
  | .closedAfterComma => some .trailingComma
  | .textEndsAfterComma => some .endInValue
  | .notKey _ => some .keyNotString
  | .openKey key => key.readFlaw
  | .noColon key ended =>
    key.readFlaw.or (some (if ended then .endInObject else .colonExpected))

/-- The first flaw that a reader meets who takes in the value whatever it is. `room` is the number
of arrays and objects that may still be open. -/
def readFlaw : (room : Nat) → Node → Option Flaw
  | _, null | _, boolean _ => none
  | _, number text =>
    match text.value with
    | .outOfRange => some .numberOutOfRange
    | _ => none
  | _, string text => text.readFlaw
  | _, gap kind => some kind.readFlaw
  | 0, array _ _ | 0, object _ _ => some .tooDeep
  | room + 1, array items stop => (items.findSome? (readFlaw room)).or (arrayReadFlaw stop)
  | room + 1, object entries stop =>
    (entries.findSome? fun (key, value) => key.readFlaw.or (readFlaw room value)).or
      (objectReadFlaw stop)

/-- The string that the value is, if it is one. -/
def string? : Node → Option String
  | string text => text.decoded.toOption
  | _ => none

end Node

end ModelFactory.Json
