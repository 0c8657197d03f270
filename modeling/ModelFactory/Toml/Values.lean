import ModelFactory.Decimal.Notation
import ModelFactory.Record.Shape
import ModelFactory.Toml.Reader

/-!
# Taking values from TOML data

The readers of this module take one kind of value. `readRecord` reads a record of any shape, from a
table by its words or from an array by position. Where data are asked for, a date is a table with
one entry.
-/

set_option autoImplicit false

namespace ModelFactory.Toml

open Record (DataFault Found Wanted Shape)

/-- Why a text is refused. -/
inductive Fault where
  /-- The text is not TOML. -/
  | grammar
  | data (reason : DataFault)
deriving DecidableEq

namespace Value

variable {Data Draft : Type}

/-- The key of the entry that stands for a date. -/
def momentKey : String := "$__toml_private_datetime"

/-- What the value is as data. -/
def found : Value → Found
  | string text => .string text
  | integer value => .integer value
  | binary value => .binary (Decimal.floatText .positional value)
  | boolean value => .boolean value
  | array _ | tables _ => .sequence
  | table _ _ | moment _ => .map

/-- The fault of a value of another type than the reader wants. -/
def refused (value : Value) (wanted : Wanted) : DataFault := .wrongType value.found wanted

/-- The elements of a sequence. -/
def items? : Value → Option (List Value)
  | array items => some items
  | tables rows => some (rows.map (.table .header))
  | _ => none

/-- The entries of a map. -/
def entries? : Value → Option Entries
  | table _ entries => some entries
  | moment text => some [(momentKey, string text)]
  | _ => none

/-- The string that the value is, if it is one. -/
def string? : Value → Option String
  | string text => some text
  | _ => none

/-- A string. -/
def readString (value : Value) : Except DataFault String :=
  match value with
  | string text => .ok text
  | _ => .error (value.refused .string)

/-- A truth value. -/
def readBoolean (value : Value) : Except DataFault Bool :=
  match value with
  | boolean truth => .ok truth
  | _ => .error (value.refused .boolean)

/-- A list of values. -/
def readList (read : Value → Except DataFault Data) (value : Value) :
    Except DataFault (List Data) :=
  match value.items? with
  | some items => items.mapM read
  | none => .error (value.refused .sequence)

/-- The entries of a table of any values, each with its string if it is one. -/
def readTable (value : Value) : Except DataFault (List (String × Option String)) :=
  match value.entries? with
  | some entries => .ok (entries.map fun (key, value) => (key, value.string?))
  | none => .error (value.refused .map)

/-! ## Records -/

/-- Takes in one entry of a record. An entry without a slot is passed over. -/
def readEntryOf (shape : Shape Value DataFault Draft Data) (progress : Draft × List String)
    (entry : String × Value) : Except DataFault (Draft × List String) :=
  match shape.slot? entry.1 with
  | none => .ok progress
  | some slot =>
    if progress.2.contains slot.word then .error (.repeatedEntry slot.word)
    else (slot.fill entry.2).map fun fill => (fill progress.1, slot.word :: progress.2)

/-- A record from its entries. -/
def readNamed (shape : Shape Value DataFault Draft Data) (entries : Entries) :
    Except DataFault Data := do
  let (draft, _) ← entries.foldlM (readEntryOf shape) (shape.blank, [])
  shape.finishNamed draft

/-- A record from a list of values in the order of the slots. More values do not count. -/
def readListed (shape : Shape Value DataFault Draft Data) (items : List Value) :
    Except DataFault Data := do
  let draft ← (shape.slots.zip items).foldlM (fun draft (slot, item) => do
    return (← slot.fill item) draft) shape.blank
  shape.finishListed draft items.length

/-- A record. -/
def readRecord (shape : Shape Value DataFault Draft Data) (value : Value) : Except DataFault Data :=
  match value.items?, value.entries? with
  | some items, _ => readListed shape items
  | none, some entries => readNamed shape entries
  | none, none => .error (value.refused (.record shape.kind))

/-- A record that must not have entries without a slot. -/
def readStrictRecord (shape : Shape Value DataFault Draft Data) (value : Value) :
    Except DataFault Data :=
  let unknown := match value with
    | table _ entries => (entries.map (·.1)).filter fun key => (shape.slot? key).isNone
    | _ => []
  if unknown.isEmpty then readRecord shape value
  else .error (.unexpectedEntries unknown shape.words)

/-- The nothing that stands after a tag. -/
def readNothing (value : Value) : Except DataFault Unit :=
  match value with
  | table _ [] | array [] => .ok ()
  | table _ _ | array _ => .error .emptyTableWanted
  | tables _ => .error .emptyArrayWanted
  | _ => .error (.tableWanted value.sortName)

end Value

/-- The data of a text. -/
def readDocument {Data : Type} (read : Entries → Except DataFault Data) (text : String) :
    Except Fault Data :=
  match documentOf text with
  | some entries => (read entries).mapError .data
  | none => .error .grammar

end ModelFactory.Toml
