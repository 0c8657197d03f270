import ModelFactory.Json.Fault
import ModelFactory.Json.Reader

/-!
# Taking values from JSON trees

A `Place` is a node with the number of arrays and objects that may still be opened there. The
readers of this module take one kind of value from a place. `Place.readRecord` reads a record of any
shape, from an object by its words or from an array by position.
-/

set_option autoImplicit false

namespace ModelFactory.Json

open Record (DataFault Shape Slot)

/-- A node and the room for arrays and objects below it. -/
structure Place where
  node : Node
  room : Nat

/-- The number of arrays and objects that may be open at a time. -/
def deepest : Nat := 127

namespace Place

variable {Value Draft Data : Type}

/-- The room inside an array or object. -/
def opened (place : Place) : Except Fault Nat :=
  match place.room with
  | 0 => .error (.flaw .tooDeep)
  | room + 1 => .ok room

/-- A string. -/
def readString (place : Place) : Except Fault String :=
  match place.node with
  | .string text => text.read?
  | node => .error (node.refused .string)

/-- A string, or nothing. -/
def readOptionalString (place : Place) : Except Fault (Option String) :=
  match place.node with
  | .null => .ok none
  | _ => place.readString.map some

/-- A truth value. -/
def readBoolean (place : Place) : Except Fault Bool :=
  match place.node with
  | .boolean value => .ok value
  | node => .error (node.refused .boolean)

/-- Nothing. -/
def readNothing (place : Place) : Except Fault Unit :=
  match place.node with
  | .null => .ok ()
  | node => .error (node.refused .nothing)

/-- Any value: the string that it is, if it is one. -/
def readAny (place : Place) : Except Fault (Option String) := do
  Fault.stopAt (place.node.readFlaw place.room)
  return place.node.string?

/-- A list of values. -/
def readList (read : Place → Except Fault Value) (place : Place) : Except Fault (List Value) :=
  match place.node with
  | .array items stop => do
    let room ← place.opened
    let values ← items.mapM fun item => read ⟨item, room⟩
    Fault.stopAt (Node.arrayReadFlaw stop)
    return values
  | node => .error (node.refused .sequence)

/-- The entries of a table of any values, in order. -/
def readTable (place : Place) : Except Fault (List (String × Option String)) :=
  match place.node with
  | .object entries stop => do
    let room ← place.opened
    let values ← entries.mapM fun (key, value) => do
      return (← key.read?, ← readAny ⟨value, room⟩)
    Fault.stopAt (Node.objectReadFlaw stop)
    return values
  | node => .error (node.refused .map)

/-! ## Records -/

/-- A record that is being read: the draft and the words of the entries in it. -/
structure Progress (Draft : Type) where
  draft : Draft
  words : List String := []

/-- The slot that a key has in a record, which must not have been filled in yet. -/
def nextSlot? (shape : Shape Place Fault Draft Data) (progress : Progress Draft)
    (key : StringText) : Except Fault (Option (Slot Place Fault Draft)) := do
  match shape.slot? (← key.read?) with
  | some slot =>
    if progress.words.contains slot.word then throw (.data (.repeatedEntry slot.word))
    return some slot
  | none => return none

/-- Takes in one entry. An entry without a slot is passed over. -/
def readEntry (shape : Shape Place Fault Draft Data) (room : Nat) (progress : Progress Draft)
    (entry : StringText × Node) : Except Fault (Progress Draft) := do
  match ← nextSlot? shape progress entry.1 with
  | some slot =>
    let fill ← slot.fill ⟨entry.2, room⟩
    return ⟨fill progress.draft, slot.word :: progress.words⟩
  | none =>
    Fault.stopAt entry.2.skipFlaw
    return progress

/-- What stops a reader after the entries of a record. A key without a colon is looked at first. -/
def stopEntries (shape : Shape Place Fault Draft Data) (progress : Progress Draft) :
    ObjectStop → Except Fault Unit
  | .noColon key ended => do
    let _ ← nextSlot? shape progress key
    Fault.stopAt (Node.objectReadFlaw (.noColon key ended))
  | stop => Fault.stopAt (Node.objectReadFlaw stop)

/-- A record from its entries. -/
def readNamed (shape : Shape Place Fault Draft Data) (room : Nat)
    (entries : List (StringText × Node)) (stop : ObjectStop) : Except Fault Data := do
  let progress ← entries.foldlM (readEntry shape room) ⟨shape.blank, []⟩
  stopEntries shape progress stop
  (shape.finishNamed progress.draft).mapError .data

/-- A record from a list of values in the order of the slots. -/
def readListed (shape : Shape Place Fault Draft Data) (room : Nat) (items : List Node)
    (stop : ArrayStop) : Except Fault Data := do
  let draft ← (shape.slots.zip items).foldlM (fun draft (slot, item) => do
    return (← slot.fill ⟨item, room⟩) draft) shape.blank
  if items.length < shape.slots.length then
    Fault.stopAt (Node.arrayReadFlaw stop)
    (shape.finishListed draft items.length).mapError .data
  else
    Fault.stopAt (Node.arraySurplusFlaw (items.length - shape.slots.length) stop)
    (shape.finishListed draft items.length).mapError .data

/-- A record. -/
def readRecord (shape : Shape Place Fault Draft Data) (place : Place) : Except Fault Data :=
  match place.node with
  | .array items stop => do readListed shape (← place.opened) items stop
  | .object entries stop => do readNamed shape (← place.opened) entries stop
  | node => .error (node.refused (.record shape.kind))

/-! ## Tagged values -/

/-- What a tagged value has after its tag. -/
inductive TagBody where
  /-- The tag stands alone, as a string. -/
  | bare
  /-- The value of the one entry of an object. -/
  | value (place : Place)

/-- A tagged value: a string, or an object whose one key is the tag. The tag is read before what
stands after it. -/
def readTagged {Tag : Type} (readTag : String → Except DataFault Tag)
    (readBody : Tag → TagBody → Except Fault Value) (place : Place) : Except Fault Value :=
  let tagged (key : StringText) : Except Fault Tag := do (readTag (← key.read?)).mapError .data
  match place.node with
  | .string text => do readBody (← tagged text) .bare
  | .object entries stop => do
    let room ← place.opened
    match entries, stop with
    | (key, value) :: rest, stop =>
      let result ← readBody (← tagged key) (.value ⟨value, room⟩)
      match rest, stop with
      | [], .closed => return result
      | [], .textEnds => throw (.flaw .endInObject)
      | _, _ => throw (.flaw .valueExpected)
    | [], .textEnds => throw (.flaw .endInValue)
    | [], .notKey _ => throw (.flaw .keyNotString)
    | [], .openKey key => let _ ← tagged key; throw (.flaw .valueExpected)
    | [], .noColon key ended =>
      let _ ← tagged key
      throw (.flaw (if ended then .endInObject else .colonExpected))
    | [], _ => throw (.flaw .valueExpected)
  | .gap .textEnds => .error (.flaw .endInValue)
  | _ => .error (.flaw .valueExpected)

/-! ## Whole texts -/

/-- Reads one value that is the whole text. -/
def readText (read : Place → Except Fault Value) (text : String) : Except Fault Value := do
  let tree := Text.read text
  let value ← read ⟨tree.root, deepest⟩
  Fault.stopAt (if tree.trailing then some .trailingCharacters else none)
  return value

end Place

end ModelFactory.Json
