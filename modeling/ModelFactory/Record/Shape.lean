import ModelFactory.Record.Fault

/-!
# Shapes of records

A `Shape` says how a record is put together from named entries: its slots in the order in which a
list gives them, a draft that each slot fills in, and how the draft is finished. The format that the
entries are written in is a parameter: `Source` is a value of the format and `Fault` the reason why
one is refused.
-/

set_option autoImplicit false

namespace ModelFactory.Record

/-- An entry that a record knows. -/
structure Slot (Source Fault Draft : Type) where
  word : String
  /-- Other words for the entry. -/
  otherWords : List String := []
  /-- What the value of the entry changes in the draft. -/
  fill : Source → Except Fault (Draft → Draft)

/-- The slot has this word. -/
def Slot.isNamed {Source Fault Draft : Type} (slot : Slot Source Fault Draft) (word : String) :
    Bool :=
  word == slot.word || slot.otherWords.contains word

/-- A slot that reads a value and puts it into the draft. -/
def Slot.ofReader {Source Fault Draft Value : Type} (word : String)
    (read : Source → Except Fault Value) (put : Draft → Value → Draft) :
    Slot Source Fault Draft where
  word
  fill source := (read source).map fun value draft => put draft value

/-- How a record is put together from its entries. -/
structure Shape (Source Fault Draft Data : Type) where
  kind : RecordKind
  slots : List (Slot Source Fault Draft)
  blank : Draft
  /-- The record of a draft, or the word of the first entry that it misses. -/
  finish : Draft → Except String Data

namespace Shape

variable {Source Fault Draft Data : Type}

/-- The slot with this word. -/
def slot? (shape : Shape Source Fault Draft Data) (word : String) :
    Option (Slot Source Fault Draft) :=
  shape.slots.find? (·.isNamed word)

/-- The words of the slots. -/
def words (shape : Shape Source Fault Draft Data) : List String := shape.slots.map (·.word)

/-- The record of a draft whose entries were named. -/
def finishNamed (shape : Shape Source Fault Draft Data) (draft : Draft) : Except DataFault Data :=
  (shape.finish draft).mapError .missingEntry

/-- The record of a draft that was filled in from a list of so many values. -/
def finishListed (shape : Shape Source Fault Draft Data) (draft : Draft) (count : Nat) :
    Except DataFault Data :=
  (shape.finish draft).mapError fun _ => .wrongLength count shape.kind shape.slots.length

end Shape

end ModelFactory.Record
