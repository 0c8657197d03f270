import ModelFactory.Descriptor.Schema
import ModelFactory.Json.Values

/-!
# Descriptors in JSON

`documentOfJson` reads a descriptor from JSON text. The readers of its parts stand alone as well:
`typeOfJson`, `primitiveOfJson` and `kindOfJson` read a text that holds one part only.
-/

set_option autoImplicit false

namespace ModelFactory.Descriptor

open Json (Fault Place Node)
open Json.Place (TagBody)

namespace FromJson

/-- A primitive: a word, or a word with nothing. -/
def readPrimitive : Place → Except Fault Primitive :=
  Json.Place.readTagged primitiveOfWord fun kind body =>
    match body with
    | .bare => .ok kind
    | .value place => place.readNothing.map fun _ => kind

/-- The body of an enumeration. -/
def readEnumeration : Place → Except Fault FieldType :=
  Json.Place.readRecord (enumerationShape Json.Place.readString
    (Json.Place.readList Json.Place.readString))

/-- A type, at most so many lists deep. -/
def readTypeWithin : (depth : Nat) → Place → Except Fault FieldType
  | 0 => fun _ => .error (.flaw .tooDeep)
  | depth + 1 =>
    Json.Place.readTagged TypeTag.ofWord fun tag body =>
      match body with
      | .bare => .error (.data tag.bareFault)
      | .value place =>
        match tag with
        | .primitive => (readPrimitive place).map .primitive
        | .enumeration => readEnumeration place
        | .list => (readTypeWithin depth place).map .list
        | .model => place.readString.map .model

/-- A type. Each of its objects takes room, so the depth is bounded by the room. -/
def readType (place : Place) : Except Fault FieldType := readTypeWithin (place.room + 1) place

/-- A kind: any word, or an object of a known word with nothing. The whole value is read before it
is looked at. -/
def readKind (place : Place) : Except Fault DeclarationKind := do
  Json.Fault.stopAt (place.node.readFlaw place.room)
  match place.node with
  | .string text => return .ofWord (← text.read?)
  | .object [(key, .null)] _ =>
    match DeclarationKind.ofKnownWord? (← key.read?) with
    | some kind => return kind
    | none => throw (.data .unmatchedKind)
  | _ => throw (.data .unmatchedKind)

/-- How JSON gives single values. -/
def readers : ValueReaders Place Fault where
  string := Json.Place.readString
  optionalString := Json.Place.readOptionalString
  boolean := Json.Place.readBoolean
  kind := readKind
  type := readType
  expression := Json.Place.readAny
  expressions := Json.Place.readTable

/-- A field. -/
def readField : Place → Except Fault FieldData := Json.Place.readRecord (fieldShape readers)

/-- A declaration. -/
def readClass : Place → Except Fault ClassData :=
  Json.Place.readRecord (classShape readers (Json.Place.readList readField))

/-- A document. -/
def readDocument : Place → Except Fault DocumentData :=
  Json.Place.readRecord (documentShape readers (Json.Place.readList readClass))

end FromJson

/-- The document that a JSON text describes. -/
def documentOfJson (text : String) : Except Fault DocumentData :=
  Json.Place.readText FromJson.readDocument text

/-- The type that a JSON text describes. -/
def typeOfJson (text : String) : Except Fault FieldType :=
  Json.Place.readText FromJson.readType text

/-- The primitive that a JSON text names. -/
def primitiveOfJson (text : String) : Except Fault Primitive :=
  Json.Place.readText FromJson.readPrimitive text

/-- The kind that a JSON text names. -/
def kindOfJson (text : String) : Except Fault DeclarationKind :=
  Json.Place.readText FromJson.readKind text

end ModelFactory.Descriptor
