import ModelFactory.Descriptor.Schema
import ModelFactory.Toml.Values

/-!
# Descriptors in TOML

`documentOfToml` reads a descriptor from TOML text. The records are those of `Descriptor.Schema`.
-/

set_option autoImplicit false

namespace ModelFactory.Descriptor

open Record (DataFault)
open Toml (Value)

namespace FromToml

/-- A primitive: a word, or a table of a word with nothing. -/
def readPrimitive : Value → Except DataFault Primitive
  | .string word => primitiveOfWord word
  | .table _ [(word, body)] => do
    let kind ← primitiveOfWord word
    body.readNothing
    return kind
  | .table _ entries => .error (.notOneEntry !entries.isEmpty)
  | _ => .error .neitherWordNorTable

/-- The body of an enumeration, which has no other entries than its own. -/
def readEnumeration : Value → Except DataFault FieldType :=
  Value.readStrictRecord (enumerationShape Value.readString (Value.readList Value.readString))

/-- A type. -/
def readType : Value → Except DataFault FieldType
  | .string word => do throw (← TypeTag.ofWord word).bareFault
  | .table _ [(word, body)] =>
    match TypeTag.ofWord word with
    | .error fault => .error fault
    | .ok .primitive => (readPrimitive body).map .primitive
    | .ok .enumeration => readEnumeration body
    | .ok .list => (readType body).map .list
    | .ok .model => body.readString.map .model
  | .table _ entries => .error (.notOneEntry !entries.isEmpty)
  | _ => .error .neitherWordNorTable

/-- A kind: any word. -/
def readKind : Value → Except DataFault DeclarationKind
  | .string word => .ok (.ofWord word)
  | _ => .error .unmatchedKind

/-- How TOML gives single values. -/
def readers : ValueReaders Value DataFault where
  string := Value.readString
  optionalString value := value.readString.map some
  boolean := Value.readBoolean
  kind := readKind
  type := readType
  expression value := .ok value.string?
  expressions := Value.readTable

/-- A field. -/
def readField : Value → Except DataFault FieldData := Value.readRecord (fieldShape readers)

/-- A declaration. -/
def readClass : Value → Except DataFault ClassData :=
  Value.readRecord (classShape readers (Value.readList readField))

/-- A document. -/
def readDocument : Toml.Entries → Except DataFault DocumentData :=
  Value.readNamed (documentShape readers (Value.readList readClass))

end FromToml

/-- The document that a TOML text describes. -/
def documentOfToml (text : String) : Except Toml.Fault DocumentData :=
  Toml.readDocument FromToml.readDocument text

end ModelFactory.Descriptor
