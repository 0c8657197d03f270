import ModelFactory.Descriptor.Data
import ModelFactory.Record.Shape

/-!
# The records of a descriptor

The shapes of the four records of a descriptor, for any format: their words, the order of their
slots and the entries that they cannot do without. A format brings the readers of single values
(`ValueReaders`).
-/

set_option autoImplicit false

namespace ModelFactory.Descriptor

open Record (DataFault Shape Slot Wanted)

/-- How a format reads single values. -/
structure ValueReaders (Source Fault : Type) where
  string : Source → Except Fault String
  optionalString : Source → Except Fault (Option String)
  boolean : Source → Except Fault Bool
  kind : Source → Except Fault DeclarationKind
  type : Source → Except Fault FieldType
  /-- Any value: its text, if it is text. -/
  expression : Source → Except Fault (Option String)
  /-- A table of any values. -/
  expressions : Source → Except Fault (List (String × Option String))

/-- The value of a required entry. -/
def required {Value : Type} (word : String) : Option Value → Except String Value
  | some value => .ok value
  | none => .error word

/-! ## Types -/

/-- The tags of a type. -/
inductive TypeTag where
  | primitive
  | enumeration
  | list
  | model
deriving DecidableEq

namespace TypeTag

/-- The words of the tags. -/
def words : List (String × TypeTag) :=
  [("primitive", primitive), ("enum", enumeration), ("list", list), ("named", model)]

/-- The tag that a word stands for. -/
def ofWord (word : String) : Except DataFault TypeTag :=
  match words.lookup word with
  | some tag => .ok tag
  | none => .error (.unknownVariant word (words.map (·.1)))

/-- What has to follow the tag. -/
def wanted : TypeTag → Wanted
  | enumeration => .recordVariant
  | _ => .singleVariant

/-- The fault of a tag that stands alone. -/
def bareFault (tag : TypeTag) : DataFault := .wrongType .bareVariant tag.wanted

end TypeTag

/-- The primitive that a word stands for. -/
def primitiveOfWord (word : String) : Except DataFault Primitive :=
  match Primitive.ofSpelling? word with
  | some kind => .ok kind
  | none => .error (.unknownVariant word (Primitive.spellings.map (·.1)))

/-- An enumeration as far as it is read. -/
structure EnumerationDraft where
  name : Option String := none
  constants : List String := []

/-- The record of an enumeration. -/
def enumerationShape {Source Fault : Type} (readString : Source → Except Fault String)
    (readStrings : Source → Except Fault (List String)) :
    Shape Source Fault EnumerationDraft FieldType where
  kind := .enumeration
  blank := {}
  slots := [
    .ofReader "name" readString fun draft name => { draft with name := some name },
    .ofReader "constants" readStrings fun draft constants => { draft with constants }]
  finish draft := do
    return .enumeration (← required "name" draft.name) draft.constants

/-! ## Fields, declarations and documents -/

/-- A field as far as it is read. -/
structure FieldDraft where
  name : Option String := none
  type : Option FieldType := none
  nullable : Bool := false
  default : Option String := none
  isStatic : Bool := false
  synthetic : Bool := false
  isPublic : Bool := true

/-- The record of a field. -/
def fieldShape {Source Fault : Type} (readers : ValueReaders Source Fault) :
    Shape Source Fault FieldDraft FieldData where
  kind := .field
  blank := {}
  slots := [
    .ofReader "name" readers.string fun draft name => { draft with name := some name },
    .ofReader "type" readers.type fun draft type => { draft with type := some type },
    .ofReader "nullable" readers.boolean fun draft nullable => { draft with nullable },
    .ofReader "default" readers.expression fun draft text => { draft with default := text },
    .ofReader "static" readers.boolean fun draft isStatic => { draft with isStatic },
    .ofReader "synthetic" readers.boolean fun draft synthetic => { draft with synthetic },
    .ofReader "public" readers.boolean fun draft isPublic => { draft with isPublic }]
  finish draft := do
    return {
      name := ← required "name" draft.name
      type := ← required "type" draft.type
      nullable := draft.nullable
      default := draft.default
      isStatic := draft.isStatic
      synthetic := draft.synthetic
      isPublic := draft.isPublic }

/-- A declaration as far as it is read. -/
structure ClassDraft where
  name : Option String := none
  kind : DeclarationKind := .classLike
  defaults : List (String × Option String) := []
  fields : List FieldData := []

/-- The record of a declaration. -/
def classShape {Source Fault : Type} (readers : ValueReaders Source Fault)
    (readFields : Source → Except Fault (List FieldData)) :
    Shape Source Fault ClassDraft ClassData where
  kind := .declaration
  blank := {}
  slots := [
    .ofReader "name" readers.string fun draft name => { draft with name := some name },
    .ofReader "kind" readers.kind fun draft kind => { draft with kind },
    .ofReader "defaults" readers.expressions fun draft defaults => { draft with defaults },
    .ofReader "fields" readFields fun draft fields => { draft with fields }]
  finish draft := do
    return ⟨← required "name" draft.name, draft.kind, draft.defaults, draft.fields⟩

/-- The record of a document. -/
def documentShape {Source Fault : Type} (readers : ValueReaders Source Fault)
    (readClasses : Source → Except Fault (List ClassData)) :
    Shape Source Fault DocumentData DocumentData where
  kind := .document
  blank := {}
  slots := [
    .ofReader "library" readers.optionalString fun draft library => { draft with library },
    .ofReader "classes" readClasses fun draft classes => { draft with classes }]
  finish := .ok

end ModelFactory.Descriptor
