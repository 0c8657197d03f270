import ModelFactory.Model.Declaration

/-!
# Described data

A descriptor lists everything that was found in a source library, fields that no factory takes
included, and holds override tables with values of any sort. `DocumentData.document` keeps what
counts: fields of instances that are written by hand and public, and overrides that are text.
-/

set_option autoImplicit false

namespace ModelFactory.Descriptor

/-- A described field. -/
structure FieldData where
  name : String
  type : FieldType
  nullable : Bool := false
  /-- The expression given at the field. Data other than text count as none. -/
  default : Option String := none
  isStatic : Bool := false
  /-- The field was made by a compiler. -/
  synthetic : Bool := false
  isPublic : Bool := true
deriving DecidableEq

namespace FieldData

/-- Only a public instance field written by hand reaches a factory. -/
def isInstanceField (field : FieldData) : Bool :=
  !field.isStatic && !field.synthetic && field.isPublic

/-- The field of the model. -/
def field (data : FieldData) : Field := ⟨data.name, data.type, data.nullable⟩

/-- The override given at the field. -/
def override? (data : FieldData) : Option (String × String) :=
  data.default.map fun expression => (data.name, expression)

end FieldData

/-- A described declaration. -/
structure ClassData where
  name : String
  kind : DeclarationKind := .classLike
  /-- The overrides in order, each with its text if it is text. -/
  defaults : List (String × Option String) := []
  fields : List FieldData := []
deriving DecidableEq

/-- One entry laid over a table: data other than text take away what the table has. -/
def putOverride (table : OverrideTable) (entry : String × Option String) : OverrideTable :=
  match entry.2 with
  | some expression => table.insert entry.1 expression
  | none => table.erase entry.1

/-- The overrides that are text. Of two entries with one key only the later counts. -/
def overridesOf (entries : List (String × Option String)) : OverrideTable :=
  entries.foldl putOverride ∅

namespace ClassData

/-- The fields that reach a factory. -/
def instanceFields (data : ClassData) : List FieldData := data.fields.filter (·.isInstanceField)

/-- The declaration of the model. -/
def declaration (data : ClassData) : Declaration where
  name := data.name
  kind := data.kind
  fields := data.instanceFields.map (·.field)
  fieldDefaults := .ofEntries (data.instanceFields.filterMap (·.override?))
  classDefaults := overridesOf data.defaults

end ClassData

/-- A described source library. -/
structure DocumentData where
  library : Option String := none
  classes : List ClassData := []
deriving DecidableEq

/-- The document of the model. -/
def DocumentData.document (data : DocumentData) : Document :=
  ⟨data.library, data.classes.map (·.declaration)⟩

end ModelFactory.Descriptor
