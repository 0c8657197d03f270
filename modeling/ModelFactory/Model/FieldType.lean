/-!
# Types of model fields

A `FieldType` is the declared type of a field without its nullability. `FieldType.rendered` is the
type as it stands in source text, the text that project-wide defaults are keyed by.

`FieldType.depth` and `FieldType.leaf` view a type as a number of list brackets around a type that
is no list: `FieldType.nested_depth_leaf` says that nothing is lost.
-/

set_option autoImplicit false

namespace ModelFactory

/-- The scalar types of the generated language. -/
inductive Primitive where
  | string
  | integer
  | double
  | number
  | boolean
  | dateTime
deriving DecidableEq

namespace Primitive

/-- The name in source text. -/
def rendered : Primitive → String
  | string => "String"
  | integer => "int"
  | double => "double"
  | number => "num"
  | boolean => "bool"
  | dateTime => "DateTime"

/-- The spellings that a description may use, in the order in which a refusal lists them: the name
in source text, then the name of the kind. -/
def spellings : List (String × Primitive) :=
  [("String", string), ("string", string), ("int", integer), ("integer", integer),
    ("double", double), ("float", double), ("num", number), ("number", number),
    ("bool", boolean), ("boolean", boolean), ("DateTime", dateTime), ("datetime", dateTime)]

/-- The primitive that a spelling stands for. -/
def ofSpelling? (word : String) : Option Primitive := spellings.lookup word

/-- The rendered name is a spelling of its primitive. -/
theorem ofSpelling?_rendered (kind : Primitive) : ofSpelling? kind.rendered = some kind := by
  cases kind <;> decide

end Primitive

/-- The declared type of a model field. -/
inductive FieldType where
  | primitive (kind : Primitive)
  | enumeration (name : String) (constants : List String)
  | list (element : FieldType)
  | model (name : String)
deriving DecidableEq

namespace FieldType

/-- The bare name, without the element type of a list. -/
def typeName : FieldType → String
  | primitive kind => kind.rendered
  | enumeration name _ => name
  | list _ => "List"
  | model name => name

/-- The type as it stands in source text, such as `List<UserRole>`. -/
def rendered : FieldType → String
  | list element => "List<" ++ element.rendered ++ ">"
  | primitive kind => kind.rendered
  | enumeration name _ => name
  | model name => name

/-- The rendered type with the mark of an optional value. -/
def renderedOptional (type : FieldType) : String := type.rendered ++ "?"

/-! ## Lists around a leaf -/

/-- The number of lists around the leaf. -/
def depth : FieldType → Nat
  | list element => element.depth + 1
  | _ => 0

/-- The innermost type, which is no list. -/
def leaf : FieldType → FieldType
  | list element => element.leaf
  | type => type

/-- The type inside so many lists. -/
def nested : Nat → FieldType → FieldType
  | 0, type => type
  | n + 1, type => list (nested n type)

/-- A type is its leaf inside its lists. -/
theorem nested_depth_leaf (type : FieldType) : nested type.depth type.leaf = type := by
  induction type with
  | list element ih => simp [depth, leaf, nested, ih]
  | _ => rfl

/-- The leaf is no list. -/
theorem depth_leaf (type : FieldType) : type.leaf.depth = 0 := by
  induction type with
  | list element ih => exact ih
  | _ => rfl

/-- A type that is no list is its own leaf. -/
theorem leaf_eq_self {type : FieldType} (h : type.depth = 0) : type.leaf = type := by
  cases type with
  | list element => cases h
  | _ => rfl

/-- A type that is no list renders as its bare name. -/
theorem rendered_eq_typeName {type : FieldType} (h : type.depth = 0) :
    type.rendered = type.typeName := by
  cases type with
  | list element => simp [depth] at h
  | _ => rfl

end FieldType

end ModelFactory
