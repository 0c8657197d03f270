import ModelFactory.Calendar.Date
import ModelFactory.Default.Source
import ModelFactory.Factory.Name
import ModelFactory.Model.Declaration

/-!
# Resolving the default of a field

The tiers are asked strictly in order and the first answer stands:

1. the override given at the field, by the field's name;
2. the override given at the class, by the field's name;
3. `null`, if the field is nullable;
4. the override of the field's rendered type;
5. the built-in expression of a primitive, an enumeration with constants, or a list;
6. the factory of the named model.

The built-in expression of a list holds the default of its element, resolved under the same field
name and never nullable. `Resolver.resolveAs_of_byField`, `Resolver.resolveAs_of_byClass` and
`Resolver.resolveAs_nullable` give the first three tiers.
-/

set_option autoImplicit false

namespace ModelFactory

/-- A default and the tier that gave it. -/
structure ResolvedDefault where
  expression : String
  source : DefaultSource
deriving DecidableEq

/-- What a default depends on besides the field. -/
structure Resolver where
  overrides : Overrides := {}
  /-- The date that stands for any date. -/
  sentinelDate : Date := .millennium

namespace Resolver

/-- The expression of a date. -/
def dateExpression (date : Date) : String :=
  "DateTime(" ++ toString date.year ++ ", " ++ toString date.month ++ ", " ++ toString date.day
    ++ ")"

/-- The literal that stands for a primitive. -/
def primitiveLiteral (resolver : Resolver) : Primitive → String
  | .string => "''"
  | .integer => "0"
  | .number => "0"
  | .double => "0.0"
  | .boolean => "false"
  | .dateTime => dateExpression resolver.sentinelDate

/-- The default of a field of this name, nullability and type. -/
def resolveAs (resolver : Resolver) (name : String) (nullable : Bool) (type : FieldType) :
    ResolvedDefault :=
  match resolver.overrides.byField[name]? with
  | some expression => ⟨expression, .fieldOverride⟩
  | none =>
    match resolver.overrides.byClass[name]? with
    | some expression => ⟨expression, .classOverride⟩
    | none =>
      if nullable then ⟨"null", .nullable⟩
      else
        match resolver.overrides.byType[type.rendered]? with
        | some expression => ⟨expression, .typeOverride⟩
        | none =>
          match type with
          | .primitive kind => ⟨resolver.primitiveLiteral kind, .builtIn⟩
          | .enumeration typeName (first :: _) => ⟨typeName ++ "." ++ first, .builtIn⟩
          | .enumeration typeName [] => ⟨nestedFactoryCall typeName, .nestedFactory⟩
          | .list element =>
            ⟨"[" ++ (resolver.resolveAs name false element).expression ++ "]", .builtIn⟩
          | .model typeName => ⟨nestedFactoryCall typeName, .nestedFactory⟩

/-- The default of a field. -/
def resolve (resolver : Resolver) (field : Field) : ResolvedDefault :=
  resolver.resolveAs field.name field.nullable field.type

/-! ## The first tiers -/

variable {resolver : Resolver} {name expression : String}

/-- An override given at the field stands before everything else. -/
theorem resolveAs_of_byField (h : resolver.overrides.byField[name]? = some expression)
    (nullable : Bool) (type : FieldType) :
    resolver.resolveAs name nullable type = ⟨expression, .fieldOverride⟩ := by
  unfold resolveAs; simp [h]

/-- An override given at the class stands before everything but one at the field. -/
theorem resolveAs_of_byClass (hf : resolver.overrides.byField[name]? = none)
    (h : resolver.overrides.byClass[name]? = some expression)
    (nullable : Bool) (type : FieldType) :
    resolver.resolveAs name nullable type = ⟨expression, .classOverride⟩ := by
  unfold resolveAs; simp [hf, h]

/-- Without an override by name a nullable field defaults to `null`. -/
theorem resolveAs_nullable (hf : resolver.overrides.byField[name]? = none)
    (hc : resolver.overrides.byClass[name]? = none) (type : FieldType) :
    resolver.resolveAs name true type = ⟨"null", .nullable⟩ := by
  unfold resolveAs; simp [hf, hc]

end Resolver

end ModelFactory
