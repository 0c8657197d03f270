import ModelFactory.Default.Resolver

/-!
# Factory definitions

A `FactoryDefinition` is a factory with every default resolved, ready to be written. Its parameters
are the fields of the model in declaration order. Only a class has one:
`FactoryDefinition.ofDeclaration_eq_ok_iff` says exactly when a declaration gives a definition.
-/

set_option autoImplicit false

namespace ModelFactory

/-- Why no factory can be written for a declaration. -/
inductive GenerationError where
  | invalidTarget (name : String) (kind : DeclarationKind)
deriving DecidableEq

namespace GenerationError

/-- The name of the declaration without a factory. -/
def elementName : GenerationError → String
  | invalidTarget name _ => name

/-- The message to the user. -/
def message : GenerationError → String
  | invalidTarget name kind =>
    "`" ++ name ++ "` is a " ++ kind.described ++ "; factories can only be generated for classes"

end GenerationError

/-- An optional named argument of the method that builds a value. -/
structure FactoryParameter where
  name : String
  /-- The rendered type with the mark of an optional value. -/
  type : String
  /-- The expression used when the argument is not given. -/
  fallback : String
  source : DefaultSource
deriving DecidableEq

/-- The parameter that stands for a field. -/
def FactoryParameter.ofField (resolver : Resolver) (field : Field) : FactoryParameter :=
  let resolved := resolver.resolve field
  ⟨field.name, field.type.renderedOptional, resolved.expression, resolved.source⟩

/-- A factory with every default resolved. -/
structure FactoryDefinition where
  name : String
  model : String
  parameters : List FactoryParameter
deriving DecidableEq

namespace FactoryDefinition

/-- The factory of a model with these fields. -/
def ofFields (resolver : Resolver) (model : String) (fields : List Field) : FactoryDefinition :=
  ⟨factoryName model, model, fields.map (FactoryParameter.ofField resolver)⟩

/-- The factory of a declaration, which has to be a class. -/
def ofDeclaration (resolver : Resolver) (declaration : Declaration) :
    Except GenerationError FactoryDefinition :=
  if declaration.kind.isConstructible then
    .ok (ofFields resolver declaration.name declaration.fields)
  else .error (.invalidTarget declaration.name declaration.kind)

/-- A declaration gives a definition exactly when it is a class, and then the one of its fields. -/
theorem ofDeclaration_eq_ok_iff {resolver : Resolver} {declaration : Declaration}
    {definition : FactoryDefinition} :
    ofDeclaration resolver declaration = .ok definition ↔
      declaration.kind.isConstructible = true ∧
        ofFields resolver declaration.name declaration.fields = definition := by
  unfold ofDeclaration
  split <;> simp_all

/-- A declaration is refused exactly when it is no class, with its name and its kind. -/
theorem ofDeclaration_eq_error_iff {resolver : Resolver} {declaration : Declaration}
    {error : GenerationError} :
    ofDeclaration resolver declaration = .error error ↔
      declaration.kind.isConstructible = false ∧
        .invalidTarget declaration.name declaration.kind = error := by
  unfold ofDeclaration
  split <;> simp_all

end FactoryDefinition

end ModelFactory
