import ModelFactory.Factory.Definition
import ModelFactory.Text.Joined

/-!
# The text of a factory

`FactoryDefinition.code` writes a definition as a class with one static method. The method takes
the fields as optional named arguments and builds the model from them, each with its fallback.
Without parameters both lists close on the line that opens them.

`fileHeader` is the banner above generated text, with the `part of` line of the library.
-/

set_option autoImplicit false

namespace ModelFactory

namespace FactoryParameter

/-- The line of the signature that declares the parameter. -/
def signatureLine (parameter : FactoryParameter) : String :=
  "    " ++ parameter.type ++ " " ++ parameter.name ++ ","

/-- The line of the construction that passes the parameter on. -/
def argumentLine (parameter : FactoryParameter) : String :=
  "      " ++ parameter.name ++ ": " ++ parameter.name ++ " ?? " ++ parameter.fallback ++ ","

end FactoryParameter

namespace FactoryDefinition

/-- The head of the method, up to the brace that opens its body. -/
def signature (definition : FactoryDefinition) : String :=
  match definition.parameters with
  | [] => "static " ++ definition.model ++ " build()"
  | parameters =>
    "static " ++ definition.model ++ " build(\x7b\n"
      ++ Text.joined "\n" (parameters.map FactoryParameter.signatureLine) ++ "\n  \x7d)"

/-- The call of the model's constructor. -/
def construction (definition : FactoryDefinition) : String :=
  match definition.parameters with
  | [] => definition.model ++ "()"
  | parameters =>
    definition.model ++ "(\n"
      ++ Text.joined "\n" (parameters.map FactoryParameter.argumentLine) ++ "\n    )"

/-- The factory as source text. -/
def code (definition : FactoryDefinition) : String :=
  "class " ++ definition.name ++ " \x7b\n  " ++ definition.signature ++ " \x7b\n    return "
    ++ definition.construction ++ ";\n  \x7d\n\x7d\n"

end FactoryDefinition

/-- The text of the factory of a model with these fields, dates standing for the first of January
2000. -/
def factoryCode (model : String) (fields : List Field) (overrides : Overrides) : String :=
  (FactoryDefinition.ofFields ⟨overrides, .millennium⟩ model fields).code

/-- The banner above generated text. -/
def fileHeader (sourcePath : String) (library : Option String) : String :=
  "// GENERATED CODE - DO NOT MODIFY BY HAND\n// Source: " ++ sourcePath
    ++ "\n// Generated by `factory-gen`\n"
    ++ match library with
      | some name => "\npart of '" ++ name ++ "';\n"
      | none => ""

end ModelFactory
