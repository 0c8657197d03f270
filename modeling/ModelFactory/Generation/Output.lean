import ModelFactory.Factory.Code
import ModelFactory.Generation.Settings
import ModelFactory.Generation.Statistics

/-!
# The output of a run

`generate` makes one pass over the declarations in document order. A pass with a factory takes the
next file name; a pass without one is a failure and touches nothing else. The output can be written
as one text (`GenerationOutput.combined`) or as one text per factory
(`GenerationOutput.perClass`).
-/

set_option autoImplicit false

namespace ModelFactory

/-- A factory with its text and the name of the file it may be written to. -/
structure GeneratedFactory where
  definition : FactoryDefinition
  code : String
  fileName : String
deriving DecidableEq

/-- What a run produced. -/
structure GenerationOutput where
  /-- The banner, if the settings ask for it. -/
  header : Option String := none
  factories : List GeneratedFactory := []
  failures : List GenerationError := []
  statistics : Statistics := {}

namespace GenerationOutput

/-- Some declaration has no factory. -/
def hasFailures (output : GenerationOutput) : Bool := !output.failures.isEmpty

/-- A text under the banner. -/
def underHeader (output : GenerationOutput) (text : String) : String :=
  match output.header with
  | some header => header ++ "\n" ++ text
  | none => text

/-- All factories in one text under one banner. -/
def combined (output : GenerationOutput) : String :=
  output.underHeader (Text.joined "\n" (output.factories.map (·.code)))

/-- One file name and text for each factory. -/
def perClass (output : GenerationOutput) : List (String × String) :=
  output.factories.map fun factory => (factory.fileName, output.underHeader factory.code)

end GenerationOutput

/-- The factory of a declaration under these settings. -/
def resolveDeclaration (settings : GeneratorSettings) (declaration : Declaration) :
    Except GenerationError FactoryDefinition :=
  FactoryDefinition.ofDeclaration
    ⟨declaration.overrides settings.typeDefaults, settings.sentinelDate⟩ declaration

/-- A run between two declarations. -/
structure RunState where
  names : FileNames
  output : GenerationOutput := {}

namespace RunState

/-- The pass of one declaration. -/
def pass (settings : GeneratorSettings) (state : RunState) (declaration : Declaration) :
    RunState :=
  match resolveDeclaration settings declaration with
  | .ok definition =>
    let (fileName, clash, names) := state.names.allocate definition.model
    { names
      output := { state.output with
        factories := state.output.factories ++ [⟨definition, definition.code, fileName⟩]
        statistics := state.output.statistics.recordFactory definition clash } }
  | .error error =>
    { state with
      output := { state.output with
        failures := state.output.failures ++ [error]
        statistics := state.output.statistics.recordFailure } }

end RunState

/-- A run over the declarations of a document. The source path stands in the banner only. -/
def generate (settings : GeneratorSettings) (document : Document) (sourcePath : String) :
    GenerationOutput :=
  let state := document.declarations.foldl (RunState.pass settings)
    { names := { suffix := settings.fileSuffix } }
  { state.output with
    header := if settings.header then some (fileHeader sourcePath document.library) else none }

end ModelFactory
