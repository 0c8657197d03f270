import ModelFactory.Command.Generate
import ModelFactory.Table.Text

/-!
# The command that lists

`runList` resolves every declaration as generating does and shows the defaults in a table. A
declaration without a factory is told and skipped. The table is drawn as for an output that goes to
no terminal. On a terminal its cells are styled besides: each has a colour, and the models are bold.
-/

set_option autoImplicit false

namespace ModelFactory.Command

/-- The columns of the table of definitions. -/
def defaultColumns (definitions : List FactoryDefinition) : List Table.Column :=
  let column (title : String) (cell : FactoryDefinition → FactoryParameter → String) :
      Table.Column :=
    { title
      cells := definitions.flatMap fun definition => definition.parameters.map (cell definition) }
  [column "MODEL" fun definition _ => definition.model,
    column "FIELD" fun _ parameter => parameter.name,
    column "TYPE" fun _ parameter => parameter.type,
    column "DEFAULT" fun _ parameter => parameter.fallback,
    { column "SOURCE" fun _ parameter => parameter.source.label with rightAligned := true }]

/-- The definitions of all declarations that have one, and the errors of the others. -/
def resolveAll (settings : GeneratorSettings) (document : Document) :
    List FactoryDefinition × List GenerationError :=
  let resolved := document.declarations.map (resolveDeclaration settings)
  (resolved.filterMap fun
    | .ok definition => some definition
    | .error _ => none,
   resolved.filterMap fun
    | .ok _ => none
    | .error error => some error)

/-- What listing prints with everything loaded. The cells of the table have no style, as where the
output goes to no terminal. -/
def listLoaded (reporter : Reporter) (width : Nat) (document : Document) (config : ProjectConfig) :
    Outcome :=
  let (definitions, errors) := resolveAll (config.settings false) document
  { output := lined [Table.tableText width (defaultColumns definitions)]
    errors := lined (errors.map fun error => reporter.notice "Skipped:" error.message) }

/-- How a run that lists reports. -/
def listReporter (environment : Environment) (coloring : Coloring) : Reporter :=
  ⟨coloring, environment.clock, false, false, environment.wording⟩

/-- Runs the command that lists. -/
def runList {m : Type → Type} [Monad m] [Files.FileAccess m] (environment : Environment)
    (coloring : Coloring) (options : ListOptions) : m Outcome := do
  let reporter := listReporter environment coloring
  match ← loadInputs options.input options.defaults.config options.defaults.typeDefaults with
  | .error fault => return .failed reporter.wording fault "" ""
  | .ok (document, config) => return listLoaded reporter environment.width document config

end ModelFactory.Command
