import ModelFactory.Command.Outcome
import ModelFactory.Command.Paint
import ModelFactory.Generation.Output

/-!
# The command that generates

`runGenerate` loads the document and the configuration, generates, reports what was resolved and
writes the texts. Nothing is written before everything is loaded. Declarations without a factory are
told after the writing, and they make the run fail.
-/

set_option autoImplicit false

namespace ModelFactory.Command

/-! ## The report -/

/-- How a run reports. -/
structure Reporter where
  coloring : Coloring
  clock : String
  quiet : Bool := false
  verbose : Bool := false
  wording : Wording := {}

namespace Reporter

/-- Lines that a quiet run leaves out. -/
def say (reporter : Reporter) (lines : List String) : String :=
  if reporter.quiet then "" else lined lines

/-- A message with the time in front. -/
def timed (reporter : Reporter) (role : Role) (message : String) : String :=
  reporter.coloring.paint .timestamp reporter.clock ++ " " ++ reporter.coloring.paint role message

/-- A line that says what is being done. -/
def step (reporter : Reporter) (message : String) : String := reporter.timed .primary message

/-- A line with a word in front that calls attention. -/
def notice (reporter : Reporter) (word message : String) : String :=
  reporter.coloring.paint .accent word ++ " " ++ reporter.coloring.paint .primary message

/-- A line of the statistics. -/
def statistic (reporter : Reporter) (label value : String) : String :=
  "            " ++ reporter.coloring.paint .label label ++ " "
    ++ reporter.coloring.paint .value value

/-- The lines of the statistics. Failures and warnings are counted only if there are any. -/
def statistics (reporter : Reporter) (counts : Statistics) : List String :=
  [reporter.statistic "Elements processed:" (toString counts.elementsSeen),
    reporter.statistic "Factories generated:" (toString counts.factoriesGenerated),
    reporter.statistic "Fields resolved:" (toString counts.fieldsResolved)]
  ++ counts.defaultsBySource.map (fun (source, count) =>
    reporter.statistic "" (toString count ++ " from " ++ source.label))
  ++ (if counts.failures > 0 then [reporter.statistic "Failures:" (toString counts.failures)]
    else [])
  ++ if counts.warnings.isEmpty then []
    else [reporter.statistic "Warnings:" (toString counts.warnings.length)]

/-- A paragraph of lines after an empty one, or nothing. -/
def paragraph (lines : List String) : List String := if lines.isEmpty then [] else "" :: lines

/-- The lines of the warnings. -/
def warnings (reporter : Reporter) (counts : Statistics) : List String :=
  paragraph (counts.warnings.map fun clash => reporter.notice "Warning:" clash.message)

/-- The line of a parameter. -/
def parameterLine (reporter : Reporter) (parameter : FactoryParameter) : String :=
  "                " ++ reporter.coloring.paint .label parameter.name ++ " "
    ++ reporter.coloring.paint .value parameter.fallback ++ " "
    ++ reporter.coloring.paint .timestamp ("(" ++ parameter.source.label ++ ")")

/-- The lines of a factory with every default. -/
def factoryLines (reporter : Reporter) (factory : GeneratedFactory) : List String :=
  "" :: ("              " ++ reporter.coloring.paint .accent factory.definition.name)
    :: factory.definition.parameters.map reporter.parameterLine

/-- The lines of all factories, if the run is to tell every default. -/
def resolvedDefaults (reporter : Reporter) (output : GenerationOutput) : List String :=
  if reporter.verbose then output.factories.flatMap reporter.factoryLines else []

/-- The lines of the declarations without a factory. -/
def failures (reporter : Reporter) (output : GenerationOutput) : List String :=
  paragraph (output.failures.map fun error => reporter.notice "Error:" error.message)

/-- The lines before anything is written. -/
def summary (reporter : Reporter) (output : GenerationOutput) : List String :=
  reporter.step "Generating factories..." :: reporter.statistics output.statistics
    ++ reporter.warnings output.statistics ++ reporter.resolvedDefaults output

/-- The line of a file that is written. -/
def writing (reporter : Reporter) (path : String) : String :=
  reporter.step ("Writing to: " ++ path)

/-- The lines at the end of a run without failures. -/
def success (reporter : Reporter) (mode : OutputMode) : List String :=
  ["", reporter.timed .success <|
    match mode with
    | .combined => "Successfully generated factories"
    | .perClass => "Successfully generated factory files"]

end Reporter

/-! ## Writing -/

open Files (FileAccess FileError)

section Writing

variable {m : Type → Type} [Monad m] [FileAccess m]

/-- Writes a text to a file and makes the directories around it. -/
def writeCombined (path text : String) : m (Except FileError Unit) := do
  let made ←
    match (Files.Path.ofText path).parent? with
    | some parent =>
      if parent.isEmpty then pure (.ok ()) else FileAccess.makeDirectories parent.text
    | none => pure (.ok ())
  match made with
  | .error error => return .error error
  | .ok () => FileAccess.writeFile path text

/-- Writes files one after the other, up to the first that cannot be written. -/
def writeAll : List (String × String) → m (Except FileError Unit)
  | [] => return .ok ()
  | (path, text) :: rest => do
    match ← FileAccess.writeFile path text with
    | .error error => return .error error
    | .ok () => writeAll rest

/-- The files of a directory with their texts. -/
def filesIn (directory : String) (files : List (String × String)) : List (String × String) :=
  files.map fun (name, text) => (Files.Path.joined directory name, text)

/-- Writes files into a directory, which is made if it is missing. -/
def writePerClass (directory : String) (files : List (String × String)) :
    m (Except FileError Unit) := do
  match ← FileAccess.makeDirectories directory with
  | .error error => return .error error
  | .ok () => writeAll (filesIn directory files)

end Writing

/-! ## The run -/

/-- The path that is written to. Files of single classes go to the working directory unless another
is given. -/
def GenerateOptions.outputPath (options : GenerateOptions) : Except RunFault String :=
  match options.mode, options.output with
  | _, some path => .ok path
  | .perClass, none => .ok "."
  | .combined, none => .error .outputMissing

/-- How a run reports. -/
def GenerateOptions.reporter (environment : Environment) (coloring : Coloring)
    (options : GenerateOptions) : Reporter :=
  ⟨coloring, environment.clock, options.quiet, options.verbose, environment.wording⟩

/-- What is told about the files that were written: before they are if it is one, after it if they
are many. -/
structure Written where
  before : List String
  after : List String

section Run

variable {m : Type → Type} [Monad m] [FileAccess m]

/-- Writes the output of a run. -/
def writeOutput (mode : OutputMode) (path : String) (output : GenerationOutput) :
    m (Except FileError Unit) :=
  match mode with
  | .combined => writeCombined path output.combined
  | .perClass => writePerClass path output.perClass

/-- The paths that are told before and after the writing: a single file is told before it is
written, the files of single classes when all of them are. -/
def toldPaths (mode : OutputMode) (path : String) (output : GenerationOutput) : Written :=
  match mode with
  | .combined => ⟨[path], []⟩
  | .perClass => ⟨[], (filesIn path output.perClass).map (·.1)⟩

/-- The end of a run that has written its output. -/
def finished (reporter : Reporter) (mode : OutputMode) (output : GenerationOutput)
    (printed : String) : Outcome :=
  let errors := lined (reporter.failures output)
  if output.hasFailures then
    .failed reporter.wording (.declarationsFailed output.failures.length) printed errors
  else ⟨0, printed ++ reporter.say (reporter.success mode), errors⟩

/-- Generates with everything loaded. -/
def generateLoaded (reporter : Reporter) (options : GenerateOptions) (path : String)
    (document : Document) (config : ProjectConfig) (printed : String) : m Outcome := do
  let output := generate (config.settings options.header) document options.input
  let told := toldPaths options.mode path output
  let printed := printed
    ++ reporter.say (reporter.summary output ++ told.before.map reporter.writing)
  match ← writeOutput options.mode path output with
  | .error error => return .failed reporter.wording (.notWritten error) printed ""
  | .ok () =>
    return finished reporter options.mode output
      (printed ++ reporter.say (told.after.map reporter.writing))

/-- Runs the command that generates. -/
def runGenerate (environment : Environment) (coloring : Coloring) (options : GenerateOptions) :
    m Outcome := do
  let reporter := options.reporter environment coloring
  match options.outputPath with
  | .error fault => return .failed reporter.wording fault "" ""
  | .ok path =>
    let printed :=
      reporter.say [reporter.step ("Loading model descriptors from: " ++ options.input)]
    match ← loadInputs options.input options.defaults.config options.defaults.typeDefaults with
    | .error fault => return .failed reporter.wording fault printed ""
    | .ok (document, config) => generateLoaded reporter options path document config printed

end Run

end ModelFactory.Command
