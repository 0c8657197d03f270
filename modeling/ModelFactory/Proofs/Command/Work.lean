import ModelFactory.Command.Run
import ModelFactory.Proofs.Text.Lines

/-!
# What a run does and what it tells

A run that generates does its work and tells of it. The work (`Command.work`) knows neither colours
nor the clock, nor whether the run is quiet or verbose. From how the work ends the outcome is told
(`Command.WorkEnd.told`), and a run is both, one after the other (`Command.runGenerate_eq`). The
same holds of a run that lists (`Command.runList_eq`). So whatever concerns the telling alone
changes nothing that a run does.
-/

set_option autoImplicit false

namespace ModelFactory.Command

open Files (FileAccess FileError)

/-- How the work of a run that generates ends. -/
inductive WorkEnd where
  /-- There is no path to write to. -/
  | noPath (fault : RunFault)
  | notLoaded (fault : RunFault)
  | notWritten (path : String) (output : GenerationOutput) (error : FileError)
  | written (path : String) (output : GenerationOutput)

section Work

variable {m : Type → Type} [Monad m] [FileAccess m]

/-- The work of a run with everything loaded. -/
def workLoaded (options : GenerateOptions) (path : String) (document : Document)
    (config : ProjectConfig) : m WorkEnd := do
  let output := generate (config.settings options.header) document options.input
  match ← writeOutput options.mode path output with
  | .error error => return .notWritten path output error
  | .ok () => return .written path output

/-- The work of a run that generates. -/
def work (options : GenerateOptions) : m WorkEnd := do
  match options.outputPath with
  | .error fault => return .noPath fault
  | .ok path =>
    match ← loadInputs options.input options.defaults.config options.defaults.typeDefaults with
    | .error fault => return .notLoaded fault
    | .ok (document, config) => workLoaded options path document config

end Work

/-! ## What is told of it -/

/-- The first line of a run that has a path to write to. -/
def Reporter.loading (reporter : Reporter) (input : String) : List String :=
  [reporter.step ("Loading model descriptors from: " ++ input)]

/-- The lines that are told before anything is written. -/
def Reporter.beforeWriting (reporter : Reporter) (options : GenerateOptions) (path : String)
    (output : GenerationOutput) : List String :=
  reporter.loading options.input ++ (reporter.summary output ++
    (toldPaths options.mode path output).before.map reporter.writing)

/-- The lines that are told when everything is written. -/
def Reporter.afterWriting (reporter : Reporter) (options : GenerateOptions) (path : String)
    (output : GenerationOutput) : List String :=
  (toldPaths options.mode path output).after.map reporter.writing

/-- The outcome that is told of the work. -/
def WorkEnd.told (reporter : Reporter) (options : GenerateOptions) : WorkEnd → Outcome
  | noPath fault => .failed reporter.wording fault "" ""
  | notLoaded fault =>
    .failed reporter.wording fault (reporter.say (reporter.loading options.input)) ""
  | notWritten path output error =>
    .failed reporter.wording (.notWritten error)
      (reporter.say (reporter.beforeWriting options path output)) ""
  | written path output =>
    finished reporter options.mode output (reporter.say
      (reporter.beforeWriting options path output ++ reporter.afterWriting options path output))

/-- What a run that lists tells of what it has loaded. -/
def toldList (reporter : Reporter) (width : Nat) :
    Except RunFault (Document × ProjectConfig) → Outcome
  | .error fault => .failed reporter.wording fault "" ""
  | .ok (document, config) => listLoaded reporter width document config

theorem Reporter.say_append (reporter : Reporter) (lines others : List String) :
    reporter.say (lines ++ others) = reporter.say lines ++ reporter.say others := by
  unfold Reporter.say
  cases reporter.quiet with
  | true => rfl
  | false => exact lined_append lines others

section Told

variable {m : Type → Type} [Monad m] [LawfulMonad m] [FileAccess m]

/-- With everything loaded, a run does its work and tells of it. -/
theorem generateLoaded_eq (reporter : Reporter) (options : GenerateOptions) (path : String)
    (document : Document) (config : ProjectConfig) :
    (generateLoaded reporter options path document config
        (reporter.say (reporter.loading options.input)) : m Outcome) =
      WorkEnd.told reporter options <$> workLoaded options path document config := by
  simp only [generateLoaded, workLoaded, map_bind]
  congr 1
  funext written
  cases written with
  | error error =>
    rw [map_pure, ← Reporter.say_append]
    rfl
  | ok done =>
    rw [map_pure, ← Reporter.say_append, ← Reporter.say_append]
    rfl

/-- A run that generates does its work and tells of it. -/
theorem runGenerate_eq (environment : Environment) (coloring : Coloring)
    (options : GenerateOptions) :
    (runGenerate environment coloring options : m Outcome) =
      WorkEnd.told (options.reporter environment coloring) options <$> work options := by
  unfold runGenerate work
  cases options.outputPath with
  | error fault =>
    rw [map_pure]
    rfl
  | ok path =>
    simp only [map_bind]
    congr 1
    funext loaded
    cases loaded with
    | error fault =>
      rw [map_pure]
      rfl
    | ok loaded => exact generateLoaded_eq _ options path loaded.1 loaded.2

/-- A run that lists loads and tells of it. -/
theorem runList_eq (environment : Environment) (coloring : Coloring) (options : ListOptions) :
    (runList environment coloring options : m Outcome) =
      toldList (listReporter environment coloring) environment.width <$>
        loadInputs options.input options.defaults.config options.defaults.typeDefaults := by
  unfold runList
  dsimp only
  rw [map_eq_pure_bind]
  congr 1
  funext loaded
  cases loaded with
  | error fault => rfl
  | ok loaded => rfl

end Told

end ModelFactory.Command
