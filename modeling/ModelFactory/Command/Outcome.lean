import ModelFactory.Command.Fault

/-!
# Outcomes of a run

A run ends with a status and with what it printed. A `RunFault` ends it early: the fault is printed
after everything else.
-/

set_option autoImplicit false

namespace ModelFactory.Command

/-- How a run ended and what it printed. -/
structure Outcome where
  status : Nat := 0
  /-- What was printed to the standard output. -/
  output : String := ""
  /-- What was printed to the standard error. -/
  errors : String := ""
deriving DecidableEq

/-- Lines of text. -/
def lined (lines : List String) : String :=
  lines.foldl (fun text line => text ++ line ++ "\n") ""

/-- The outcome of a run that failed after it had printed something. -/
def Outcome.failed (wording : Wording) (fault : RunFault) (output errors : String) : Outcome :=
  ⟨1, output, errors ++ lined (fault.report wording)⟩

open Files (FileAccess)

variable {m : Type → Type} [Monad m] [FileAccess m]

/-- The configuration of a run, with the type defaults of the command line laid over it. The working
directory is asked for also if the file of the configuration is named. -/
def loadConfig (config : Option String) (typeDefaults : List String) :
    m (Except RunFault ProjectConfig) := do
  match typeDefaultsOf typeDefaults with
  | .error fault => return .error (.typeDefault fault)
  | .ok overrides =>
    match ← FileAccess.workingDirectory with
    | .error error => return .error (.noDirectory error)
    | .ok directory =>
      match ← ProjectConfig.load config directory with
      | .error fault => return .error (.config fault)
      | .ok config => return .ok (config.withTypeDefaults overrides)

/-- The document and the configuration of a run, in this order. -/
def loadInputs (input : String) (config : Option String) (typeDefaults : List String) :
    m (Except RunFault (Document × ProjectConfig)) := do
  match ← Descriptor.load input with
  | .error fault => return .error (.descriptor fault)
  | .ok document =>
    match ← loadConfig config typeDefaults with
    | .error fault => return .error fault
    | .ok config => return .ok (document, config)

end ModelFactory.Command
