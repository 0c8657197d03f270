import ModelFactory.Command.TypeDefaults
import ModelFactory.Descriptor.Load
import ModelFactory.Settings.Load
import ModelFactory.Text.Parts

/-!
# Faults of a run

A `RunFault` ends a run early. It is told by what failed (`RunFault.context`) and under that by what
it came of, from the nearest cause on (`RunFault.causes`).

The libraries that map files to memory and read texts have words of their own for a cause, and they
say where in a text it is. Those words are given as a `Wording`.
-/

set_option autoImplicit false

namespace ModelFactory.Command

open Files (FileError)

/-- Why a run failed. -/
inductive RunFault where
  | outputMissing
  | descriptor (fault : Descriptor.LoadFault)
  | typeDefault (fault : TypeDefaultFault)
  /-- There is no directory to work in. -/
  | noDirectory (error : FileError)
  | config (fault : ConfigFault)
  | notWritten (error : FileError)
  /-- So many declarations have no factory. -/
  | declarationsFailed (count : Nat)
deriving DecidableEq

/-- What failed, for the user. -/
def RunFault.context : RunFault → String
  | outputMissing => "Output path (-o) is required for combined mode"
  | descriptor fault => fault.context
  | typeDefault fault => fault.message
  | noDirectory _ => "failed to read the working directory"
  | config fault => fault.context
  | notWritten error => error.message
  | declarationsFailed count => toString count ++ " element(s) could not be generated"

/-! ## Causes -/

/-- What the libraries say of a cause beyond its message. -/
structure Wording where
  /-- The line and the column at which a JSON text is refused. Lines are counted from one; zero says
  that the place is unknown. -/
  jsonPosition : String → Json.Fault → Nat × Nat := fun _ _ => (0, 0)
  /-- The lines that show the place at which a TOML text is refused. -/
  tomlExcerpt : String → Toml.Fault → List String := fun _ _ => []
  /-- The message for a text that is not TOML. -/
  tomlGrammar : String → String := fun _ => "invalid TOML"
  /-- The causes of a file that cannot be mapped to memory. -/
  mapping : String → FileError → List String := fun _ error => [error.message]

namespace Wording

variable (wording : Wording)

/-- The cause of a JSON text that is refused. -/
def json (text : String) (fault : Json.Fault) : String :=
  let (line, column) := wording.jsonPosition text fault
  if line = 0 then fault.message
  else fault.message ++ " at line " ++ toString line ++ " column " ++ toString column

/-- The cause of a TOML text that is refused. -/
def toml (text : String) (fault : Toml.Fault) : String :=
  let message := match fault with
    | .grammar => wording.tomlGrammar text
    | .data reason => reason.message
  Text.joined "\n" (wording.tomlExcerpt text fault ++ [message, ""])

/-- The causes of a descriptor that cannot be loaded. -/
def descriptorCauses : Descriptor.LoadFault → List String
  | .unreadable path error => wording.mapping path error
  | .noText flaw => [flaw.message]
  | .invalid text (.json fault) => [wording.json text fault]
  | .invalid text (.toml fault) => [wording.toml text fault]

/-- The causes of a configuration that cannot be loaded. -/
def configCauses : ConfigFault → List String
  | .unknown _ error | .unreadable _ error => [error.message]
  | .invalid _ text fault => [ProjectConfig.invalidText, wording.toml text fault]

end Wording

/-- What the fault came of, from the nearest cause on. -/
def RunFault.causes (wording : Wording) : RunFault → List String
  | descriptor fault => wording.descriptorCauses fault
  | config fault => wording.configCauses fault
  | noDirectory error => [error.message]
  | outputMissing | typeDefault _ | notWritten _ | declarationsFailed _ => []

/-! ## Telling a fault -/

/-- The lines of a text, with a margin before the first and another before those that follow. -/
def margined (first further text : String) : List String :=
  match (Text.partsBetween '\n' text.toList).map String.ofList with
  | [] => []
  | line :: rest => (first ++ line) :: rest.map (further ++ ·)

/-- The margin of a cause among several: its number ends in the fifth column. -/
def numberMargin (number : Nat) : String :=
  let digits := toString number
  String.ofList (List.replicate (5 - digits.length) ' ') ++ digits ++ ": "

/-- The lines of the causes. Several are numbered. -/
def causeLines : List String → List String
  | [] => []
  | [cause] => "" :: "Caused by:" :: margined "    " "    " cause
  | causes =>
    "" :: "Caused by:" :: causes.zipIdx.flatMap fun (cause, number) =>
      margined (numberMargin number) "       " cause

/-- The lines that tell of a fault and its causes. -/
def RunFault.report (wording : Wording) (fault : RunFault) : List String :=
  ("Error: " ++ fault.context) :: causeLines (fault.causes wording)

end ModelFactory.Command
