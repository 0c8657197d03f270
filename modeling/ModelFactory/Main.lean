import Std.Time.Zoned
import ModelFactory.Command.Run

/-!
# The program

Connects `Command.run` with the file system, the environment and the standard streams.
-/

set_option autoImplicit false

open ModelFactory
open Files (FileAccess FileError)

namespace ModelFactory.Main

/-- The error of a file system that the system reports. -/
def fileError : IO.Error → FileError
  | .noFileOrDirectory _ _ _ => .missing
  | .alreadyExists _ 17 _ => .alreadyExists
  | .inappropriateType _ 20 _ => .notDirectory
  | .inappropriateType _ 21 _ => .isDirectory
  | error => .other (toString error)

/-- An action on files, with its error as a value. -/
def attempt {α : Type} (action : IO α) : IO (Except FileError α) := do
  match ← action.toBaseIO with
  | .ok value => return .ok value
  | .error error => return .error (fileError error)

instance : FileAccess IO where
  workingDirectory := attempt ((·.toString) <$> IO.currentDir)
  readFile path := attempt (IO.FS.readBinFile path)
  isThere path := do
    match ← attempt (IO.FS.realPath path) with
    | .ok _ => return .ok true
    | .error .missing => return .ok false
    | .error error => return .error error
  makeDirectories path := attempt (IO.FS.createDirAll path)
  writeFile path content := attempt (IO.FS.writeFile path content)

/-- A number of two digits. -/
def twoDigits (number : Nat) : String :=
  if number < 10 then "0" ++ toString number else toString number

/-- The time of day in brackets. -/
def clock : IO String := do
  let time ← Std.Time.PlainTime.now
  return "[" ++ twoDigits time.hour.toNat ++ ":" ++ twoDigits time.minute.toNat ++ ":"
    ++ twoDigits time.second.toNat ++ "]"

/-- What the surroundings of the program say. -/
def environment : IO Command.Environment := do
  return {
    clock := ← clock
    noColor := ← IO.getEnv "NO_COLOR"
    colorFgBg := ← IO.getEnv "COLORFGBG"
    onTerminal := ← (← IO.getStdout).isTty }

end ModelFactory.Main

/-- Runs the program. -/
def main (arguments : List String) : IO UInt32 := do
  let outcome ← Command.run (m := IO) (← Main.environment) arguments
  IO.print outcome.output
  IO.eprint outcome.errors
  return outcome.status.toUInt32
