import ModelFactory.Command.Help
import ModelFactory.Command.ListDefaults

/-!
# A run of the program

`run` reads the arguments and runs the command that they ask for, over any file system.
-/

set_option autoImplicit false

namespace ModelFactory.Command

/-- The status of a run whose arguments are refused. -/
def usageStatus : Nat := 2

/-- The outcome of arguments that ask for no command. Without any argument the help goes to the
standard error. -/
def Stop.outcome : Stop → Outcome
  | help topic long => { output := lined [helpText topic long] }
  | version => { output := lined [versionText] }
  | usage error => { status := usageStatus, errors := lined ["error: " ++ error.message] }
  | nothingGiven => { status := usageStatus, errors := lined [helpText .program false] }

/-- Runs an invocation. -/
def Invocation.run {m : Type → Type} [Monad m] [Files.FileAccess m] (environment : Environment)
    (invocation : Invocation) : m Outcome :=
  let coloring := environment.coloring invocation
  match invocation.request with
  | .list options => runList environment coloring options
  | .generate options => runGenerate environment coloring options

/-- Runs the program with its arguments. -/
def run {m : Type → Type} [Monad m] [Files.FileAccess m] (environment : Environment)
    (arguments : List String) : m Outcome :=
  match readInvocation arguments with
  | .error stop => pure stop.outcome
  | .ok invocation => invocation.run environment

end ModelFactory.Command
