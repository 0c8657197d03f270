import ModelFactory.Files.Access
import ModelFactory.Files.Path
import ModelFactory.Settings.FromToml
import ModelFactory.Text.Utf8

/-!
# Loading a configuration

One file decides: the one that is named, or else the one of the usual name in a directory, if there
is one. Without it the defaults hold. A file that is there is never passed over.
-/

set_option autoImplicit false

namespace ModelFactory

open Files (FileAccess FileError)

/-- Why no configuration can be loaded. -/
inductive ConfigFault where
  /-- It cannot be told whether the file exists. -/
  | unknown (path : String) (error : FileError)
  | unreadable (path : String) (error : FileError)
  | invalid (path text : String) (reason : Toml.Fault)
deriving DecidableEq

/-- What failed, for the user. -/
def ConfigFault.context : ConfigFault → String
  | unknown path _ => "failed to check for config at " ++ path
  | unreadable path _ => "failed to read config at " ++ path
  | invalid path _ _ => "in " ++ path

namespace ProjectConfig

/-- The usual name of the file. -/
def fileName : String := "factory_gen.toml"

/-- What a text that holds no configuration is called. -/
def invalidText : String := "invalid factory_gen configuration"

variable {m : Type → Type} [Monad m] [FileAccess m]

/-- The configuration in a file that has to be there. -/
def loadFile (path : String) : m (Except ConfigFault ProjectConfig) := do
  match ← FileAccess.readFile path with
  | .error error => return .error (.unreadable path error)
  | .ok octets =>
    match Text.ofUtf8 octets with
    | .error _ => return .error (.unreadable path .notText)
    | .ok text => return (configOfToml text).mapError (.invalid path text)

/-- The configuration in a file that is named, or in a directory. -/
def load (explicit : Option String) (directory : String) :
    m (Except ConfigFault ProjectConfig) := do
  match explicit with
  | some path => loadFile path
  | none =>
    let path := Files.Path.joined directory fileName
    match ← FileAccess.isThere path with
    | .error error => return .error (.unknown path error)
    | .ok false => return .ok {}
    | .ok true => loadFile path

end ProjectConfig

end ModelFactory
