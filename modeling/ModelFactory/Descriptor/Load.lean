import ModelFactory.Descriptor.Format
import ModelFactory.Files.Access
import ModelFactory.Text.Utf8

/-!
# Loading a descriptor

The file is mapped to memory, taken as text and read in the format that its path tells.
-/

set_option autoImplicit false

namespace ModelFactory.Descriptor

open Files (FileAccess FileError)

/-- Why no descriptor can be loaded. -/
inductive LoadFault where
  | unreadable (path : String) (error : FileError)
  | noText (flaw : Text.Utf8Flaw)
  | invalid (text : String) (reason : TextFault)
deriving DecidableEq

/-- What failed, for the user. -/
def LoadFault.context : LoadFault → String
  | unreadable path _ => "failed to open descriptors at " ++ path
  | noText _ => "descriptor document is not valid UTF-8"
  | invalid _ reason => reason.context

/-- A directory has no content that can be mapped to memory. -/
def mappingError : FileError → FileError
  | .isDirectory => .noDevice
  | error => error

/-- The document in octets. -/
def documentOfOctets (format : Format) (octets : ByteArray) : Except LoadFault Document := do
  let text ← (Text.ofUtf8 octets).mapError .noText
  (documentOf format text).mapError (.invalid text)

/-- The document in the file that a path leads to. -/
def load {m : Type → Type} [Monad m] [FileAccess m] (path : String) :
    m (Except LoadFault Document) := do
  match ← FileAccess.readFile path with
  | .error error => return .error (.unreadable path (mappingError error))
  | .ok octets => return documentOfOctets (.ofPath path) octets

end ModelFactory.Descriptor
