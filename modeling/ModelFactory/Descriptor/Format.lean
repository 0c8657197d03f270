import ModelFactory.Descriptor.FromJson
import ModelFactory.Descriptor.FromToml
import ModelFactory.Files.Path

/-!
# Formats of descriptors

A descriptor is JSON, or TOML if its file is named so. `documentOf` reads a text of either format.
-/

set_option autoImplicit false

namespace ModelFactory.Descriptor

/-- The format of a descriptor. -/
inductive Format where
  | json
  | toml
deriving DecidableEq

namespace Format

/-- The format of files with an extension. -/
def ofExtension (extension : String) : Format := if extension = "toml" then toml else json

/-- The format of the file that a path names. -/
def ofPath (path : String) : Format :=
  ((Files.Path.ofText path).extension?.map ofExtension).getD json

end Format

/-- Why a text is no descriptor. -/
inductive TextFault where
  | json (reason : Json.Fault)
  | toml (reason : Toml.Fault)
deriving DecidableEq

/-- What failed, for the user. -/
def TextFault.context : TextFault → String
  | json _ => "invalid JSON descriptor document"
  | toml _ => "invalid TOML descriptor document"

/-- The document that a text describes. -/
def documentOf (format : Format) (text : String) : Except TextFault Document :=
  match format with
  | .json => ((documentOfJson text).map (·.document)).mapError .json
  | .toml => ((documentOfToml text).map (·.document)).mapError .toml

end ModelFactory.Descriptor
