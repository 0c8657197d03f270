/-!
# Access to files

`FileAccess` is what the program asks of a file system: in which directory it works, reading a file,
asking whether a path names anything, making directories and writing a file. Whatever goes wrong is
a `FileError`.
-/

set_option autoImplicit false

namespace ModelFactory.Files

/-- Why a file system refuses. -/
inductive FileError where
  | missing
  | notDirectory
  | isDirectory
  | alreadyExists
  | nameTooLong
  /-- What the path names cannot be mapped to memory. -/
  | noDevice
  | nulInPath
  /-- The file was to be read as text and is none. -/
  | notText
  /-- Any other reason, in the words of the system. -/
  | other (text : String)
deriving DecidableEq

/-- The message to the user. -/
def FileError.message : FileError → String
  | missing => "No such file or directory (os error 2)"
  | notDirectory => "Not a directory (os error 20)"
  | isDirectory => "Is a directory (os error 21)"
  | alreadyExists => "File exists (os error 17)"
  | nameTooLong => "File name too long (os error 36)"
  | noDevice => "No such device (os error 19)"
  | nulInPath => "file name contained an unexpected NUL byte"
  | notText => "stream did not contain valid UTF-8"
  | other text => text

/-- A file system, reached by paths written as text. -/
class FileAccess (m : Type → Type) where
  /-- The path of the directory that relative paths start from, which may be gone. -/
  workingDirectory : m (Except FileError String)
  readFile : String → m (Except FileError ByteArray)
  /-- The path names a file or a directory. -/
  isThere : String → m (Except FileError Bool)
  /-- Makes a directory and those around it, as far as they are missing. -/
  makeDirectories : String → m (Except FileError Unit)
  /-- Writes a file, which need not exist. -/
  writeFile : String → String → m (Except FileError Unit)

end ModelFactory.Files
