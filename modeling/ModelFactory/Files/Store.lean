import Std.Data.ExtTreeMap
import ModelFactory.Files.Access
import ModelFactory.Files.Path

/-!
# A file system as a value

A `Store` maps the place of each file and directory to what is there. A place is the list of names
that lead to it from the root. Paths are followed part by part (`Store.follow`): a part leads on
only from a directory, so a slash after a file leads nowhere.

`StateM Store` is an instance of `FileAccess`.
-/

set_option autoImplicit false

namespace ModelFactory.Files

/-- The names that lead from the root to a file or directory. -/
abbrev Place := List String

/-- What is at a place. -/
inductive Entry where
  | directory
  | file (content : ByteArray)

/-- Files and directories, with the directory that relative paths start from. That directory is led
to by names, but it need not be there any more. -/
structure Store where
  entries : Std.ExtTreeMap Place Entry := ∅
  workingDirectory : Place := []
  named : ∀ name ∈ workingDirectory, Path.isName name := by decide

namespace Store

/-- What is at a place. The root is a directory. -/
def itemAt? (store : Store) (place : Place) : Option Entry :=
  if place.isEmpty then some .directory else store.entries[place]?

/-- The store with another entry at a place. -/
def put (store : Store) (place : Place) (entry : Entry) : Store :=
  { store with entries := store.entries.insert place entry }

/-- The largest number of octets of a name. -/
def longestName : Nat := 255

/-- The largest number of octets of a path. -/
def longestPath : Nat := 4095

/-- One part leads on from a directory. It need not lead to anything that exists. -/
def step (store : Store) (place : Place) (part : String) : Except FileError Place :=
  match store.itemAt? place with
  | none => .error .missing
  | some (.file _) => .error .notDirectory
  | some .directory =>
    if Path.staysHere part then .ok place
    else if part = ".." then .ok place.dropLast
    else if part.utf8ByteSize > longestName then .error .nameTooLong
    else .ok (place ++ [part])

/-- The place that the parts lead to. -/
def follow (store : Store) (place : Place) (parts : List String) : Except FileError Place :=
  parts.foldlM store.step place

/-- Where a path starts. -/
def start (store : Store) (path : Path) : Place :=
  if path.absolute then [] else store.workingDirectory

/-- A text that can be a path. -/
def checked (text : String) : Except FileError Path :=
  if text.toList.contains '\x00' then .error .nulInPath
  else if text.utf8ByteSize > longestPath then .error .nameTooLong
  else .ok (.ofText text)

/-- What a path leads to. -/
def find (store : Store) (path : Path) : Except FileError Entry := do
  if path.isEmpty then throw .missing
  let place ← store.follow (store.start path) path.parts
  match store.itemAt? place with
  | some entry => return entry
  | none => throw .missing

/-! ## Reading -/

/-- The content of the file that a path leads to. -/
def read (store : Store) (text : String) : Except FileError ByteArray := do
  match ← store.find (← checked text) with
  | .file content => return content
  | .directory => throw .isDirectory

/-- A path leads to something. A path that cannot be followed for another reason than a missing part
is an error. -/
def contains (store : Store) (text : String) : Except FileError Bool := do
  match store.find (← checked text) with
  | .ok _ => return true
  | .error .missing => return false
  | .error error => throw error

/-! ## Changing -/

/-- The directory in which the last name of a path stands, and that name. There is no such name in a
path that ends in a slash or in a part that names nothing. -/
def target (store : Store) (path : Path) : Except FileError (Place × Option String) := do
  if path.isEmpty then throw .missing
  let slashes := path.parts.reverse.takeWhile (· == "")
  let parts := path.parts.take (path.parts.length - slashes.length)
  let place ← store.follow (store.start path) parts.dropLast
  let _ ← store.step place "."
  match parts.getLast? with
  | none => return (place, none)
  | some last =>
    if !slashes.isEmpty || Path.staysHere last || last == ".." then return (place, none)
    else
      let _ ← store.step place last
      return (place, some last)

/-- The store with a text written to a file. -/
def write (store : Store) (text content : String) : Except FileError Store := do
  let (place, name?) ← store.target (← checked text)
  match name? with
  | none => throw .isDirectory
  | some name =>
    let place := place ++ [name]
    match store.itemAt? place with
    | some .directory => throw .isDirectory
    | _ => return store.put place (.file content.toUTF8)

/-- The store with a new directory, in a directory that exists. -/
def makeDirectory (store : Store) (path : Path) : Except FileError Store := do
  if path.isEmpty then throw .missing
  let slashes := path.parts.reverse.takeWhile (· == "")
  let parts := path.parts.take (path.parts.length - slashes.length)
  let place ← store.follow (store.start path) parts.dropLast
  let _ ← store.step place "."
  match parts.getLast? with
  | none => throw .alreadyExists
  | some last =>
    if Path.staysHere last || last == ".." then throw .alreadyExists
    else
      let place ← store.step place last
      if (store.itemAt? place).isSome then throw .alreadyExists
      else return store.put place .directory

/-- A path leads to a directory. -/
def isDirectory (store : Store) (path : Path) : Bool :=
  match store.find path with
  | .ok .directory => true
  | _ => false

/-- The path of the working directory. -/
def directoryPath (store : Store) : String := Path.text ⟨true, store.workingDirectory⟩

/-- The path of the working directory, if that is still there. -/
def currentDirectory (store : Store) : Except FileError String :=
  if store.isDirectory (.ofText store.directoryPath) then .ok store.directoryPath
  else .error .missing

/-- Makes a directory. One that is there already will do. -/
def ensureDirectory (path : Path) : StateM Store (Except FileError Unit) := fun store =>
  match store.makeDirectory path with
  | .ok after => (.ok (), after)
  | .error error => (if store.isDirectory path then .ok () else .error error, store)

/-- Makes a directory and those around it, from the outermost that is missing, at most so many
levels up. Directories that were made stay when a later one cannot be made. -/
def ensureDirectories : (levels : Nat) → Path → StateM Store (Except FileError Unit)
  | 0, _ => pure (.error .missing)
  | levels + 1, path => fun store =>
    if path.isEmpty then (.ok (), store)
    else
      match ensureDirectory path store with
      | (.error .missing, store) =>
        match path.parent? with
        | none => (.error .missing, store)
        | some parent =>
          match ensureDirectories levels parent store with
          | (.ok (), store) => ensureDirectory path store
          | failed => failed
      | done => done

instance : FileAccess (StateM Store) where
  workingDirectory := fun store => (store.currentDirectory, store)
  readFile text := fun store => (store.read text, store)
  isThere text := fun store => (store.contains text, store)
  makeDirectories text := fun store =>
    match checked text with
    | .ok path => ensureDirectories (path.parts.length + 2) path store
    | .error error => (.error error, store)
  writeFile text content := fun store =>
    match store.write text content with
    | .ok after => (.ok (), after)
    | .error error => (.error error, store)

end Store

end ModelFactory.Files
