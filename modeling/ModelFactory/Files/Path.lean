import ModelFactory.Text.Parts

/-!
# Paths

A path is text, names between slashes. `Path.ofText` takes it apart and keeps every part, since a
slash at the end and a part `.` or `..` matter to whoever follows the path. `Path.names` are the
parts that name something, from which come the extension and the path of the directory around it
(`Path.parent?`).
-/

set_option autoImplicit false

namespace ModelFactory.Files

/-- A path. -/
structure Path where
  /-- The path starts at the root. -/
  absolute : Bool
  parts : List String
deriving DecidableEq

namespace Path

/-- The path that a text writes. -/
def ofText (text : String) : Path :=
  match (Text.partsBetween '/' text.toList).map String.ofList with
  | "" :: rest@(_ :: _) => ⟨true, rest⟩
  | parts => ⟨false, parts⟩

/-- The text of a path. -/
def text (path : Path) : String :=
  (if path.absolute then "/" else "")
    ++ String.ofList (Text.withSeparator '/' (path.parts.map String.toList))

/-- The part leads nowhere else: it is empty or a single dot. -/
def staysHere (part : String) : Bool := part == "" || part == "."

/-- The part can be the name of something in a directory. -/
def isName (part : String) : Bool :=
  !staysHere part && part != ".." && !part.toList.contains '/'

/-- The parts that lead somewhere. -/
def names (path : Path) : List String := path.parts.filter (!staysHere ·)

/-- The path starts with a single dot. -/
def startsHere (path : Path) : Bool := !path.absolute && path.parts.head? == some "."

/-- The path of the directory around what the path names. There is none around the root and around
the empty path. -/
def parent? (path : Path) : Option Path :=
  let start := if path.startsHere then ["."] else []
  match path.names, start with
  | [], [] => none
  | [], _ => some ⟨path.absolute, []⟩
  | names, start => some ⟨path.absolute, start ++ names.dropLast⟩

/-- The path has no part, so it leads nowhere. -/
def isEmpty (path : Path) : Bool :=
  !path.absolute && (path.parts == [] || path.parts == [""])

/-- The last name, unless it leads up. -/
def fileName? (path : Path) : Option String :=
  path.names.getLast?.filter (· != "..")

/-- The part of a name after its last point. A name that starts with its only point has none. -/
def extensionOf? (name : String) : Option String :=
  match ((Text.partsBetween '.' name.toList).map String.ofList).reverse with
  | _ :: [""] => none
  | extension :: _ :: _ => some extension
  | _ => none

/-- The extension of what the path names. -/
def extension? (path : Path) : Option String := path.fileName?.bind extensionOf?

/-- A name in a directory, as text. An absolute name stands alone. -/
def joined (directory name : String) : String :=
  if name.toList.head? == some '/' || directory == "" then name
  else if directory.toList.getLast? == some '/' then directory ++ name
  else directory ++ "/" ++ name

end Path

end ModelFactory.Files
