import ModelFactory.Overrides
import ModelFactory.Unicode.Blank

/-!
# Type defaults of the command line

An entry gives a type and, after the first equals sign, its expression. Blanks around the type do
not count; the expression is kept as it is. Of two entries for one type the later counts.
-/

set_option autoImplicit false

namespace ModelFactory.Command

/-- Why an entry is refused. -/
inductive TypeDefaultFault where
  | noExpression (entry : String)
  | noType (entry : String)
deriving DecidableEq

/-- The message to the user. -/
def TypeDefaultFault.message : TypeDefaultFault → String
  | noExpression entry =>
    "Invalid type default '" ++ entry ++ "': expected TYPE=EXPR (e.g., String='lorem')"
  | noType entry => "Invalid type default '" ++ entry ++ "': type name is empty"

/-- The text before the first equals sign and the text after it. -/
def splitAtEquals? : List Char → Option (List Char × List Char)
  | [] => none
  | '=' :: rest => some ([], rest)
  | char :: rest => (splitAtEquals? rest).map fun (type, expression) => (char :: type, expression)

/-- The type and the expression of an entry. -/
def readEntry (entry : String) : Except TypeDefaultFault (String × String) :=
  match splitAtEquals? entry.toList with
  | none => .error (.noExpression entry)
  | some (type, expression) =>
    let type := Unicode.trimmed (.ofList type)
    if type = "" then .error (.noType entry) else .ok (type, .ofList expression)

/-- The table of all entries, or the fault of the first that is refused. -/
def typeDefaultsOf (entries : List String) : Except TypeDefaultFault OverrideTable :=
  (entries.mapM readEntry).map .ofEntries

end ModelFactory.Command
