import ModelFactory.Calendar.DateText
import ModelFactory.Text.Joined
import ModelFactory.Text.Quoted

/-!
# Faults of data

What can be wrong with data that follows the grammar of its format. The faults are shared by the
formats: `Found` is what stands in the data and `Wanted` what a reader asked for.
-/

set_option autoImplicit false

namespace ModelFactory.Record

/-- What stands in the data. -/
inductive Found where
  | null
  | boolean (value : Bool)
  | integer (value : Int)
  /-- A binary64 number, with the text that its format gives it. -/
  | binary (text : String)
  | string (text : String)
  | sequence
  | map
  /-- A word that names a variant, without a value. -/
  | bareVariant
deriving DecidableEq

/-- The words for what stands in the data. -/
def Found.described : Found → String
  | null => "null"
  | boolean value => "boolean `" ++ toString value ++ "`"
  | integer value => "integer `" ++ toString value ++ "`"
  | binary text => "floating point `" ++ text ++ "`"
  | string text => "string " ++ Text.quoted text
  | sequence => "sequence"
  | map => "map"
  | bareVariant => "unit variant"

/-- The records that data describe. -/
inductive RecordKind where
  | document
  | declaration
  | field
  | enumeration
  | settings
deriving DecidableEq

/-- The words for a record. -/
def RecordKind.described : RecordKind → String
  | document => "struct RawDocument"
  | declaration => "struct RawClass"
  | field => "struct RawField"
  | enumeration => "struct variant TypeRef::Enum"
  | settings => "struct FactoryGenSection"

/-- What a reader asked for. -/
inductive Wanted where
  | string
  | boolean
  | sequence
  | map
  | nothing
  /-- A variant with one value. -/
  | singleVariant
  /-- A variant with a record. -/
  | recordVariant
  | record (kind : RecordKind)
  | date
deriving DecidableEq

/-- The words for what a reader asked for. -/
def Wanted.described : Wanted → String
  | string => "a string"
  | boolean => "a boolean"
  | sequence => "a sequence"
  | map => "a map"
  | nothing => "unit"
  | singleVariant => "newtype variant"
  | recordVariant => "struct variant"
  | record kind => kind.described
  | date => "a formatted date string"

/-- What is wrong with data. -/
inductive DataFault where
  | wrongType (found : Found) (wanted : Wanted)
  | missingEntry (word : String)
  | repeatedEntry (word : String)
  | unknownVariant (word : String) (known : List String)
  /-- A record written as a list that is too short. -/
  | wrongLength (count : Nat) (kind : RecordKind) (size : Nat)
  /-- The kind of a declaration is neither a word nor a known word with nothing. -/
  | unmatchedKind
  /-- A tagged value has to be a word or a table. -/
  | neitherWordNorTable
  /-- A table that tags a value has to have one entry. -/
  | notOneEntry (several : Bool)
  /-- The entries of a tagged record that it does not know. -/
  | unexpectedEntries (words known : List String)
  | emptyTableWanted
  | emptyArrayWanted
  | tableWanted (found : String)
  | noDate (flaw : Calendar.DateFlaw)
deriving DecidableEq

namespace DataFault

/-- The message to the user. -/
def message : DataFault → String
  | wrongType found wanted =>
    "invalid type: " ++ found.described ++ ", expected " ++ wanted.described
  | missingEntry word => "missing field `" ++ word ++ "`"
  | repeatedEntry word => "duplicate field `" ++ word ++ "`"
  | unknownVariant word known =>
    "unknown variant `" ++ word ++ "`, expected one of "
      ++ Text.joined ", " (known.map fun word => "`" ++ word ++ "`")
  | wrongLength count kind size =>
    "invalid length " ++ toString count ++ ", expected " ++ kind.described ++ " with "
      ++ toString size ++ " elements"
  | unmatchedKind => "data did not match any variant of untagged enum ElementKind"
  | neitherWordNorTable => "wanted string or table"
  | notOneEntry several =>
    "wanted exactly 1 element, " ++ if several then "more than 1 element" else "found 0 elements"
  | unexpectedEntries words known =>
    "unexpected keys in table: " ++ Text.joined ", " words ++ ", available keys: "
      ++ Text.joined ", " known
  | emptyTableWanted => "expected empty table"
  | emptyArrayWanted => "expected empty array"
  | tableWanted found => "expected table, found " ++ found
  | noDate flaw => flaw.message

end DataFault

end ModelFactory.Record
