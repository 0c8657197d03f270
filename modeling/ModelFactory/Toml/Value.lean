/-!
# TOML data

A `Value` is a value with the way its tables came about: `TableForm` tells a table with a header of
its own from one that a longer header implies, from one that dotted keys make, and from those
written between braces. Entries stand in the order in which they were made.
-/

set_option autoImplicit false

namespace ModelFactory.Toml

/-- How a table came about. -/
inductive TableForm where
  /-- The table has a header of its own, or is the whole text. -/
  | header
  /-- A longer header names the table. -/
  | implied
  /-- A dotted key names the table. -/
  | dotted
  /-- The table is written between braces. -/
  | inline
  /-- A dotted key between braces names the table. -/
  | inlineDotted
deriving DecidableEq

namespace TableForm

/-- A dotted key names the table. -/
def isDotted : TableForm → Bool
  | dotted | inlineDotted => true
  | _ => false

/-- The table is part of a text between braces. -/
def isInline : TableForm → Bool
  | inline | inlineDotted => true
  | _ => false

end TableForm

/-- A value. -/
inductive Value where
  | string (text : String)
  | integer (value : Int)
  | binary (value : Float)
  | boolean (value : Bool)
  /-- A date, a time or both. -/
  | moment (text : String)
  | array (items : List Value)
  | table (form : TableForm) (entries : List (String × Value))
  /-- Tables that share one header. -/
  | tables (rows : List (List (String × Value)))

/-- The entries of a table. -/
abbrev Entries := List (String × Value)

/-- The words for the sort of a value. -/
def Value.sortName : Value → String
  | string _ => "string"
  | integer _ => "integer"
  | binary _ => "float"
  | boolean _ => "boolean"
  | moment _ => "datetime"
  | array _ => "array"
  | table form _ => if form.isInline then "inline table" else "table"
  | tables _ => "array of tables"

namespace Entries

/-- The entries with another value under a key that they have. -/
def replace (key : String) (value : Value) : Entries → Entries
  | [] => []
  | entry :: rest => if entry.1 = key then (key, value) :: rest else entry :: replace key value rest

/-- The entries without a key. -/
def without (key : String) (entries : Entries) : Entries := entries.filter (·.1 != key)

end Entries

end ModelFactory.Toml
