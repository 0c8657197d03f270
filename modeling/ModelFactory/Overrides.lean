import Std.Data.ExtTreeMap

/-!
# Override tables

An `OverrideTable` maps a key to the expression used as a fallback. Two tables with the same
entries are equal. `Overrides` holds the three tables that are asked for one field: two keyed by
the field's name and one by its rendered type.
-/

set_option autoImplicit false

namespace ModelFactory

/-- Expressions by key. -/
abbrev OverrideTable := Std.ExtTreeMap String String

namespace OverrideTable

/-- The entries one after the other: of two with one key the later stays. -/
def ofEntries (entries : List (String × String)) : OverrideTable :=
  entries.foldl (fun table entry => table.insert entry.1 entry.2) ∅

/-- The entries of `upper` laid over those of `lower`. -/
def layeredOver (upper lower : OverrideTable) : OverrideTable :=
  upper.foldl (fun table key expression => table.insert key expression) lower

end OverrideTable

/-- The tables asked for the default of one field. -/
structure Overrides where
  /-- Defaults given at the fields, by field name. -/
  byField : OverrideTable := ∅
  /-- Defaults given at the class, by field name. -/
  byClass : OverrideTable := ∅
  /-- Defaults of the whole project, by rendered type. -/
  byType : OverrideTable := ∅
deriving DecidableEq

end ModelFactory
