import ModelFactory.Calendar.Date
import ModelFactory.Overrides

/-!
# Settings of a run

What a run depends on besides the document and the path in the banner.
-/

set_option autoImplicit false

namespace ModelFactory

/-- The file suffix when none is configured. -/
def defaultFileSuffix : String := ".factory.dart"

/-- The settings of a run. -/
structure GeneratorSettings where
  typeDefaults : OverrideTable := ∅
  /-- The date that stands for any date. -/
  sentinelDate : Date := .millennium
  /-- Generated text starts with the banner. -/
  header : Bool := true
  fileSuffix : String := defaultFileSuffix
deriving DecidableEq

end ModelFactory
