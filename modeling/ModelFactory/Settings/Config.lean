import ModelFactory.Generation.Settings

/-!
# The configuration of a project

A `ProjectConfig` holds what a project configures. Type defaults of a command line are laid over its
table (`ProjectConfig.withTypeDefaults`), and `ProjectConfig.settings` gives the settings of a run.
-/

set_option autoImplicit false

namespace ModelFactory

/-- What a project configures. -/
structure ProjectConfig where
  sentinelDate : Date := .millennium
  fileSuffix : String := defaultFileSuffix
  header : Bool := true
  typeDefaults : OverrideTable := ∅
deriving DecidableEq

namespace ProjectConfig

/-- The configuration with type defaults laid over its own. -/
def withTypeDefaults (config : ProjectConfig) (overrides : OverrideTable) : ProjectConfig :=
  { config with typeDefaults := overrides.layeredOver config.typeDefaults }

/-- The settings of a run. The banner is written if both the project and the run want it. -/
def settings (config : ProjectConfig) (header : Bool) : GeneratorSettings where
  typeDefaults := config.typeDefaults
  sentinelDate := config.sentinelDate
  header := config.header && header
  fileSuffix := config.fileSuffix

end ProjectConfig

end ModelFactory
