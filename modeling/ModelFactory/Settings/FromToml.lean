import ModelFactory.Calendar.DateText
import ModelFactory.Settings.Config
import ModelFactory.Toml.Values

/-!
# Configurations in TOML

A configuration is one table of a text, `factory_gen`. Every entry of it may be missing, and so may
the table. `configOfToml` reads it.
-/

set_option autoImplicit false

namespace ModelFactory

open Record (DataFault Shape)
open Toml (Value)

namespace ProjectConfig

/-- The word of the table that configures the program. -/
def sectionWord : String := "factory_gen"

/-- A date, written as text. -/
def readDate (value : Value) : Except DataFault Date :=
  match value with
  | .string text => (Date.ofText text).mapError .noDate
  | _ => .error (value.refused .date)

/-- The text entries of a table. -/
def readTypeDefaults (value : Value) : Except DataFault OverrideTable :=
  (value.readTable).map fun entries =>
    .ofEntries (entries.filterMap fun (key, text) => text.map (key, ·))

/-- The record of a configuration. -/
def shape : Shape Value DataFault ProjectConfig ProjectConfig where
  kind := .settings
  blank := {}
  slots := [
    .ofReader "sentinel_date" readDate fun config sentinelDate => { config with sentinelDate },
    .ofReader "file_suffix" Value.readString fun config fileSuffix => { config with fileSuffix },
    .ofReader "header" Value.readBoolean fun config header => { config with header },
    { Record.Slot.ofReader "type_defaults" readTypeDefaults fun config typeDefaults =>
        { config with typeDefaults } with otherWords := ["defaults"] }]
  finish := .ok

/-- The configuration among the entries of a text. -/
def ofEntries (entries : Toml.Entries) : Except DataFault ProjectConfig :=
  match entries.lookup sectionWord with
  | some value => value.readRecord shape
  | none => .ok {}

end ProjectConfig

/-- The configuration that a TOML text holds. -/
def configOfToml (text : String) : Except Toml.Fault ProjectConfig :=
  Toml.readDocument ProjectConfig.ofEntries text

end ModelFactory
