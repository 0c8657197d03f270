import ModelFactory.Factory.Definition
import ModelFactory.Generation.FileNames

/-!
# Statistics of a run

The counts grow with every declaration: `Statistics.recordFactory` for one with a factory and
`Statistics.recordFailure` for one without.
-/

set_option autoImplicit false

namespace ModelFactory

/-- What a run counted. -/
structure Statistics where
  elementsSeen : Nat := 0
  factoriesGenerated : Nat := 0
  fieldsResolved : Nat := 0
  /-- The number of parameters whose default came from a tier. -/
  defaultsFrom : DefaultSource → Nat := fun _ => 0
  failures : Nat := 0
  warnings : List NameClash := []

namespace Statistics

/-- The tiers that gave a default, in their order, each with its count. -/
def defaultsBySource (statistics : Statistics) : List (DefaultSource × Nat) :=
  DefaultSource.all.filterMap fun source =>
    let count := statistics.defaultsFrom source
    if count = 0 then none else some (source, count)

/-- One more default from a tier. -/
def countDefault (defaultsFrom : DefaultSource → Nat) (source : DefaultSource) :
    DefaultSource → Nat :=
  fun tier => if tier = source then defaultsFrom tier + 1 else defaultsFrom tier

/-- A declaration with a factory and the clash of its file name. -/
def recordFactory (statistics : Statistics) (definition : FactoryDefinition)
    (clash : Option NameClash) : Statistics where
  elementsSeen := statistics.elementsSeen + 1
  factoriesGenerated := statistics.factoriesGenerated + 1
  fieldsResolved := statistics.fieldsResolved + definition.parameters.length
  defaultsFrom := (definition.parameters.map (·.source)).foldl countDefault statistics.defaultsFrom
  failures := statistics.failures
  warnings := statistics.warnings ++ clash.toList

/-- A declaration without a factory. -/
def recordFailure (statistics : Statistics) : Statistics :=
  { statistics with
    elementsSeen := statistics.elementsSeen + 1
    failures := statistics.failures + 1 }

end Statistics

end ModelFactory
