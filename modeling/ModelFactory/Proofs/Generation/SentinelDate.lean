import ModelFactory.Proofs.Default.Dates
import ModelFactory.Proofs.Factory.Lines
import ModelFactory.Proofs.Generation.Run

/-!
# Runs with another sentinel date

Two runs that differ in the sentinel date differ in the fallbacks of the fields that take the date
and in the lines of the text that pass these parameters on (`FactoryParameter.Redated`,
`GeneratedFactory.Redated`), and in nothing else: `sentinelDate_reaches_dates`.
-/

set_option autoImplicit false

namespace ModelFactory

open Command (lined)

/-! ## Classes -/

/-- What the two parameters of one field are in runs with two dates: the fallbacks are the dates
inside the brackets of the lists if the field takes the date, and otherwise nothing differs. -/
structure FactoryParameter.Redated (overrides : Overrides) (first second : Date) (field : Field)
    (left right : FactoryParameter) : Prop where
  name : left.name = field.name ∧ right.name = field.name
  type : left.type = field.type.renderedOptional ∧ right.type = field.type.renderedOptional
  source : right.source = left.source
  dated : TakesDate overrides field →
    left.fallback = inBrackets field.type.depth (plainDate first) ∧
      right.fallback = inBrackets field.type.depth (plainDate second)
  undated : ¬ TakesDate overrides field → right = left

theorem FactoryParameter.redated_ofField (overrides : Overrides) (first second : Date)
    (field : Field) :
    Redated overrides first second field (ofField ⟨overrides, first⟩ field)
      (ofField ⟨overrides, second⟩ field) where
  name := ⟨rfl, rfl⟩
  type := ⟨rfl, rfl⟩
  source := Resolver.source_resolve_redate overrides field first second
  dated := by
    intro h
    unfold ofField
    rw [Resolver.resolve_of_takesDate h, Resolver.resolve_of_takesDate h]
    exact ⟨rfl, rfl⟩
  undated := by
    intro h
    unfold ofField
    rw [Resolver.resolve_redate h first second]

/-- What the two factories of one class are in runs with two dates: they have the same names and
file, one parameter for each field, and texts that differ at most in the lines that pass the
parameters on. -/
structure GeneratedFactory.Redated (typeDefaults : OverrideTable) (first second : Date)
    (declaration : Declaration) (left right : GeneratedFactory) : Prop where
  name : right.definition.name = left.definition.name
  model : left.definition.model = declaration.name ∧ right.definition.model = declaration.name
  fileName : right.fileName = left.fileName
  lengths : left.definition.parameters.length = declaration.fields.length ∧
    right.definition.parameters.length = declaration.fields.length
  parameters : ∀ (index : Nat) (field : Field), declaration.fields[index]? = some field →
    ∃ parameter other, left.definition.parameters[index]? = some parameter ∧
      right.definition.parameters[index]? = some other ∧
      FactoryParameter.Redated (declaration.overrides typeDefaults) first second field parameter
        other
  code : ∃ before after,
    left.code = lined (before
      ++ left.definition.parameters.map FactoryParameter.argumentLine ++ after) ∧
    right.code = lined (before
      ++ right.definition.parameters.map FactoryParameter.argumentLine ++ after)

section Classes

variable (settings : GeneratorSettings) (first second : Date) (declaration : Declaration)

theorem definitionOf_name :
    (definitionOf settings declaration).name = factoryName declaration.name := rfl

theorem definitionOf_model : (definitionOf settings declaration).model = declaration.name := rfl

theorem factoryUnder_fileName (fileName : String) :
    (factoryUnder settings declaration fileName).fileName = fileName := rfl

theorem GeneratedFactory.redated_factoryUnder (fileName : String) :
    Redated settings.typeDefaults first second declaration
      (factoryUnder { settings with sentinelDate := first } declaration fileName)
      (factoryUnder { settings with sentinelDate := second } declaration fileName) where
  name := (definitionOf_name ..).trans (definitionOf_name ..).symm
  model := ⟨rfl, rfl⟩
  fileName := (factoryUnder_fileName ..).trans (factoryUnder_fileName ..).symm
  lengths := ⟨List.length_map .., List.length_map ..⟩
  parameters := by
    intro index field hfield
    refine ⟨_, _, ?_, ?_, FactoryParameter.redated_ofField _ first second field⟩
    · simp [factoryUnder, definitionOf, FactoryDefinition.ofFields, hfield]
    · simp [factoryUnder, definitionOf, FactoryDefinition.ofFields, hfield]
  code := by
    -- The lines that declare the parameters hold their types and names only.
    have hsignatures (date : Date) :
        (definitionOf { settings with sentinelDate := date } declaration).parameters.map
            FactoryParameter.signatureLine =
          declaration.fields.map fun field =>
            "    " ++ field.type.renderedOptional ++ " " ++ field.name ++ "," := List.map_map
    obtain ⟨before, after, hleft, hright⟩ := FactoryDefinition.exists_lines_around_arguments
      ((definitionOf_name ..).trans (definitionOf_name ..).symm)
      ((definitionOf_model ..).trans (definitionOf_model ..).symm)
      ((hsignatures second).trans (hsignatures first).symm)
    refine ⟨before, after, ?_, ?_⟩
    · simp only [factoryUnder]
      rw [← hleft, FactoryDefinition.code_eq_lined]
    · simp only [factoryUnder]
      rw [← hright, FactoryDefinition.code_eq_lined]

/-- The tiers that give the defaults of classes do not depend on the date. -/
theorem sourcesOf_redate (classes : List Declaration) :
    sourcesOf { settings with sentinelDate := second } classes =
      sourcesOf { settings with sentinelDate := first } classes := by
  unfold sourcesOf
  congr 1
  funext declaration
  simp only [definitionOf, FactoryDefinition.ofFields, List.map_map]
  refine List.map_congr_left fun field _ => ?_
  exact Resolver.source_resolve_redate _ field first second

end Classes

/-! ## Runs -/

/-- The sentinel date reaches exactly the dates. Two runs that differ in it have the same header, the
same failures and the same counts and warnings, and for each class two factories with the same names
and file name, the same parameters with types and sources, and the same lines of text but for those
that pass the parameters on. The fallbacks of a field without an override by name that is not
nullable, whose type is a date inside lists and is overridden at no level, are the two dates inside
the brackets of the lists. Every other parameter is the same. -/
theorem sentinelDate_reaches_dates (settings : GeneratorSettings) (document : Document)
    (sourcePath : String) (first second : Date) :
    let run (date : Date) := generate { settings with sentinelDate := date } document sourcePath
    let classes := document.declarations.filter fun declaration => declaration.kind = .classLike
    (run second).header = (run first).header ∧ (run second).failures = (run first).failures ∧
    (run second).statistics = (run first).statistics ∧
    (run first).factories.length = classes.length ∧
    (run second).factories.length = classes.length ∧
    ∀ (index : Nat) (declaration : Declaration), classes[index]? = some declaration →
      ∃ left right, (run first).factories[index]? = some left ∧
        (run second).factories[index]? = some right ∧
        GeneratedFactory.Redated settings.typeDefaults first second declaration left right := by
  intro run classes
  refine ⟨?_, ?_, ?_, length_generate_factories .., length_generate_factories .., ?_⟩
  · rw [generate_header, generate_header]
  · rw [generate_failures, generate_failures]
  · -- The counts depend on the date at most through the tiers of the defaults.
    rw [generate_statistics, generate_statistics]
    simp only [Statistics.afterPasses, sourcesOf_redate settings first second]
  · intro index declaration hclass
    obtain ⟨fileName, hfactory⟩ := exists_fileName_generate settings.fileSuffix hclass
    exact ⟨_, _, hfactory { settings with sentinelDate := first } sourcePath rfl,
      hfactory { settings with sentinelDate := second } sourcePath rfl,
      GeneratedFactory.redated_factoryUnder settings first second declaration fileName⟩

/-- The Ides of March before the year 0. -/
def ides : Date := ⟨-44, 3, 15, by decide⟩

/-- A class with rows of dates, and with a date that may be missing. -/
def meeting : Declaration where
  name := "Meeting"
  fields := [
    ⟨"slots", .list (.list (.primitive .dateTime)), false⟩,
    ⟨"closed", .primitive .dateTime, true⟩]

/-- The rows of `meeting` hold the date of their run, and the date that may be missing holds none. -/
theorem meeting_redated :
    let run (date : Date) :=
      generate { sentinelDate := date } { declarations := [meeting] } "m.json"
    TakesDate (meeting.overrides ∅) meeting.fields[0] ∧
      ¬ TakesDate (meeting.overrides ∅) meeting.fields[1] ∧
      ∃ left right, (run .millennium).factories[0]? = some left ∧
        (run ides).factories[0]? = some right ∧
        right.definition.parameters[1]? = left.definition.parameters[1]? ∧
        ∃ parameter other, left.definition.parameters[0]? = some parameter ∧
          right.definition.parameters[0]? = some other ∧
          parameter.fallback = "[[DateTime(2000, 1, 1)]]" ∧
          other.fallback = "[[DateTime(-44, 3, 15)]]" := by
  intro run
  have htakes : TakesDate (meeting.overrides ∅) meeting.fields[0] :=
    ⟨⟨by decide +kernel, by decide +kernel, rfl⟩, ⟨rfl, by decide +kernel⟩⟩
  have hnot : ¬ TakesDate (meeting.overrides ∅) meeting.fields[1] := by
    intro h
    cases h.nullable
  obtain ⟨-, -, -, -, -, hclasses⟩ :=
    sentinelDate_reaches_dates {} { declarations := [meeting] } "m.json" .millennium ides
  obtain ⟨left, right, hleft, hright, hredated⟩ := hclasses 0 meeting rfl
  obtain ⟨parameter, other, hparameter, hother, hslots⟩ := hredated.parameters 0 _ rfl
  obtain ⟨closed, same, hclosed, hsame, hunchanged⟩ := hredated.parameters 1 _ rfl
  obtain ⟨hfirst, hsecond⟩ := hslots.dated htakes
  have hmillennium : inBrackets 2 (plainDate .millennium) = "[[DateTime(2000, 1, 1)]]" := by
    decide +kernel
  have hides : inBrackets 2 (plainDate ides) = "[[DateTime(-44, 3, 15)]]" := by decide +kernel
  refine ⟨htakes, hnot, left, right, hleft, hright, ?_, parameter, other, hparameter, hother,
    hfirst.trans hmillennium, hsecond.trans hides⟩
  rw [hclosed, hsame, hunchanged.undated hnot]

end ModelFactory
