import ModelFactory.Proofs.Default.Lookups
import ModelFactory.Proofs.Generation.Run
import ModelFactory.Proofs.Overrides

/-!
# How far an override reaches

An override changes only what it names. The default of a field depends on the entries of its name
and on those of the rendered types from its own inward to the leaf, so two sets of tables that agree
on these cannot be told apart by the field. Hence an entry of the type defaults that is put in, given
another text or taken out leaves every class alone that has no field to look it up
(`definitionOf_eq_of_sameBut`): in a run such a class has the same factory before and after. And an
override of a type further in is not seen from behind one further out
(`Resolver.resolve_eq_of_outer`).

`override_effects_confined` puts this together.
-/

set_option autoImplicit false

namespace ModelFactory

/-- The right table is the left one with the entry of one key put in, changed or taken out. -/
def OverrideTable.SameBut (key : String) (left right : OverrideTable) : Prop :=
  ∀ other, other ≠ key → right[other]? = left[other]?

/-! ## Fields -/

namespace Resolver

/-- A field cannot tell tables that agree on its name and on the levels of its type. -/
theorem resolve_eq_of_levels {overrides others : Overrides} (date : Date) {field : Field}
    (hfield : others.byField[field.name]? = overrides.byField[field.name]?)
    (hclass : others.byClass[field.name]? = overrides.byClass[field.name]?)
    (htype : ∀ level ≤ field.type.depth, others.byType[field.type.renderedAt level]? =
      overrides.byType[field.type.renderedAt level]?) :
    resolve ⟨others, date⟩ field = resolve ⟨overrides, date⟩ field := by
  refine resolve_eq_of_agree date hfield hclass fun _ key hkey => ?_
  obtain ⟨level, hle, rfl, -⟩ := hkey.exists_level
  exact htype level hle

/-- Only a field that leaves its default to its type, and has the key at some level, can tell tables
that differ in the key. -/
theorem resolve_eq_of_sameBut {overrides : Overrides} {byType : OverrideTable} {key : String}
    (h : overrides.byType.SameBut key byType) (date : Date) {field : Field}
    (hkey : overrides.LeavesToType field →
      ∀ level ≤ field.type.depth, field.type.renderedAt level ≠ key) :
    resolve ⟨{ overrides with byType }, date⟩ field = resolve ⟨overrides, date⟩ field := by
  refine resolve_eq_of_agree date rfl rfl fun hleaves asked hasked => ?_
  obtain ⟨level, hle, rfl, -⟩ := hasked.exists_level
  exact h _ (hkey hleaves level hle)

/-- An override of a type further in is not looked up where one further out is overridden. -/
theorem resolve_eq_of_outer {overrides : Overrides} {byType : OverrideTable} {field : Field}
    {inner outer : Nat} (h : overrides.byType.SameBut (field.type.renderedAt inner) byType)
    (date : Date) (hlt : inner < outer) (hle : outer ≤ field.type.depth)
    (hover : overrides.byType[field.type.renderedAt outer]? ≠ none) :
    resolve ⟨{ overrides with byType }, date⟩ field = resolve ⟨overrides, date⟩ field := by
  refine resolve_eq_of_agree date rfl rfl fun _ asked hasked => ?_
  obtain ⟨level, -, rfl, houter⟩ := hasked.exists_level
  refine h _ fun heq => ?_
  -- Were the inner level looked up, the outer one could not be overridden.
  have hlevel : level = inner := FieldType.renderedAt_injective heq
  exact hover (houter outer (by omega) hle)

end Resolver

/-! ## Classes -/

section Classes

variable {settings : GeneratorSettings} {declaration : Declaration}

/-- A class has the same definition if none of its fields can tell the type defaults. -/
theorem definitionOf_eq_of_sameBut {typeDefaults : OverrideTable} {key : String}
    (h : settings.typeDefaults.SameBut key typeDefaults)
    (hfields : ∀ field ∈ declaration.fields,
      (declaration.overrides settings.typeDefaults).LeavesToType field →
        ∀ level ≤ field.type.depth, field.type.renderedAt level ≠ key) :
    definitionOf { settings with typeDefaults } declaration = definitionOf settings declaration := by
  unfold definitionOf FactoryDefinition.ofFields
  congr 1
  refine List.map_congr_left fun field hfield => ?_
  -- A parameter has its name and type from the field, and only its default from the tables.
  have hresolve :
      Resolver.resolve ⟨declaration.overrides typeDefaults, settings.sentinelDate⟩ field =
        Resolver.resolve ⟨declaration.overrides settings.typeDefaults, settings.sentinelDate⟩
          field :=
    Resolver.resolve_eq_of_sameBut h settings.sentinelDate (hfields field hfield)
  unfold FactoryParameter.ofField
  exact congrArg (fun resolved : ResolvedDefault => FactoryParameter.mk field.name
    field.type.renderedOptional resolved.expression resolved.source) hresolve

end Classes

/-! ## Runs -/

/-- The effect of overrides is confined to what they name.

Tables that agree on the entries of a field's name and, among the type defaults, on those of the
rendered types from its leaf to all its lists, give the field the same default from the same tier.

Where the entry of one key is put into the type defaults of a run, changed or taken out, the factory
of every class stays as it is, with its parameters, its text and its file name, unless the class has
a field that is not nullable, has no override by name and has the key among those rendered types.

A change of the override of a type further in does not change a field with an override of a type
further out. -/
theorem override_effects_confined :
    (∀ (overrides others : Overrides) (date : Date) (field : Field),
      others.byField[field.name]? = overrides.byField[field.name]? →
      others.byClass[field.name]? = overrides.byClass[field.name]? →
      (∀ level ≤ field.type.depth, others.byType[field.type.renderedAt level]? =
        overrides.byType[field.type.renderedAt level]?) →
      Resolver.resolve ⟨others, date⟩ field = Resolver.resolve ⟨overrides, date⟩ field) ∧
    (∀ (settings : GeneratorSettings) (key : String) (typeDefaults : OverrideTable)
      (document : Document) (sourcePath : String),
      settings.typeDefaults.SameBut key typeDefaults →
      let before := generate settings document sourcePath
      let after := generate { settings with typeDefaults } document sourcePath
      let classes := document.declarations.filter fun declaration => declaration.kind = .classLike
      before.factories.length = classes.length ∧ after.factories.length = classes.length ∧
      ∀ (index : Nat) (declaration : Declaration), classes[index]? = some declaration →
        (∀ field ∈ declaration.fields,
          ¬ (declaration.fieldDefaults[field.name]? = none ∧
            declaration.classDefaults[field.name]? = none ∧ field.nullable = false ∧
            ∃ level ≤ field.type.depth, field.type.renderedAt level = key)) →
        ∃ factory, factory.definition.model = declaration.name ∧
          before.factories[index]? = some factory ∧ after.factories[index]? = some factory) ∧
    (∀ (overrides : Overrides) (byType : OverrideTable) (date : Date) (field : Field)
      (inner outer : Nat), inner < outer → outer ≤ field.type.depth →
      overrides.byType[field.type.renderedAt outer]? ≠ none →
      overrides.byType.SameBut (field.type.renderedAt inner) byType →
      Resolver.resolve ⟨{ overrides with byType }, date⟩ field =
        Resolver.resolve ⟨overrides, date⟩ field) := by
  refine ⟨?_, ?_, ?_⟩
  · intro overrides others date field hfield hclass htype
    exact Resolver.resolve_eq_of_levels date hfield hclass htype
  · intro settings key typeDefaults document sourcePath hsame before after classes
    refine ⟨length_generate_factories .., length_generate_factories .., ?_⟩
    intro index declaration hclass hfields
    obtain ⟨fileName, hfactory⟩ := exists_fileName_generate settings.fileSuffix hclass
    have hdefinition := definitionOf_eq_of_sameBut hsame fun field hfield hleaves level hle hkey =>
      hfields field hfield
        ⟨hleaves.byField, hleaves.byClass, hleaves.nullable, level, hle, hkey⟩
    refine ⟨factoryUnder settings declaration fileName, rfl, hfactory settings sourcePath rfl, ?_⟩
    rw [hfactory { settings with typeDefaults } sourcePath rfl, factoryUnder, hdefinition]
    rfl
  · intro overrides byType date field inner outer hlt hle hover hsame
    exact Resolver.resolve_eq_of_outer hsame date hlt hle hover

/-- Type defaults of which the text for numbers may change. -/
def numberDefaults (text : String) : OverrideTable :=
  .ofEntries [("List<int>", "const <int>[]"), ("int", text)]

theorem numberDefaults_sameBut (text other : String) :
    (numberDefaults text).SameBut "int" (numberDefaults other) := by
  intro key hkey
  have hne : (key == "int") = false := by simpa using hkey
  simp only [numberDefaults, OverrideTable.getElem?_ofEntries, List.reverse_cons, List.reverse_nil,
    List.nil_append, List.cons_append, List.lookup_cons, hne]

/-- A class with a number, and one that has a number only where it may be missing. -/
def countAndNote : Document where
  declarations := [
    { name := "Count", fields := [⟨"total", .primitive .integer, false⟩] },
    { name := "Note", fields := [
      ⟨"size", .primitive .integer, true⟩, ⟨"lines", .list (.primitive .string), false⟩] }]

/-- Another text for numbers changes the first class of `countAndNote` and leaves the second alone.
It does not change rows of numbers, since a row has an override of its own, and a list of texts does
not see any of it. -/
theorem numberDefaults_effects_confined :
    let run (text : String) := generate { typeDefaults := numberDefaults text } countAndNote "m.json"
    let cells : Field := ⟨"cells", .list (.list (.primitive .integer)), false⟩
    let lines : Field := ⟨"lines", .list (.primitive .string), false⟩
    (numberDefaults "7").SameBut "int" (numberDefaults "8") ∧
      (run "7").factories[0]? ≠ (run "8").factories[0]? ∧
      (∃ factory, factory.definition.model = "Note" ∧
        (run "7").factories[1]? = some factory ∧ (run "8").factories[1]? = some factory) ∧
      Resolver.resolve ⟨{ byType := numberDefaults "8" }, .millennium⟩ cells =
        Resolver.resolve ⟨{ byType := numberDefaults "7" }, .millennium⟩ cells ∧
      Resolver.resolve ⟨{ byType := numberDefaults "7" }, .millennium⟩ lines =
        Resolver.resolve ⟨{}, .millennium⟩ lines := by
  intro run cells lines
  have hsame := numberDefaults_sameBut "7" "8"
  obtain ⟨hlevels, hruns, houter⟩ := override_effects_confined
  obtain ⟨-, -, hclasses⟩ :=
    hruns { typeDefaults := numberDefaults "7" } "int" (numberDefaults "8") countAndNote "m.json"
      hsame
  refine ⟨hsame, by decide +kernel, ?_, ?_, ?_⟩
  · exact hclasses 1 countAndNote.declarations[1] rfl (by decide +kernel)
  · exact houter { byType := numberDefaults "7" } (numberDefaults "8") .millennium cells 0 1
      (by decide) (by decide) (by decide +kernel) hsame
  · exact hlevels {} { byType := numberDefaults "7" } .millennium lines rfl rfl (by decide +kernel)

end ModelFactory
