import ModelFactory.Proofs.Command.AllOrNothing

/-!
# Listing shows what generating gives

The two commands go over the declarations in their own ways and with settings of their own.
`Command.resolveAll_eq` says what listing collects: the definitions of the classes and the errors of
the other declarations. These are the definitions and the failures of a run that generates
(`Command.resolveAll_eq_generate`), since the settings differ by the banner alone.

The library writes the factory of a single class as well (`factoryCode`), with dates standing for
the first of January 2000. Under a configuration with that date a run gives the same texts
(`factoriesFrom_code`).
-/

set_option autoImplicit false

namespace ModelFactory

/-! ## The text of a single class -/

/-- The factory has the text, and its parameters the fallbacks, that the class gets by itself. -/
structure WrittenAlone (typeDefaults : OverrideTable) (declaration : Declaration)
    (factory : GeneratedFactory) : Prop where
  code : factory.code =
    factoryCode declaration.name declaration.fields (declaration.overrides typeDefaults)
  fallbacks : factory.definition.parameters.map (·.fallback) =
    declaration.fields.map fun field =>
      (Resolver.resolve { overrides := declaration.overrides typeDefaults } field).expression

/-- If dates stand for the first of January 2000, a run writes every class as it is written
alone. -/
theorem factoriesFrom_code {settings : GeneratorSettings}
    (hdate : settings.sentinelDate = .millennium) (names : FileNames)
    (classes : List Declaration) :
    List.Forall₂ (WrittenAlone settings.typeDefaults) classes
      (factoriesFrom settings names classes) := by
  induction classes generalizing names with
  | nil => exact .nil
  | cons declaration classes ih =>
    rw [factoriesFrom_cons]
    refine .cons ⟨?_, ?_⟩ (ih _)
    · rw [factoryUnder, definitionOf, hdate]
      rfl
    · rw [factoryUnder, definitionOf, hdate]
      exact List.map_map

namespace Command

open Files

/-! ## What listing collects -/

/-- Listing collects the definitions of the classes and the errors of the others. -/
theorem resolveAll_eq (settings : GeneratorSettings) (document : Document) :
    resolveAll settings document =
      ((classesOf document.declarations).map (definitionOf settings),
        (othersOf document.declarations).map errorOf) := by
  unfold resolveAll
  dsimp only
  induction document.declarations with
  | nil => rfl
  | cons declaration rest ih =>
    rw [Prod.mk.injEq] at ih ⊢
    obtain ⟨hdefinitions, herrors⟩ := ih
    by_cases h : declaration.kind = .classLike
    · obtain ⟨hclasses, hothers⟩ := classesOf_cons_of_class h rest
      rw [List.map_cons, resolveDeclaration_of_class h, hclasses, hothers]
      exact ⟨congrArg _ hdefinitions, herrors⟩
    · obtain ⟨hclasses, hothers⟩ := classesOf_cons_of_other h rest
      rw [List.map_cons, resolveDeclaration_of_other h, hclasses, hothers]
      exact ⟨hdefinitions, congrArg _ herrors⟩

/-- What listing collects is what generating gives, with or without the banner. -/
theorem resolveAll_eq_generate (config : ProjectConfig) (header : Bool) (document : Document)
    (sourcePath : String) :
    resolveAll (config.settings false) document =
      ((generate (config.settings header) document sourcePath).factories.map (·.definition),
        (generate (config.settings header) document sourcePath).failures) := by
  rw [resolveAll_eq, generate_factories, definitions_factoriesFrom, generate_failures]
  rfl

/-! ## What the two commands print -/

section Printed

variable {store after : Store} {input path : String} {defaults : DefaultsOptions}
  {document : Document} {config : ProjectConfig}

theorem loadInputs_of_loads (h : LoadsInputs store input defaults document config) :
    (loadInputs input defaults.config defaults.typeDefaults : StateM Store _) store =
      (.ok (document, config), store) := by
  rcases loadInputs_cases store input defaults with
    ⟨document', config', hload, hinputs⟩ | ⟨fault, -, hrefused⟩
  · obtain ⟨rfl, rfl⟩ := h.unique hinputs
    exact hload
  · exact absurd hrefused h.not_refused

/-- Listing what is loaded. -/
theorem runList_of_loads {environment : Environment} (coloring : Coloring)
    (h : LoadsInputs store input defaults document config) :
    (runList environment coloring ⟨input, defaults⟩ : StateM Store Outcome) store =
      (listLoaded (listReporter environment coloring) environment.width document config,
        store) := by
  simp only [runList, bind, StateT.bind, loadInputs_of_loads h]
  rfl

/-- A run that has written its output tells the declarations without a factory. -/
theorem runGenerate_of_written {environment : Environment} {options : GenerateOptions}
    (coloring : Coloring)
    (h : LoadsInputs store options.input options.defaults document config)
    (hpath : options.outputPath = .ok path)
    (hwritten : (writeOutput options.mode path
        (generate (config.settings options.header) document options.input) :
      StateM Store (Except FileError Unit)) store = (.ok (), after)) :
    ∃ printed, ((runGenerate environment coloring options : StateM Store Outcome) store).1 =
      finished (options.reporter environment coloring) options.mode
        (generate (config.settings options.header) document options.input) printed := by
  have hloads : Loads store options path document config := ⟨hpath, h⟩
  obtain ⟨printed, hrun⟩ := hloads.runGenerate_of_written coloring hwritten
  exact ⟨printed, by rw [hrun]⟩

end Printed

/-- Listing shows the definitions of the factories that generating gives, and skips the declarations
that generating fails for, whatever the banner, the mode and the type defaults of the command line.
The table is the one that goes to no terminal; on a terminal its cells are styled besides.
Under a configuration whose dates stand for the first of January 2000, a run writes every class as
`factoryCode` writes it alone, with the fallbacks that the resolver gives by itself. -/
theorem list_shows_what_generate_gives (document : Document) (project : ProjectConfig)
    (overrides : OverrideTable) (options : GenerateOptions) :
    let config := project.withTypeDefaults overrides
    let listed := resolveAll (config.settings false) document
    let output := generate (config.settings options.header) document options.input
    listed.1 = output.factories.map (·.definition) ∧
    listed.2 = output.failures ∧
    (∀ (environment : Environment) (coloring : Coloring) (store : Store),
      LoadsInputs store options.input options.defaults document config →
        (runList environment coloring ⟨options.input, options.defaults⟩ :
            StateM Store Outcome) store =
          ({ output := lined [Table.tableText environment.width
                (defaultColumns (output.factories.map (·.definition)))]
             errors := lined (output.failures.map fun error =>
                coloring.paint .accent "Skipped:" ++ " "
                  ++ coloring.paint .primary error.message) }, store) ∧
        ∀ path after, options.outputPath = .ok path →
          (writeOutput options.mode path output :
              StateM Store (Except FileError Unit)) store = (.ok (), after) →
            ((runGenerate environment coloring options : StateM Store Outcome) store).1.errors =
              lined (Reporter.paragraph (listed.2.map fun error =>
                coloring.paint .accent "Error:" ++ " "
                  ++ coloring.paint .primary error.message)) ++
              if listed.2 = [] then ""
              else lined ["Error: " ++
                (RunFault.declarationsFailed listed.2.length).context]) ∧
    (project.sentinelDate = .millennium →
      List.Forall₂ (WrittenAlone config.typeDefaults)
        (document.declarations.filter fun declaration => declaration.kind = .classLike)
        output.factories) := by
  intro config listed output
  have hlisted : listed = (output.factories.map (·.definition), output.failures) :=
    resolveAll_eq_generate config options.header document options.input
  have hdefinitions : listed.1 = output.factories.map (·.definition) := congrArg (·.1) hlisted
  have hfailures : listed.2 = output.failures := congrArg (·.2) hlisted
  refine ⟨hdefinitions, hfailures, ?_, ?_⟩
  · intro environment coloring store hloads
    refine ⟨?_, ?_⟩
    · rw [runList_of_loads coloring hloads, ← hdefinitions, ← hfailures]
      rfl
    · intro path after hpath hwritten
      obtain ⟨printed, hrun⟩ := runGenerate_of_written coloring hloads hpath hwritten
      rw [hrun, finished_errors, hfailures]
      rfl
  · intro hdate
    have hsettings : (config.settings options.header).sentinelDate = .millennium := hdate
    rw [generate_factories]
    exact factoriesFrom_code hsettings _ _

/-! ## A class with a field for every tier -/

/-- A descriptor of a mixin and of a class whose fields get their defaults in different ways. -/
def tiersText : String :=
  "\x7b\"classes\":[[\"B\",\"mixin\"],[\"A\",\"class\",\x7b\"b\":\"2\"\x7d,["
    ++ "[\"a\",\x7b\"named\":\"T\"\x7d,false,\"1\"],[\"b\",\x7b\"named\":\"T\"\x7d],"
    ++ "[\"c\",\x7b\"named\":\"T\"\x7d,true],[\"d\",\x7b\"named\":\"T\"\x7d],"
    ++ "[\"e\",\x7b\"named\":\"U\"\x7d],[\"f\",\x7b\"primitive\":\"int\"\x7d]]]]\x7d"

/-- What `tiersText` describes. -/
def tiers : Document where
  declarations := [
    { name := "B", kind := .mixin },
    { name := "A"
      fields := [⟨"a", .model "T", false⟩, ⟨"b", .model "T", false⟩, ⟨"c", .model "T", true⟩,
        ⟨"d", .model "T", false⟩, ⟨"e", .model "U", false⟩, ⟨"f", .primitive .integer, false⟩]
      fieldDefaults := .ofEntries [("a", "1")]
      classDefaults := .ofEntries [("b", "2")] }]

/-- The descriptor beside a configuration with an expression for a type. -/
def tiersStore : Store :=
  (workStore.put ["work", "m.json"] (.file tiersText.toUTF8)).put ["work", "factory_gen.toml"]
    (.file "[factory_gen.type_defaults]\nT = 't'\n".toUTF8)

/-- The configuration of `tiersStore`. -/
def tiersProject : ProjectConfig := { typeDefaults := .ofEntries [("T", "t")] }

/-- A run that gives the type another expression. -/
def tiersOptions : GenerateOptions where
  input := "m.json"
  output := some "out/all.dart"
  defaults := { typeDefaults := ["T=u"] }

/-- The definition of the class in `tiers`. -/
def tiersDefinition : FactoryDefinition where
  name := "AFactory"
  model := "A"
  parameters := [⟨"a", "T?", "1", .fieldOverride⟩, ⟨"b", "T?", "2", .classOverride⟩,
    ⟨"c", "T?", "null", .nullable⟩, ⟨"d", "T?", "u", .typeOverride⟩,
    ⟨"e", "U?", "UFactory.build()", .nestedFactory⟩, ⟨"f", "int?", "0", .builtIn⟩]

/-- The expressions that `tiersOptions` gives. -/
def tiersOverrides : OverrideTable := .ofEntries [("T", "u")]

theorem loads_tiers : LoadsInputs tiersStore tiersOptions.input tiersOptions.defaults tiers
    (tiersProject.withTypeDefaults tiersOverrides) :=
  .of_toOption (by decide +kernel)

/-- The class is listed as it is generated, with a default of every tier. The mixin is skipped by
listing as generating fails for it. -/
theorem tiers_listed_as_generated :
    let environment : Environment := { clock := "[12:00:00]" }
    let config := tiersProject.withTypeDefaults tiersOverrides
    let output := generate (config.settings true) tiers "m.json"
    let message := (GenerationError.invalidTarget "B" .mixin).message
    let listed := ((runList environment .reset ⟨"m.json", tiersOptions.defaults⟩ :
      StateM Store Outcome) tiersStore).1
    let generated := ((runGenerate environment .reset tiersOptions :
      StateM Store Outcome) tiersStore).1
    LoadsInputs tiersStore "m.json" tiersOptions.defaults tiers config ∧
      tiersDefinition.parameters.map (·.source) = [.fieldOverride, .classOverride, .nullable,
        .typeOverride, .nestedFactory, .builtIn] ∧
      resolveAll (config.settings false) tiers =
        ([tiersDefinition], [.invalidTarget "B" .mixin]) ∧
      output.factories.map (·.definition) = [tiersDefinition] ∧
      listed.output = lined [Table.tableText 80 (defaultColumns [tiersDefinition])] ∧
      listed.errors = lined [Coloring.reset.paint .accent "Skipped:" ++ " " ++
        Coloring.reset.paint .primary message] ∧
      generated.errors = lined ["", Coloring.reset.paint .accent "Error:" ++ " " ++
        Coloring.reset.paint .primary message,
        "Error: 1 element(s) could not be generated"] ∧
      List.Forall₂ (WrittenAlone config.typeDefaults)
        (tiers.declarations.filter fun declaration => declaration.kind = .classLike)
        output.factories := by
  intro environment config output message listed generated
  have hlisted : resolveAll (config.settings false) tiers =
      ([tiersDefinition], [.invalidTarget "B" .mixin]) := by decide +kernel
  have hok : ((writeOutput .combined "out/all.dart" output :
      StateM Store (Except FileError Unit)) tiersStore).1.isOk = true := by decide +kernel
  obtain ⟨after, hafter⟩ := exists_ok_of_isOk hok
  obtain ⟨hdefinitions, hfailures, hprinted, hwritten⟩ :=
    list_shows_what_generate_gives tiers tiersProject tiersOverrides tiersOptions
  obtain ⟨hrun, herrors⟩ := hprinted environment .reset tiersStore loads_tiers
  rw [hlisted] at hdefinitions hfailures
  have hgenerated := herrors "out/all.dart" after rfl hafter
  rw [hlisted] at hgenerated
  rw [← hdefinitions, ← hfailures] at hrun
  exact ⟨loads_tiers, rfl, hlisted, hdefinitions.symm, congrArg (·.1.output) hrun,
    congrArg (·.1.errors) hrun, hgenerated, hwritten rfl⟩

end Command

end ModelFactory
