import ModelFactory.Generation.Output
import ModelFactory.Proofs.Generation.Allocation

/-!
# What a run gives

A run threads the file names, the factories, the failures and the counts through its passes.
`RunState.foldl_pass` gives all of them at once from the list of declarations: the factories are
those of the classes in document order, each under the file name that allocation gives its model
among the classes alone, and the failures are the other declarations.

So a declaration that is no class leaves everything but the failures and the number of declarations
seen as if it were not there, and what stands behind a declaration does not change what was made
before it (`generate_failures_confined`).
-/

set_option autoImplicit false

namespace ModelFactory

/-! ## One pass -/

theorem DeclarationKind.isConstructible_eq (kind : DeclarationKind) :
    kind.isConstructible = decide (kind = .classLike) := by
  cases kind with
  | classLike => rfl
  | _ => rfl

/-- The declarations that a factory can be written for. -/
def classesOf (declarations : List Declaration) : List Declaration :=
  declarations.filter fun declaration => declaration.kind = .classLike

/-- The other declarations. -/
def othersOf (declarations : List Declaration) : List Declaration :=
  declarations.filter fun declaration => declaration.kind ≠ .classLike

/-- The definition that a class gets. -/
def definitionOf (settings : GeneratorSettings) (declaration : Declaration) : FactoryDefinition :=
  .ofFields ⟨declaration.overrides settings.typeDefaults, settings.sentinelDate⟩ declaration.name
    declaration.fields

/-- The error that another declaration gets. -/
def errorOf (declaration : Declaration) : GenerationError :=
  .invalidTarget declaration.name declaration.kind

/-- The factory of a class under a file name. -/
def factoryUnder (settings : GeneratorSettings) (declaration : Declaration) (fileName : String) :
    GeneratedFactory :=
  ⟨definitionOf settings declaration, (definitionOf settings declaration).code, fileName⟩

section Pass

variable {settings : GeneratorSettings} {declaration : Declaration}

theorem resolveDeclaration_of_class (h : declaration.kind = .classLike) :
    resolveDeclaration settings declaration = .ok (definitionOf settings declaration) := by
  refine FactoryDefinition.ofDeclaration_eq_ok_iff.2 ⟨?_, rfl⟩
  rw [DeclarationKind.isConstructible_eq, decide_eq_true h]

theorem resolveDeclaration_of_other (h : declaration.kind ≠ .classLike) :
    resolveDeclaration settings declaration = .error (errorOf declaration) := by
  refine FactoryDefinition.ofDeclaration_eq_error_iff.2 ⟨?_, rfl⟩
  rw [DeclarationKind.isConstructible_eq, decide_eq_false h]

namespace RunState

/-- The pass of a class takes the next file name and adds a factory. -/
theorem pass_of_class (h : declaration.kind = .classLike) (state : RunState) :
    pass settings state declaration =
      { names := (state.names.allocate declaration.name).2.2
        output := { state.output with
          factories := state.output.factories ++
            [factoryUnder settings declaration (state.names.nextName declaration.name)]
          statistics := state.output.statistics.recordFactory (definitionOf settings declaration)
            (state.names.clash? declaration.name) } } := by
  unfold pass
  rw [resolveDeclaration_of_class h]
  rfl

/-- The pass of another declaration adds a failure. -/
theorem pass_of_other (h : declaration.kind ≠ .classLike) (state : RunState) :
    pass settings state declaration =
      { state with
        output := { state.output with
          failures := state.output.failures ++ [errorOf declaration]
          statistics := state.output.statistics.recordFailure } } := by
  unfold pass
  rw [resolveDeclaration_of_other h]

end RunState

end Pass

/-! ## All passes -/

/-- The factories of classes that get their file names one after the other. -/
def factoriesFrom (settings : GeneratorSettings) (names : FileNames) (classes : List Declaration) :
    List GeneratedFactory :=
  List.zipWith (fun declaration given => factoryUnder settings declaration given.1) classes
    (names.allocateAll (classes.map (·.name)))

/-- The clashes that the classes meet. -/
def clashesFrom (names : FileNames) (classes : List Declaration) : List NameClash :=
  (names.allocateAll (classes.map (·.name))).filterMap (·.2)

/-- The tiers that the defaults of the classes come from. -/
def sourcesOf (settings : GeneratorSettings) (classes : List Declaration) : List DefaultSource :=
  classes.flatMap fun declaration =>
    (definitionOf settings declaration).parameters.map (·.source)

/-- What is counted after passes over declarations. -/
def Statistics.afterPasses (statistics : Statistics) (settings : GeneratorSettings)
    (names : FileNames) (declarations : List Declaration) : Statistics where
  elementsSeen := statistics.elementsSeen + declarations.length
  factoriesGenerated := statistics.factoriesGenerated + (classesOf declarations).length
  fieldsResolved :=
    statistics.fieldsResolved + (sourcesOf settings (classesOf declarations)).length
  defaultsFrom := (sourcesOf settings (classesOf declarations)).foldl Statistics.countDefault
    statistics.defaultsFrom
  failures := statistics.failures + (othersOf declarations).length
  warnings := statistics.warnings ++ clashesFrom names (classesOf declarations)

theorem classesOf_cons_of_class {declaration : Declaration} (h : declaration.kind = .classLike)
    (rest : List Declaration) :
    classesOf (declaration :: rest) = declaration :: classesOf rest ∧
      othersOf (declaration :: rest) = othersOf rest := by
  simp [classesOf, othersOf, h]

theorem classesOf_cons_of_other {declaration : Declaration} (h : declaration.kind ≠ .classLike)
    (rest : List Declaration) :
    classesOf (declaration :: rest) = classesOf rest ∧
      othersOf (declaration :: rest) = declaration :: othersOf rest := by
  simp [classesOf, othersOf, h]

theorem factoriesFrom_cons (settings : GeneratorSettings) (names : FileNames)
    (declaration : Declaration) (classes : List Declaration) :
    factoriesFrom settings names (declaration :: classes) =
      factoryUnder settings declaration (names.nextName declaration.name) ::
        factoriesFrom settings (names.allocate declaration.name).2.2 classes := rfl

/-- What is read of a factory without its file name depends on the class alone. -/
theorem map_factoriesFrom {α : Type} {settings : GeneratorSettings} {read : GeneratedFactory → α}
    {value : Declaration → α}
    (h : ∀ declaration fileName, read (factoryUnder settings declaration fileName) =
      value declaration)
    (names : FileNames) (classes : List Declaration) :
    (factoriesFrom settings names classes).map read = classes.map value := by
  induction classes generalizing names with
  | nil => rfl
  | cons declaration classes ih => rw [factoriesFrom_cons, List.map_cons, List.map_cons, ih, h]

/-- The file names change no definition. -/
theorem definitions_factoriesFrom (settings : GeneratorSettings) (names : FileNames)
    (classes : List Declaration) :
    (factoriesFrom settings names classes).map (·.definition) =
      classes.map (definitionOf settings) :=
  map_factoriesFrom (fun _ _ => rfl) names classes

/-- The file names are those handed out for the names of the classes. -/
theorem fileNames_factoriesFrom (settings : GeneratorSettings) (names : FileNames)
    (classes : List Declaration) :
    (factoriesFrom settings names classes).map (·.fileName) =
      (names.allocateAll (classes.map (·.name))).map (·.1) := by
  induction classes generalizing names with
  | nil => rfl
  | cons declaration classes ih =>
    rw [factoriesFrom_cons, List.map_cons, ih]
    rfl

/-- Each class gets its factory under a file name that does not depend on the settings. -/
theorem exists_fileName_factoriesFrom (names : FileNames) {classes : List Declaration}
    {index : Nat} {declaration : Declaration} (h : classes[index]? = some declaration) :
    ∃ fileName, ∀ settings, (factoriesFrom settings names classes)[index]? =
      some (factoryUnder settings declaration fileName) := by
  induction classes generalizing names index with
  | nil => cases h
  | cons first classes ih =>
    cases index with
    | zero =>
      obtain rfl : first = declaration := by simpa using h
      refine ⟨names.nextName first.name, fun settings => ?_⟩
      rw [factoriesFrom_cons, List.getElem?_cons_zero]
    | succ index =>
      rw [List.getElem?_cons_succ] at h
      obtain ⟨fileName, hfactory⟩ := ih (names.allocate first.name).2.2 h
      refine ⟨fileName, fun settings => ?_⟩
      rw [factoriesFrom_cons, List.getElem?_cons_succ, hfactory]

theorem clashesFrom_cons (names : FileNames) (declaration : Declaration)
    (classes : List Declaration) :
    clashesFrom names (declaration :: classes) =
      (names.clash? declaration.name).toList ++
        clashesFrom (names.allocate declaration.name).2.2 classes := by
  unfold clashesFrom
  rw [List.map_cons, FileNames.allocateAll_cons]
  cases names.clash? declaration.name with
  | none => rfl
  | some clash => rfl

namespace Statistics

variable (statistics : Statistics) (settings : GeneratorSettings) (names : FileNames)

/-- A class is counted with its factory. -/
theorem afterPasses_cons_of_class {declaration : Declaration} (h : declaration.kind = .classLike)
    (rest : List Declaration) :
    statistics.afterPasses settings names (declaration :: rest) =
      (statistics.recordFactory (definitionOf settings declaration)
        (names.clash? declaration.name)).afterPasses settings
          (names.allocate declaration.name).2.2 rest := by
  obtain ⟨hclasses, hothers⟩ := classesOf_cons_of_class h rest
  simp only [afterPasses, recordFactory, hclasses, hothers, clashesFrom_cons, sourcesOf,
    List.flatMap_cons, List.foldl_append, List.length_append, List.length_map, List.length_cons,
    List.append_assoc, mk.injEq, and_true]
  omega

/-- Another declaration is counted as a failure. -/
theorem afterPasses_cons_of_other {declaration : Declaration} (h : declaration.kind ≠ .classLike)
    (rest : List Declaration) :
    statistics.afterPasses settings names (declaration :: rest) =
      statistics.recordFailure.afterPasses settings names rest := by
  obtain ⟨hclasses, hothers⟩ := classesOf_cons_of_other h rest
  simp only [afterPasses, recordFailure, hclasses, hothers, List.length_cons, mk.injEq, true_and,
    and_true]
  omega

end Statistics

/-- What passes over declarations make of a run. -/
theorem RunState.foldl_pass (settings : GeneratorSettings) (state : RunState)
    (declarations : List Declaration) :
    declarations.foldl (RunState.pass settings) state =
      { names := state.names.namesAfter ((classesOf declarations).map (·.name))
        output := { state.output with
          factories := state.output.factories ++
            factoriesFrom settings state.names (classesOf declarations)
          failures := state.output.failures ++ (othersOf declarations).map errorOf
          statistics :=
            state.output.statistics.afterPasses settings state.names declarations } } := by
  -- The state is general: a class hands the names on with one more taken, another declaration hands
  -- them on as they are.
  induction declarations generalizing state with
  | nil =>
    simp [classesOf, othersOf, factoriesFrom, clashesFrom, sourcesOf, Statistics.afterPasses]
  | cons declaration rest ih =>
    rw [List.foldl_cons, ih]
    by_cases h : declaration.kind = .classLike
    · obtain ⟨hclasses, hothers⟩ := classesOf_cons_of_class h rest
      rw [RunState.pass_of_class h, hclasses, hothers, Statistics.afterPasses_cons_of_class _ _ _ h,
        factoriesFrom_cons, List.map_cons, FileNames.namesAfter_cons]
      simp only [List.append_assoc, List.singleton_append]
    · obtain ⟨hclasses, hothers⟩ := classesOf_cons_of_other h rest
      rw [RunState.pass_of_other h, hclasses, hothers,
        Statistics.afterPasses_cons_of_other _ _ _ h, List.map_cons]
      simp only [List.append_assoc, List.singleton_append]

/-! ## The output -/

section Output

variable (settings : GeneratorSettings) (document : Document) (sourcePath : String)

/-- The banner of a run depends on no declaration. -/
theorem generate_header :
    (generate settings document sourcePath).header =
      if settings.header then some (fileHeader sourcePath document.library) else none := rfl

/-- The factories of a run are those of the classes, in document order. -/
theorem generate_factories :
    (generate settings document sourcePath).factories =
      factoriesFrom settings { suffix := settings.fileSuffix }
        (classesOf document.declarations) := by
  simp only [generate, RunState.foldl_pass, List.nil_append]

/-- There is a factory for each class. -/
theorem length_generate_factories :
    (generate settings document sourcePath).factories.length =
      (classesOf document.declarations).length := by
  rw [generate_factories, ← List.length_map (·.definition), definitions_factoriesFrom,
    List.length_map]

/-- The file name of the factory of a class depends on no setting but the suffix. -/
theorem exists_fileName_generate (suffix : String) {document : Document} {index : Nat}
    {declaration : Declaration} (h : (classesOf document.declarations)[index]? = some declaration) :
    ∃ fileName, ∀ settings sourcePath, settings.fileSuffix = suffix →
      (generate settings document sourcePath).factories[index]? =
        some (factoryUnder settings declaration fileName) := by
  obtain ⟨fileName, hfactory⟩ := exists_fileName_factoriesFrom { suffix } h
  refine ⟨fileName, ?_⟩
  intro settings sourcePath hsuffix
  rw [generate_factories, hsuffix]
  exact hfactory settings

/-- No two factories of a run have the same file name. -/
theorem generate_fileNames_nodup :
    ((generate settings document sourcePath).factories.map (·.fileName)).Nodup := by
  rw [generate_factories, fileNames_factoriesFrom]
  exact (FileNames.allocateAll_fresh_nodup _ _).2

/-- The failures of a run are the other declarations, in document order. -/
theorem generate_failures :
    (generate settings document sourcePath).failures =
      (othersOf document.declarations).map errorOf := by
  simp only [generate, RunState.foldl_pass, List.nil_append]

theorem generate_statistics :
    (generate settings document sourcePath).statistics =
      Statistics.afterPasses {} settings { suffix := settings.fileSuffix }
        document.declarations := by
  simp only [generate, RunState.foldl_pass]

end Output

/-! ## Failures stay where they are -/

theorem classesOf_classesOf (declarations : List Declaration) :
    classesOf (classesOf declarations) = classesOf declarations := by
  simp [classesOf]

theorem othersOf_classesOf (declarations : List Declaration) :
    othersOf (classesOf declarations) = [] := by
  simp [classesOf, othersOf]

/-- Without the other declarations, only what is counted of them is missing. -/
theorem Statistics.afterPasses_classesOf (statistics : Statistics) (settings : GeneratorSettings)
    (names : FileNames) (declarations : List Declaration) :
    statistics.afterPasses settings names (classesOf declarations) =
      { statistics.afterPasses settings names declarations with
        elementsSeen := statistics.elementsSeen + (classesOf declarations).length
        failures := statistics.failures } := by
  simp only [Statistics.afterPasses, classesOf_classesOf, othersOf_classesOf, List.length_nil,
    Nat.add_zero]

theorem classesOf_append (declarations others : List Declaration) :
    classesOf (declarations ++ others) = classesOf declarations ++ classesOf others :=
  List.filter_append ..

theorem othersOf_append (declarations others : List Declaration) :
    othersOf (declarations ++ others) = othersOf declarations ++ othersOf others :=
  List.filter_append ..

/-- Further classes get their factories after those that are there. -/
theorem factoriesFrom_append (settings : GeneratorSettings) (names : FileNames)
    (classes others : List Declaration) :
    factoriesFrom settings names (classes ++ others) =
      factoriesFrom settings names classes ++
        factoriesFrom settings (names.namesAfter (classes.map (·.name))) others := by
  induction classes generalizing names with
  | nil => rfl
  | cons declaration classes ih =>
    rw [List.cons_append, factoriesFrom_cons, ih, factoriesFrom_cons, List.cons_append]
    rfl

theorem clashesFrom_append (names : FileNames) (classes others : List Declaration) :
    clashesFrom names (classes ++ others) =
      clashesFrom names classes ++
        clashesFrom (names.namesAfter (classes.map (·.name))) others := by
  unfold clashesFrom
  rw [List.map_append, FileNames.allocateAll_append, List.filterMap_append]

/-- A declaration that is no class makes one failure and touches nothing else. Without such
declarations the run gives the same header, factories, warnings, texts and counts of what was
generated, and no failure; its failures are those declarations, in document order. What stands
behind a declaration does not change the factories, file names, warnings and failures made up to
it. -/
theorem generate_failures_confined (settings : GeneratorSettings) (document : Document)
    (sourcePath : String) :
    let full := generate settings document sourcePath
    let clean := generate settings
      { document with
        declarations := document.declarations.filter fun declaration =>
          declaration.kind = .classLike } sourcePath
    (clean.header = full.header ∧ clean.factories = full.factories ∧
      clean.statistics.warnings = full.statistics.warnings ∧
      clean.combined = full.combined ∧ clean.perClass = full.perClass ∧
      clean.statistics.fieldsResolved = full.statistics.fieldsResolved ∧
      clean.statistics.factoriesGenerated = full.statistics.factoriesGenerated ∧
      clean.statistics.defaultsBySource = full.statistics.defaultsBySource) ∧
    (clean.failures = [] ∧ clean.statistics.failures = 0) ∧
    full.failures =
      (document.declarations.filter fun declaration => declaration.kind ≠ .classLike).map
        (fun declaration => .invalidTarget declaration.name declaration.kind) ∧
    ∀ others : List Declaration,
      let longer := generate settings
        { document with declarations := document.declarations ++ others } sourcePath
      full.factories <+: longer.factories ∧
      full.factories.map (·.fileName) <+: longer.factories.map (·.fileName) ∧
      full.statistics.warnings <+: longer.statistics.warnings ∧
      full.failures <+: longer.failures := by
  intro full clean
  have hheader : clean.header = full.header := rfl
  have hfactories : clean.factories = full.factories := by
    rw [generate_factories, generate_factories]
    exact congrArg _ (classesOf_classesOf document.declarations)
  have hunder (text : String) : clean.underHeader text = full.underHeader text := by
    rw [GenerationOutput.underHeader, GenerationOutput.underHeader, hheader]
  have hstatistics : clean.statistics =
      { full.statistics with
        elementsSeen := 0 + (classesOf document.declarations).length
        failures := 0 } := by
    rw [generate_statistics, generate_statistics]
    exact Statistics.afterPasses_classesOf {} settings _ document.declarations
  refine ⟨⟨hheader, hfactories, ?_, ?_, ?_, ?_, ?_, ?_⟩, ⟨?_, ?_⟩, generate_failures .., ?_⟩
  · rw [hstatistics]
  · rw [GenerationOutput.combined, GenerationOutput.combined, hfactories, hunder]
  · simp only [GenerationOutput.perClass, hfactories, hunder]
  · rw [hstatistics]
  · rw [hstatistics]
  · rw [hstatistics]
    rfl
  · rw [generate_failures]
    exact congrArg (List.map errorOf) (othersOf_classesOf document.declarations)
  · rw [hstatistics]
  · intro others longer
    -- What is appended is met in the state that the document left.
    have hlonger : longer.factories = full.factories ++ factoriesFrom settings
        (FileNames.namesAfter { suffix := settings.fileSuffix }
          ((classesOf document.declarations).map (·.name))) (classesOf others) := by
      rw [generate_factories, generate_factories, ← factoriesFrom_append, ← classesOf_append]
    refine ⟨⟨_, hlonger.symm⟩, ?_, ?_, ?_⟩
    · rw [hlonger, List.map_append]
      exact List.prefix_append _ _
    · rw [generate_statistics, generate_statistics]
      simp only [Statistics.afterPasses, classesOf_append, clashesFrom_append, List.nil_append]
      exact List.prefix_append _ _
    · rw [generate_failures, generate_failures, othersOf_append, List.map_append]
      exact List.prefix_append _ _

end ModelFactory
