import Mathlib.Data.List.Nodup
import Mathlib.Data.List.Perm.Basic
import ModelFactory.Proofs.Generation.Accounting

/-!
# Runs over reordered declarations

Which file name a class gets depends on all classes before it, so in general the order of the
declarations matters. It does not where the names of the classes differ in snake case. Then only
natural names are ever taken (`FileNames.allocateAll_of_distinct`), and each class gets the same
factory wherever it stands (`factoriesFrom_of_distinct`). That is so exactly if the run has nothing
to warn of (`clashesFrom_eq_nil_iff`). What a run counts never depends on the order, but for the
warnings (`Statistics.afterPasses_perm`).

`generate_reordered` puts this together for whole runs.
-/

set_option autoImplicit false

namespace ModelFactory

/-! ## Natural names only -/

namespace FileNames

/-- Models whose names differ in snake case get their natural file names, and none meets a clash. -/
theorem allocateAll_of_distinct {suffix : String} {models : List String}
    (h : (models.map Text.snakeCase).Nodup) :
    allocateAll { suffix } models =
      models.map fun model => (Text.snakeCase model ++ suffix, none) := by
  -- From the right: as long as only natural names are taken, the next natural name is free.
  induction models using List.reverseRecOn with
  | nil => rfl
  | append_singleton models model ih =>
    rw [List.map_append, List.nodup_append] at h
    obtain ⟨hfront, -, hlast⟩ := h
    have hbefore := ih hfront
    have hfree : (namesAfter { suffix } models).isTaken (Text.snakeCase model ++ suffix) =
        false := by
      rw [← Bool.not_eq_true, isTaken_namesAfter, hbefore, List.map_map]
      rintro (hempty | htaken)
      · cases hempty.symm.trans Std.ExtTreeMap.contains_empty
      · obtain ⟨other, hother, hname⟩ := List.mem_map.1 htaken
        rw [Function.comp_apply, String.append_left_inj] at hname
        exact hlast _ (List.mem_map_of_mem hother) _ (by simp) hname
    have hsuffix : (namesAfter { suffix } models).suffix = suffix := suffix_namesAfter _ _
    have hnatural : (namesAfter { suffix } models).nextName model =
        Text.snakeCase model ++ suffix := by
      have hiff := nextName_eq_natural_iff (namesAfter { suffix } models) model
      rw [hsuffix] at hiff
      exact hiff.2 hfree
    have hnone : (namesAfter { suffix } models).clash? model = none := by
      rw [clash?_eq_none_iff, hsuffix]
      exact hnatural
    rw [allocateAll_append, hbefore, List.map_append, allocateAll_cons, hnatural, hnone]
    rfl

/-- Models that meet no clash get their natural file names. -/
theorem names_of_no_clash {names : FileNames} {models : List String}
    (h : ∀ given ∈ names.allocateAll models, given.2 = none) :
    (names.allocateAll models).map (·.1) =
      models.map fun model => Text.snakeCase model ++ names.suffix := by
  induction models generalizing names with
  | nil => rfl
  | cons model models ih =>
    rw [allocateAll_cons] at h ⊢
    have hfirst : names.clash? model = none := h _ List.mem_cons_self
    have hrest := ih fun given hgiven => h given (List.mem_cons_of_mem _ hgiven)
    rw [List.map_cons, List.map_cons, hrest, (clash?_eq_none_iff names model).1 hfirst]
    rfl

end FileNames

/-- Classes meet no clash exactly if their names differ in snake case. -/
theorem clashesFrom_eq_nil_iff {suffix : String} {classes : List Declaration} :
    clashesFrom { suffix } classes = [] ↔
      (classes.map fun declaration => Text.snakeCase declaration.name).Nodup := by
  have hstems : classes.map (fun declaration => Text.snakeCase declaration.name) =
      (classes.map (·.name)).map Text.snakeCase := by
    rw [List.map_map]
    rfl
  rw [hstems, clashesFrom, List.filterMap_eq_nil_iff]
  constructor
  · intro hnone
    -- All names handed out are natural then, and they are pairwise distinct.
    have hnames := (FileNames.allocateAll_fresh_nodup { suffix } (classes.map (·.name))).2
    rw [FileNames.names_of_no_clash hnone] at hnames
    have hsplit : (fun model => Text.snakeCase model ++ suffix) =
        (fun stem => stem ++ suffix) ∘ Text.snakeCase := rfl
    rw [hsplit, ← List.map_map] at hnames
    exact hnames.of_map
  · intro hdistinct given hgiven
    rw [FileNames.allocateAll_of_distinct hdistinct] at hgiven
    obtain ⟨model, -, rfl⟩ := List.mem_map.1 hgiven
    rfl

/-- Classes whose names differ in snake case get their factories each by itself. -/
theorem factoriesFrom_of_distinct {settings : GeneratorSettings} {suffix : String}
    {classes : List Declaration}
    (h : (classes.map fun declaration => Text.snakeCase declaration.name).Nodup) :
    factoriesFrom settings { suffix } classes = classes.map fun declaration =>
      factoryUnder settings declaration (Text.snakeCase declaration.name ++ suffix) := by
  have hstems : ((classes.map (·.name)).map Text.snakeCase).Nodup := by
    rw [List.map_map]
    exact h
  rw [factoriesFrom, FileNames.allocateAll_of_distinct hstems, List.map_map, List.zipWith_map_right,
    List.zipWith_self]
  rfl

/-! ## What does not depend on the order -/

section Reordered

variable {declarations others : List Declaration}

theorem classesOf_perm (h : others.Perm declarations) :
    (classesOf others).Perm (classesOf declarations) := h.filter _

theorem sourcesOf_perm (settings : GeneratorSettings) (h : others.Perm declarations) :
    (sourcesOf settings others).Perm (sourcesOf settings declarations) := h.flatMap_right _

/-- Reordered declarations are counted alike if they meet the same clashes. -/
theorem Statistics.afterPasses_perm (statistics : Statistics) (settings : GeneratorSettings)
    (names : FileNames) (h : others.Perm declarations)
    (hclashes : clashesFrom names (classesOf others) = clashesFrom names (classesOf declarations)) :
    statistics.afterPasses settings names others =
      statistics.afterPasses settings names declarations := by
  have hclasses := classesOf_perm h
  have hsources := sourcesOf_perm settings hclasses
  have hothers : (othersOf others).Perm (othersOf declarations) := h.filter _
  -- Each tier is counted as often as it gives a default, whatever the order.
  have hcounts : (sourcesOf settings (classesOf others)).foldl countDefault
        statistics.defaultsFrom =
      (sourcesOf settings (classesOf declarations)).foldl countDefault
        statistics.defaultsFrom := by
    funext source
    rw [foldl_countDefault, foldl_countDefault, hsources.count_eq]
  simp only [afterPasses, h.length_eq, hclasses.length_eq, hsources.length_eq, hothers.length_eq,
    hcounts, hclashes]

end Reordered

/-- A run warns of nothing exactly if the names of the classes differ in snake case. Then the order
of the declarations does not matter: the same declarations in any other order give the same
factories under the same file names with the same texts, the same counts and again no warning, and
the text of all factories holds the same fragments in the order of their classes. -/
theorem generate_reordered (settings : GeneratorSettings) (document : Document)
    (sourcePath : String) :
    let output := generate settings document sourcePath
    let classes (declarations : List Declaration) :=
      declarations.filter fun declaration => declaration.kind = .classLike
    (output.statistics.warnings = [] ↔
      ((classes document.declarations).map fun declaration =>
        Text.snakeCase declaration.name).Nodup) ∧
    (output.statistics.warnings = [] →
      ∀ declarations : List Declaration, declarations.Perm document.declarations →
        let other := generate settings { document with declarations } sourcePath
        let fragment (declaration : Declaration) := (definitionOf settings declaration).code
        other.factories.Perm output.factories ∧ other.perClass.Perm output.perClass ∧
        other.statistics.warnings = [] ∧ other.statistics = output.statistics ∧
        output.combined = output.underHeader
          (Text.joined "\n" ((classes document.declarations).map fragment)) ∧
        other.combined = output.underHeader
          (Text.joined "\n" ((classes declarations).map fragment))) := by
  intro output classes
  have hwarnings (document : Document) :
      (generate settings document sourcePath).statistics.warnings =
        clashesFrom { suffix := settings.fileSuffix } (classesOf document.declarations) := by
    rw [generate_statistics]
    rfl
  have hiff : output.statistics.warnings = [] ↔
      ((classesOf document.declarations).map fun declaration =>
        Text.snakeCase declaration.name).Nodup := by
    rw [hwarnings, clashesFrom_eq_nil_iff]
  refine ⟨hiff, ?_⟩
  intro hnone declarations hperm other fragment
  have hdistinct := hiff.1 hnone
  have hclasses := classesOf_perm hperm
  have hdistinct' : ((classesOf declarations).map fun declaration =>
      Text.snakeCase declaration.name).Nodup := (hclasses.map _).nodup_iff.2 hdistinct
  have hnone' : other.statistics.warnings = [] := by
    rw [hwarnings, clashesFrom_eq_nil_iff]
    exact hdistinct'
  have hunder (text : String) : other.underHeader text = output.underHeader text := rfl
  -- Either run gives each class its factory by itself.
  have hfactories := (generate_factories settings document sourcePath).trans
    (factoriesFrom_of_distinct hdistinct)
  have hfactories' := (generate_factories settings { document with declarations } sourcePath).trans
    (factoriesFrom_of_distinct hdistinct')
  have hsame : other.factories.Perm output.factories := by
    rw [hfactories, hfactories']
    exact hclasses.map _
  have hcombined : output.combined = output.underHeader
      (Text.joined "\n" ((classesOf document.declarations).map fragment)) := by
    rw [GenerationOutput.combined, hfactories, List.map_map]
    rfl
  have hcombined' : other.combined = output.underHeader
      (Text.joined "\n" ((classesOf declarations).map fragment)) := by
    rw [GenerationOutput.combined, hfactories', List.map_map, hunder]
    rfl
  refine ⟨hsame, ?_, hnone', ?_, hcombined, hcombined'⟩
  · simp only [GenerationOutput.perClass, hunder]
    exact hsame.map _
  · rw [hwarnings] at hnone hnone'
    rw [generate_statistics, generate_statistics]
    exact Statistics.afterPasses_perm {} settings _ hperm (hnone'.trans hnone.symm)

/-- Two classes with a mixin between them. -/
def letters : Document :=
  { declarations := [{ name := "Alpha" }, { name := "Both", kind := .mixin }, { name := "Beta" }] }

/-- Read from the end, the two classes of `letters` get the same files, and their text is turned
around. -/
theorem letters_reordered :
    let settings : GeneratorSettings := { header := false }
    let output := generate settings letters "m.json"
    let other := generate settings { letters with declarations := letters.declarations.reverse }
      "m.json"
    output.statistics.warnings = [] ∧
      letters.declarations.reverse.Perm letters.declarations ∧
      output.perClass.map (·.1) = ["alpha.factory.dart", "beta.factory.dart"] ∧
      other.perClass.Perm output.perClass ∧ other.statistics = output.statistics ∧
      other.combined = factoryCode "Beta" [] {} ++ "\n" ++ factoryCode "Alpha" [] {} := by
  intro settings output other
  have hnone : output.statistics.warnings = [] := by decide +kernel
  have hperm : letters.declarations.reverse.Perm letters.declarations :=
    List.reverse_perm letters.declarations
  have hnames : output.perClass.map (·.1) = ["alpha.factory.dart", "beta.factory.dart"] := by
    decide +kernel
  obtain ⟨-, hfiles, -, hcounts, -, hcombined⟩ :=
    (generate_reordered settings letters "m.json").2 hnone _ hperm
  exact ⟨hnone, hperm, hnames, hfiles, hcounts, hcombined⟩

end ModelFactory
