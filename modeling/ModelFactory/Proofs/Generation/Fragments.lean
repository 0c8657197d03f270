import ModelFactory.Proofs.Default.Dates
import ModelFactory.Proofs.Factory.Lines
import ModelFactory.Proofs.Factory.Texts
import ModelFactory.Proofs.Generation.Run
import ModelFactory.Proofs.Overrides

/-!
# Fragments of the output

The text of all factories joins their fragments with a newline between neighbours. Where neither the
declarations nor the type defaults hold a newline, no definition holds one (`definitionOf_oneLine`),
so no fragment has a blank line of its own, and the blank lines of the whole are just the ones
between neighbours. So the fragments are the blocks of the text below the banner, and one by one the
texts of the files below theirs (`combined_holds_fragments`).
-/

set_option autoImplicit false

namespace ModelFactory

open Command (lined)

/-! ## Nothing holds a newline -/

/-- No text of the table holds a newline. -/
def OverrideTable.OneLine (table : OverrideTable) : Prop :=
  ∀ (key expression : String), table[key]? = some expression → Text.OneLine expression

theorem OverrideTable.oneLine_ofEntries {entries : List (String × String)}
    (h : ∀ entry ∈ entries, Text.OneLine entry.2) : (ofEntries entries).OneLine :=
  each_ofEntries h

/-- No name in the type holds a newline. -/
def FieldType.OneLine : FieldType → Prop
  | primitive _ => True
  | enumeration name constants =>
    Text.OneLine name ∧ ∀ constant ∈ constants, Text.OneLine constant
  | list element => element.OneLine
  | model name => Text.OneLine name

/-- Nothing that a factory takes from the declaration holds a newline. -/
structure Declaration.OneLine (declaration : Declaration) : Prop where
  name : Text.OneLine declaration.name
  fields : ∀ field ∈ declaration.fields, Text.OneLine field.name ∧ field.type.OneLine
  fieldDefaults : declaration.fieldDefaults.OneLine
  classDefaults : declaration.classDefaults.OneLine

theorem FieldType.OneLine.each {type : FieldType} (h : type.OneLine) : type.Each Text.OneLine := by
  induction type with
  | primitive kind => exact trivial
  | enumeration name constants => exact h
  | list element ih => exact ih h
  | model name => exact h

/-- A factory puts no newline into a text. -/
theorem keptInFactory_oneLine : KeptInFactory Text.OneLine := keptInFactory_notMem (by decide)

/-- The definition of a class holds a newline only if the class or the type defaults do. -/
theorem definitionOf_oneLine {settings : GeneratorSettings} {declaration : Declaration}
    (h : declaration.OneLine) (htable : settings.typeDefaults.OneLine) :
    (definitionOf settings declaration).OneLine := by
  have hfields : ∀ field ∈ declaration.fields, field.Each Text.OneLine := by
    intro field hfield
    obtain ⟨hname, htype⟩ := h.fields field hfield
    exact ⟨hname, htype.each⟩
  obtain ⟨hname, hmodel, hparameters⟩ := FactoryDefinition.each_ofFields keptInFactory_oneLine
    ⟨declaration.overrides settings.typeDefaults, settings.sentinelDate⟩ h.name hfields
    ⟨h.fieldDefaults, h.classDefaults, htable⟩
  refine ⟨hname, hmodel, fun parameter hparameter => ?_⟩
  obtain ⟨hname, htype, hfallback⟩ := hparameters parameter hparameter
  exact ⟨hname, htype, hfallback⟩

/-! ## The texts of a run -/

/-- The fragments of a run are those of the classes. -/
theorem codes_generate (settings : GeneratorSettings) (document : Document) (sourcePath : String) :
    (generate settings document sourcePath).factories.map (·.code) =
      (classesOf document.declarations).map fun declaration =>
        (definitionOf settings declaration).code := by
  rw [generate_factories]
  exact map_factoriesFrom (fun _ _ => rfl) _ _

/-- Fragments without newlines of their own are the blocks of what they are joined to. -/
theorem blocks_joined_codes {definitions : List FactoryDefinition}
    (h : ∀ definition ∈ definitions, definition.OneLine) :
    Text.blocks (Text.joined "\n" (definitions.map (·.code))) = definitions.map (·.code) := by
  have hcodes : definitions.map (·.code) = (definitions.map (·.lines)).map lined := by
    rw [List.map_map]
    exact List.map_congr_left fun definition _ => definition.code_eq_lined
  rw [hcodes]
  refine Text.blocks_joined ?_ ?_
  · intro lines hlines
    obtain ⟨definition, -, rfl⟩ := List.mem_map.1 hlines
    exact definition.lines_ne_nil
  · intro lines hlines line hline
    obtain ⟨definition, hdefinition, rfl⟩ := List.mem_map.1 hlines
    exact ⟨(h definition hdefinition).lines line hline,
      FactoryDefinition.ne_blank_of_mem_lines line hline⟩

/-- The text of all factories and the texts of the files carry the same fragments, one for each
class in document order. Each is below the banner with the newline behind it, if there is a banner.
In the texts of the files nothing else is there. In the text of all, where neither a class nor the
type defaults hold a newline, taking what is below the banner apart at its blank lines gives just the
fragments. Without factories there is nothing below the banner. -/
theorem combined_holds_fragments (settings : GeneratorSettings) (document : Document)
    (sourcePath : String) :
    let output := generate settings document sourcePath
    let fragments := output.factories.map (·.code)
    let banner := match output.header with
      | some header => header ++ "\n"
      | none => ""
    fragments =
      (document.declarations.filter fun declaration => declaration.kind = .classLike).map
        (fun declaration => (definitionOf settings declaration).code) ∧
    (settings.typeDefaults.OneLine →
      (∀ declaration ∈ document.declarations, declaration.kind = .classLike →
        declaration.OneLine) →
      ∃ body, output.combined = banner ++ body ∧ Text.blocks body = fragments) ∧
    output.perClass.map (·.2) = fragments.map (fun fragment => banner ++ fragment) ∧
    (output.factories = [] → output.combined = banner) := by
  intro output fragments banner
  have hunder (text : String) : output.underHeader text = banner ++ text := by
    simp only [banner, GenerationOutput.underHeader]
    cases output.header with
    | none => simp
    | some header => rfl
  have hfragments : fragments = ((classesOf document.declarations).map
      (definitionOf settings)).map (·.code) := by
    rw [List.map_map]
    exact codes_generate settings document sourcePath
  refine ⟨codes_generate settings document sourcePath, ?_, ?_, ?_⟩
  · intro htable hclasses
    refine ⟨Text.joined "\n" fragments, hunder _, ?_⟩
    rw [hfragments]
    refine blocks_joined_codes fun definition hdefinition => ?_
    -- Only classes have fragments, so the other declarations may hold newlines.
    obtain ⟨declaration, hdeclaration, rfl⟩ := List.mem_map.1 hdefinition
    obtain ⟨hmem, hkind⟩ := List.mem_filter.1 hdeclaration
    exact definitionOf_oneLine (hclasses declaration hmem (by simpa using hkind)) htable
  · simp only [GenerationOutput.perClass, hunder, fragments, List.map_map]
    rfl
  · intro hnone
    rw [GenerationOutput.combined, hunder, hnone]
    simp

/-- Two classes of a library, and between them a mixin with a newline in its name. -/
def userAndTag : Document where
  library := some "models"
  declarations := [
    { name := "User"
      fields := [⟨"id", .primitive .integer, false⟩, ⟨"roles", .list (.model "Role"), false⟩]
      fieldDefaults := .ofEntries [("id", "next() ?? 0")] },
    { name := "Bo\nth", kind := .mixin },
    { name := "Tag" }]

theorem userAndTag_holds_fragments :
    let output := generate {} userAndTag "m.json"
    (∀ declaration ∈ userAndTag.declarations, declaration.kind = .classLike →
        declaration.OneLine) ∧
      output.factories.length = 2 ∧
      ∃ body, output.combined = fileHeader "m.json" (some "models") ++ "\n" ++ body ∧
        Text.blocks body = output.factories.map (·.code) := by
  intro output
  have hempty : (∅ : OverrideTable).OneLine := by
    intro key expression hfind
    cases Std.ExtTreeMap.getElem?_empty.symm.trans hfind
  have hrole : Text.OneLine "Role" := by decide
  have hclasses : ∀ declaration ∈ userAndTag.declarations, declaration.kind = .classLike →
      declaration.OneLine := by
    intro declaration hdeclaration hkind
    simp only [userAndTag, List.mem_cons, List.not_mem_nil, or_false] at hdeclaration
    rcases hdeclaration with rfl | rfl | rfl
    · refine ⟨by decide, ?_, OverrideTable.oneLine_ofEntries (by decide), hempty⟩
      intro field hfield
      simp only [List.mem_cons, List.not_mem_nil, or_false] at hfield
      rcases hfield with rfl | rfl
      · exact ⟨by decide, trivial⟩
      · exact ⟨by decide, hrole⟩
    · cases hkind
    · exact ⟨by decide, by simp, hempty, hempty⟩
  obtain ⟨-, hblocks, -, -⟩ := combined_holds_fragments {} userAndTag "m.json"
  exact ⟨hclasses, by decide +kernel, hblocks hempty hclasses⟩

end ModelFactory
