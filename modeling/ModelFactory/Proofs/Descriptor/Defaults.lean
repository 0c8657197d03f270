import Mathlib.Data.List.Forall2
import ModelFactory.Proofs.Default.Priority
import ModelFactory.Proofs.Descriptor.Given
import ModelFactory.Proofs.Generation.Run
import ModelFactory.Proofs.Overrides

/-!
# From a descriptor to the defaults

A descriptor in text is read as described data (`Descriptor.dataOf`), which are what the text gives
(`Descriptor.Gives`), and then turned into a document of the model. On the way the fields that no
factory takes are dropped, and what is given at fields and classes is put into two tables by field
name. `ClassData.fieldDefault_resolve` says that the resolver over those tables finds for every field
that is kept what the described data say of it, as long as the names of the fields that are kept
differ.

`Descriptor.generate_gives_described_defaults` follows a text through a whole run.
-/

set_option autoImplicit false

namespace ModelFactory.Descriptor

/-! ## The fields of one class -/

namespace ClassData

variable {data : ClassData}

/-- The table of the fields answers with what is given at the field of that name. -/
theorem getElem?_fieldDefaults (hnames : (data.instanceFields.map (·.name)).Nodup)
    {field : FieldData} (hfield : field ∈ data.instanceFields) :
    data.declaration.fieldDefaults[field.name]? = field.default :=
  OverrideTable.getElem?_ofEntries_filterMap (·.name) (·.default) hnames hfield

theorem getElem?_classDefaults (data : ClassData) (name : String) :
    data.declaration.classDefaults[name]? = lastText? data.defaults name :=
  getElem?_overridesOf data.defaults name

/-- The resolver of a described class finds what the described data say. -/
theorem fieldDefault_resolve (settings : GeneratorSettings)
    (hnames : (data.instanceFields.map (·.name)).Nodup) {field : FieldData}
    (hfield : field ∈ data.instanceFields) {expression : String} {source : DefaultSource} :
    FieldDefault settings.typeDefaults settings.sentinelDate field.default
        (lastText? data.defaults field.name) field.nullable field.type expression source ↔
      Resolver.resolve ⟨data.declaration.overrides settings.typeDefaults, settings.sentinelDate⟩
        field.field = ⟨expression, source⟩ := by
  rw [← Resolver.fieldDefault_iff, ← getElem?_fieldDefaults hnames hfield,
    ← getElem?_classDefaults]
  rfl

end ClassData

/-! ## Whole runs -/

/-- The parameter stands for a described field of a described class. -/
structure StandsFor (settings : GeneratorSettings) (data : ClassData) (field : FieldData)
    (parameter : FactoryParameter) : Prop where
  name : parameter.name = field.name
  type : parameter.type = field.type.rendered ++ "?"
  default : ∀ (expression : String) (source : DefaultSource),
    parameter.fallback = expression ∧ parameter.source = source ↔
      FieldDefault settings.typeDefaults settings.sentinelDate field.default
        (lastText? data.defaults field.name) field.nullable field.type expression source

/-- The parameters of the definition stand for the described fields that are neither static nor
synthetic and are public, one for each in their order. -/
def HasDescribedDefaults (settings : GeneratorSettings) (data : ClassData)
    (definition : FactoryDefinition) : Prop :=
  List.Forall₂ (StandsFor settings data)
    (data.fields.filter fun field => !field.isStatic && !field.synthetic && field.isPublic)
    definition.parameters

theorem ClassData.definitionOf_hasDescribedDefaults (settings : GeneratorSettings)
    {data : ClassData} (hnames : (data.instanceFields.map (·.name)).Nodup) :
    HasDescribedDefaults settings data (definitionOf settings data.declaration) := by
  have hparameters : (definitionOf settings data.declaration).parameters =
      data.instanceFields.map fun field =>
        FactoryParameter.ofField
          ⟨data.declaration.overrides settings.typeDefaults, settings.sentinelDate⟩ field.field :=
    List.map_map
  unfold HasDescribedDefaults
  rw [hparameters, List.forall₂_map_right_iff]
  refine List.forall₂_same.2 fun field hfield => ⟨rfl, rfl, ?_⟩
  intro expression source
  rw [ClassData.fieldDefault_resolve settings hnames hfield, FactoryParameter.ofField]
  constructor
  · rintro ⟨rfl, rfl⟩
    rfl
  · intro h
    rw [h]
    exact ⟨rfl, rfl⟩

/-- Every class that a text gives gets a factory, in document order, and where the names of its
fields that are kept are pairwise distinct every parameter has the default of the priority order. A
default counts at its field or at its class where the text gives a string there. -/
theorem generate_gives_described_defaults (settings : GeneratorSettings) (sourcePath : String)
    {format : Format} {text : String} {document : Document}
    (h : documentOf format text = .ok document) :
    ∃ data, dataOf format text = .ok data ∧ Gives format text data ∧
      List.Forall₂ (fun (data : ClassData) (definition : FactoryDefinition) =>
        definition.model = data.name ∧
          (((data.fields.filter fun field =>
            !field.isStatic && !field.synthetic && field.isPublic).map (·.name)).Nodup →
            HasDescribedDefaults settings data definition))
        (data.classes.filter fun data => data.kind = .classLike)
        ((generate settings document sourcePath).factories.map (·.definition)) := by
  rw [documentOf_eq, Results.map_eq_ok_iff] at h
  obtain ⟨data, hdata, rfl⟩ := h
  refine ⟨data, hdata, gives_of_dataOf hdata, ?_⟩
  have hclasses : classesOf data.document.declarations =
      (data.classes.filter fun data => data.kind = .classLike).map (·.declaration) := by
    unfold classesOf
    rw [DocumentData.document, List.filter_map]
    rfl
  rw [generate_factories, definitions_factoriesFrom, hclasses, List.map_map,
    List.forall₂_map_right_iff, List.forall₂_same]
  intro data _
  exact ⟨rfl, ClassData.definitionOf_hasDescribedDefaults settings⟩

/-! ## A class with defaults of every sort -/

/-- A mixin and a class with defaults at its fields and at itself, some of which are no strings. -/
def postText : String :=
  "\x7b\"classes\":[[\"Both\",\"mixin\"],[\"Post\",\"class\",\x7b\"b\":\"2\",\"c\":false\x7d,["
    ++ "[\"a\",\x7b\"named\":\"Tag\"\x7d,true,\"1\"],[\"b\",\x7b\"named\":\"Tag\"\x7d,true,5],"
    ++ "[\"c\",\x7b\"named\":\"Tag\"\x7d],[\"d\",\x7b\"named\":\"Tag\"\x7d,true,\"4\",true]]]]\x7d"

/-- The same in TOML. -/
def postToml : String :=
  "[[classes]]\nname='Both'\nkind='mixin'\n"
    ++ "[[classes]]\nname='Post'\ndefaults=\x7bb='2',c=false\x7d\n"
    ++ "fields=[['a',\x7bnamed='Tag'\x7d,true,'1'],['b',\x7bnamed='Tag'\x7d,true,5],"
    ++ "['c',\x7bnamed='Tag'\x7d],['d',\x7bnamed='Tag'\x7d,true,'4',true]]"

/-- The class in the texts. -/
def postClass : ClassData where
  name := "Post"
  defaults := [("b", some "2"), ("c", none)]
  fields := [
    { name := "a", type := .model "Tag", nullable := true, default := some "1" },
    { name := "b", type := .model "Tag", nullable := true },
    { name := "c", type := .model "Tag" },
    { name := "d", type := .model "Tag", nullable := true, default := some "4", isStatic := true }]

/-- What the texts describe. -/
def postData : DocumentData := ⟨none, [{ name := "Both", kind := .mixin }, postClass]⟩

/-- The text gives the class, and the one factory that is made has the defaults that the class
gives. -/
def PostResolved (format : Format) (text : String) : Prop :=
  documentOf format text = .ok postData.document ∧ Gives format text postData ∧
    ∃ definition,
      (generate {} postData.document "post").factories.map (·.definition) = [definition] ∧
      HasDescribedDefaults {} postClass definition ∧
      definition.parameters.map (fun parameter =>
          (parameter.name, parameter.fallback, parameter.source)) =
        [("a", "1", .fieldOverride), ("b", "2", .classOverride),
          ("c", "TagFactory.build()", .nestedFactory)]

/-- A string counts as a default, first at the field and then at the class; a number or a truth value
does not. -/
theorem postText_gives_described_defaults :
    PostResolved .json postText ∧ PostResolved .toml postToml := by
  have hresolved (format : Format) (text : String)
      (h : (dataOf format text).toOption = some postData) : PostResolved format text := by
    have hdata : dataOf format text = .ok postData := by
      cases hread : dataOf format text with
      | error fault => rw [hread] at h; cases h
      | ok data => rw [hread] at h; cases h; rfl
    have hdocument : documentOf format text = .ok postData.document := by
      rw [documentOf_eq, hdata]
      rfl
    obtain ⟨data, hsame, hgives, hclasses⟩ :=
      generate_gives_described_defaults {} "post" hdocument
    rw [hdata] at hsame
    cases hsame
    have hkept : postData.classes.filter (fun data => data.kind = .classLike) = [postClass] := by
      decide
    have hdefinitions : (generate {} postData.document "post").factories.map (·.definition) =
        [definitionOf {} postClass.declaration] := by
      decide +kernel
    rw [hkept, hdefinitions, List.forall₂_cons] at hclasses
    obtain ⟨⟨-, hdefaults⟩, -⟩ := hclasses
    exact ⟨hdocument, hgives, _, hdefinitions, hdefaults (by decide), by decide +kernel⟩
  exact ⟨hresolved .json postText (by decide +kernel), hresolved .toml postToml (by decide +kernel)⟩

end ModelFactory.Descriptor
