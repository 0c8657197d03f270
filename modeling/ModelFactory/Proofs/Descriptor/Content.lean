import Mathlib.Data.List.Nodup
import ModelFactory.Descriptor.Schema
import ModelFactory.Proofs.Overrides
import ModelFactory.Proofs.Record.Data

/-!
# The content of a descriptor

`DocumentContent` is what a descriptor says, whatever its format: which entries it has and what they
hold. `DocumentContent.data` are the data that a text with this content stands for, and
`DocumentContent.document` is the document of the model that it describes.

A `DescriptorFormat` is a format with readers for the single values of a descriptor. In any such
format the record of a descriptor is read as its content says (`DescriptorFormat.readDocument_eq`).
-/

set_option autoImplicit false

namespace ModelFactory.Descriptor

open Record (Data DataFormat Shape Slot presentEntries words_presentEntries)

/-! ## Content -/

/-- A word that stands for a primitive. -/
structure PrimitiveWord where
  word : String
  kind : Primitive
  spells : Primitive.ofSpelling? word = some kind

theorem PrimitiveWord.read (spelling : PrimitiveWord) :
    primitiveOfWord spelling.word = .ok spelling.kind := by
  rw [primitiveOfWord, spelling.spells]

/-- A type as a descriptor gives it. -/
inductive TypeContent where
  | primitive (spelling : PrimitiveWord)
  | enumeration (name : String) (constants : Option (List String))
  | list (element : TypeContent)
  | model (name : String)

namespace TypeContent

/-- The entries of an enumeration. -/
def enumerationEntries (name : String) (constants : Option (List String)) :
    List (String × Data) :=
  presentEntries [("name", some (.string name)),
    ("constants", constants.map fun constants => .array (constants.map .string))]

/-- An enumeration has the entries of its record only. -/
theorem mem_words_of_mem_enumerationEntries {Source Fault : Type} {name : String}
    {constants : Option (List String)} (readString : Source → Except Fault String)
    (readStrings : Source → Except Fault (List String)) :
    ∀ word ∈ (enumerationEntries name constants).map (·.1),
      word ∈ (enumerationShape readString readStrings).words :=
  fun _ hword => (words_presentEntries _).mem hword

/-- The data of a type: its tag with what follows it. -/
def data : TypeContent → Data
  | primitive spelling => .table [("primitive", .string spelling.word)]
  | enumeration name constants => .table [("enum", .table (enumerationEntries name constants))]
  | list element => .table [("list", element.data)]
  | model name => .table [("named", .string name)]

/-- The type of the model. -/
def type : TypeContent → FieldType
  | primitive spelling => .primitive spelling.kind
  | enumeration name constants => .enumeration name (constants.getD [])
  | list element => .list element.type
  | model name => .model name

end TypeContent

/-- A field as a descriptor gives it. Its default may be any data. -/
structure FieldContent where
  name : String
  type : TypeContent
  nullable : Option Bool := none
  default : Option Data := none
  isStatic : Option Bool := none
  synthetic : Option Bool := none
  isPublic : Option Bool := none

namespace FieldContent

/-- The entries of a field. -/
def entries (field : FieldContent) : List (String × Data) :=
  presentEntries [("name", some (.string field.name)), ("type", some field.type.data),
    ("nullable", field.nullable.map .boolean), ("default", field.default),
    ("static", field.isStatic.map .boolean), ("synthetic", field.synthetic.map .boolean),
    ("public", field.isPublic.map .boolean)]

/-- The field that is described. -/
def described (field : FieldContent) : FieldData where
  name := field.name
  type := field.type.type
  nullable := field.nullable.getD false
  default := field.default.bind (·.text?)
  isStatic := field.isStatic.getD false
  synthetic := field.synthetic.getD false
  isPublic := field.isPublic.getD true

end FieldContent

/-- A declaration as a descriptor gives it. The keys of its defaults are distinct. -/
structure ClassContent where
  name : String
  kind : Option String := none
  defaults : Option (List (String × Data)) := none
  fields : Option (List FieldContent) := none
  distinct : ∀ entries ∈ defaults, (entries.map (·.1)).Nodup

namespace ClassContent

/-- The entries of a declaration. -/
def entries (content : ClassContent) : List (String × Data) :=
  presentEntries [("name", some (.string content.name)), ("kind", content.kind.map .string),
    ("defaults", content.defaults.map .table),
    ("fields", content.fields.map fun fields => .array (fields.map fun field =>
      .table field.entries))]

/-- The declaration that is described. -/
def described (content : ClassContent) : ClassData where
  name := content.name
  kind := content.kind.elim .classLike .ofWord
  defaults := (content.defaults.getD []).map fun entry => (entry.1, entry.2.text?)
  fields := (content.fields.getD []).map (·.described)

/-- The declaration of the model. -/
def declaration (content : ClassContent) : Declaration := content.described.declaration

end ClassContent

/-- A document as a descriptor gives it. -/
structure DocumentContent where
  library : Option String := none
  classes : Option (List ClassContent) := none

namespace DocumentContent

/-- The data of a document. -/
def data (content : DocumentContent) : Data :=
  .table (presentEntries [("library", content.library.map .string),
    ("classes", content.classes.map fun classes => .array (classes.map fun content =>
      .table content.entries))])

/-- The document of the model. -/
def document (content : DocumentContent) : Document :=
  ⟨content.library, (content.classes.getD []).map (·.declaration)⟩

end DocumentContent

/-! ## Overrides in any order -/

/-- Entries with different keys are put into a table in any order. -/
theorem putOverride_comm (table : OverrideTable) {first second : String × Option String}
    (hne : first.1 ≠ second.1) :
    putOverride (putOverride table first) second =
      putOverride (putOverride table second) first := by
  obtain ⟨key, text⟩ := first
  obtain ⟨key', text'⟩ := second
  apply Std.ExtTreeMap.ext_getElem?
  intro asked
  cases text with
  | none =>
    cases text' with
    | none => grind [putOverride]
    | some expression => grind [putOverride]
  | some expression =>
    cases text' with
    | none => grind [putOverride]
    | some expression' => grind [putOverride]

/-- Overrides with different keys make the same table in any order. -/
theorem overridesOf_perm {entries others : List (String × Option String)}
    (h : entries.Perm others) (hkeys : (entries.map (·.1)).Nodup) :
    overridesOf entries = overridesOf others := by
  apply h.foldl_eq'
  intro first hfirst second hsecond table
  by_cases hsame : first = second
  · rw [hsame]
  · apply putOverride_comm
    intro hkey
    exact hsame (List.inj_on_of_nodup_map hkeys hfirst hsecond hkey)

/-- Of the defaults of a declaration only the table counts. -/
theorem ClassData.declaration_eq_of_overridesOf {data : ClassData}
    {defaults : List (String × Option String)}
    (h : overridesOf defaults = overridesOf data.defaults) :
    ClassData.declaration { data with defaults } = data.declaration := by
  unfold ClassData.declaration
  rw [h]
  rfl

/-! ## Records in a format -/

section Records

variable {Source Fault : Type}

/-- Items that can all be read are read as a list, one after the other. -/
theorem exists_readList_eq (format : DataFormat Source Fault) {Content Value : Type}
    {data : Content → Data} {contents : List Content} {source : Source}
    (h : format.Holds source (.array (contents.map data))) {read : Source → Except Fault Value}
    {R : Content → Value → Prop}
    (hread : ∀ content ∈ contents, ∀ source, format.Holds source (data content) →
      ∃ value, read source = .ok value ∧ R content value) :
    ∃ values, format.readList read source = .ok values ∧ List.Forall₂ R contents values := by
  obtain ⟨sources, hholds, hlist⟩ := format.readList_eq h
  rw [List.forall₂_map_right_iff] at hholds
  rw [hlist]
  clear hlist h
  induction hholds with
  | nil => exact ⟨[], rfl, .nil⟩
  | @cons source content sources contents hfirst hrest ih =>
    obtain ⟨value, hvalue, hR⟩ := hread content List.mem_cons_self source hfirst
    obtain ⟨values, hvalues, hRs⟩ := ih fun other hother =>
      hread other (List.mem_cons_of_mem _ hother)
    refine ⟨value :: values, ?_, .cons hR hRs⟩
    rw [Results.mapM_eq_ok_iff] at hvalues ⊢
    exact .cons hvalue hvalues

/-- Items that are read as a function says give the list of what it says. -/
theorem readList_eq_map (format : DataFormat Source Fault) {Content Value : Type}
    {data : Content → Data} {contents : List Content} {source : Source}
    (h : format.Holds source (.array (contents.map data))) {read : Source → Except Fault Value}
    {value : Content → Value}
    (hread : ∀ content ∈ contents, ∀ source, format.Holds source (data content) →
      read source = .ok (value content)) :
    format.readList read source = .ok (contents.map value) := by
  obtain ⟨values, hvalues, hsame⟩ := exists_readList_eq format h
    (R := fun content given => value content = given)
    fun content hcontent source hholds => ⟨_, hread content hcontent source hholds, rfl⟩
  have hmap : contents.map value = values := by
    rw [← List.forall₂_eq_eq_eq, List.forall₂_map_left_iff]
    exact hsame
  rw [hvalues, hmap]

/-! ### Slots -/

theorem enumerationShape_independent (readString : Source → Except Fault String)
    (readStrings : Source → Except Fault (List String)) :
    (enumerationShape readString readStrings).Independent where
  oneWord := by simp [enumerationShape, Slot.ofReader]
  distinct := by simp [enumerationShape, Shape.words, Slot.ofReader]
  commute := by
    simp only [enumerationShape, List.pairwise_cons, List.mem_cons, List.not_mem_nil,
      false_implies, implies_true, List.Pairwise.nil, or_false, forall_eq]
    and_intros
    all_goals
      first
      | trivial
      | exact Slot.commutes_ofReader fun _ _ _ => rfl

theorem fieldShape_independent (readers : ValueReaders Source Fault) :
    (fieldShape readers).Independent where
  oneWord := by simp [fieldShape, Slot.ofReader]
  distinct := by simp [fieldShape, Shape.words, Slot.ofReader]
  commute := by
    simp only [fieldShape, List.pairwise_cons, List.mem_cons, List.not_mem_nil,
      forall_eq_or_imp, false_implies, implies_true, List.Pairwise.nil, or_false, forall_eq]
    and_intros
    all_goals
      first
      | trivial
      | exact Slot.commutes_ofReader fun _ _ _ => rfl

theorem classShape_independent (readers : ValueReaders Source Fault)
    (readFields : Source → Except Fault (List FieldData)) :
    (classShape readers readFields).Independent where
  oneWord := by simp [classShape, Slot.ofReader]
  distinct := by simp [classShape, Shape.words, Slot.ofReader]
  commute := by
    simp only [classShape, List.pairwise_cons, List.mem_cons, List.not_mem_nil,
      forall_eq_or_imp, false_implies, implies_true, List.Pairwise.nil, or_false, forall_eq]
    and_intros
    all_goals
      first
      | trivial
      | exact Slot.commutes_ofReader fun _ _ _ => rfl

theorem documentShape_independent (readers : ValueReaders Source Fault)
    (readClasses : Source → Except Fault (List ClassData)) :
    (documentShape readers readClasses).Independent where
  oneWord := by simp [documentShape, Slot.ofReader]
  distinct := by simp [documentShape, Shape.words, Slot.ofReader]
  commute := by
    simp only [documentShape, List.pairwise_cons, List.mem_cons, List.not_mem_nil,
      false_implies, implies_true, List.Pairwise.nil, or_false, forall_eq]
    and_intros
    all_goals
      first
      | trivial
      | exact Slot.commutes_ofReader fun _ _ _ => rfl

end Records

/-! ## Formats of descriptors -/

/-- A format with readers for the single values of a descriptor, which read them as their content
says. -/
structure DescriptorFormat (Source Fault : Type) extends DataFormat Source Fault where
  readers : ValueReaders Source Fault
  string_eq {source : Source} {text : String} (h : Holds source (.string text)) :
    readers.string source = .ok text
  optionalString_eq {source : Source} {text : String} (h : Holds source (.string text)) :
    readers.optionalString source = .ok (some text)
  boolean_eq {source : Source} {value : Bool} (h : Holds source (.boolean value)) :
    readers.boolean source = .ok value
  kind_eq {source : Source} {word : String} (h : Holds source (.string word)) :
    readers.kind source = .ok (.ofWord word)
  type_eq {source : Source} {content : TypeContent} (h : Holds source content.data) :
    readers.type source = .ok content.type
  expression_eq {source : Source} {data : Data} (h : Holds source data) :
    readers.expression source = .ok data.text?
  /-- The entries of a table are read, in the order in which they stand. -/
  expressions_eq {source : Source} {entries : List (String × Data)}
    (h : Holds source (.table entries)) :
    ∃ given, readers.expressions source = .ok given ∧
      given.Perm (entries.map fun entry => (entry.1, entry.2.text?))

/-- An enumeration is read as its content says. -/
theorem readEnumeration_eq {Source Fault : Type} (format : DataFormat Source Fault)
    {readString : Source → Except Fault String}
    (hstring : ∀ source text, format.Holds source (.string text) → readString source = .ok text)
    {source : Source} {name : String} {constants : Option (List String)}
    (h : format.Holds source (.table (TypeContent.enumerationEntries name constants))) :
    format.readRecord (enumerationShape readString (format.readList readString)) source =
      .ok (.enumeration name (constants.getD [])) := by
  obtain ⟨givens, hgivens, hread⟩ :=
    format.readRecord_present (enumerationShape_independent readString _) rfl h
  obtain ⟨givens, hgivens, hname⟩ :=
    Shape.fillAll_ofReader Data.string (some name) rfl hgivens hstring
  obtain ⟨givens, hgivens, hconstants⟩ := Shape.fillAll_ofReader
    (fun constants => .array (constants.map .string)) constants rfl hgivens
    fun source constants hholds => readList_eq_map format hholds fun constant _ source hconstant =>
      hstring source constant hconstant
  refine hread ((hname _ _ _ _).trans (hconstants _ _ _ _)) ?_
  cases constants with
  | none => rfl
  | some constants =>
    show Except.ok (FieldType.enumeration name (constants.map fun constant => constant)) = _
    rw [List.map_id']
    rfl

namespace DescriptorFormat

variable {Source Fault : Type} (format : DescriptorFormat Source Fault) {source : Source}

/-- A field in the format. -/
def readField : Source → Except Fault FieldData := format.readRecord (fieldShape format.readers)

/-- A declaration in the format. -/
def readClass : Source → Except Fault ClassData :=
  format.readRecord (classShape format.readers (format.readList format.readField))

/-- A document in the format. -/
def readDocument : Source → Except Fault DocumentData :=
  format.readRecord (documentShape format.readers (format.readList format.readClass))

/-- A field is read as its content says. -/
theorem readField_eq {field : FieldContent} (h : format.Holds source (.table field.entries)) :
    format.readField source = .ok field.described := by
  obtain ⟨givens, hgivens, hread⟩ :=
    format.readRecord_present (fieldShape_independent format.readers) rfl h
  obtain ⟨givens, hgivens, hname⟩ := Shape.fillAll_ofReader Data.string (some field.name) rfl
    hgivens fun _ _ h => format.string_eq h
  obtain ⟨givens, hgivens, htype⟩ := Shape.fillAll_ofReader TypeContent.data (some field.type) rfl
    hgivens fun _ _ h => format.type_eq h
  obtain ⟨givens, hgivens, hnullable⟩ := Shape.fillAll_ofReader Data.boolean field.nullable rfl
    hgivens fun _ _ h => format.boolean_eq h
  obtain ⟨givens, hgivens, hdefault⟩ := Shape.fillAll_ofReader id field.default Option.map_id_apply
    hgivens fun _ _ h => format.expression_eq h
  obtain ⟨givens, hgivens, hstatic⟩ := Shape.fillAll_ofReader Data.boolean field.isStatic rfl
    hgivens fun _ _ h => format.boolean_eq h
  obtain ⟨givens, hgivens, hsynthetic⟩ := Shape.fillAll_ofReader Data.boolean field.synthetic rfl
    hgivens fun _ _ h => format.boolean_eq h
  obtain ⟨givens, hgivens, hpublic⟩ := Shape.fillAll_ofReader Data.boolean field.isPublic rfl
    hgivens fun _ _ h => format.boolean_eq h
  refine hread ((hname _ _ _ _).trans ((htype _ _ _ _).trans ((hnullable _ _ _ _).trans
    ((hdefault _ _ _ _).trans ((hstatic _ _ _ _).trans ((hsynthetic _ _ _ _).trans
      (hpublic _ _ _ _))))))) ?_
  obtain ⟨name, type, nullable, default, isStatic, synthetic, isPublic⟩ := field
  cases nullable <;> cases default <;> cases isStatic <;> cases synthetic <;> cases isPublic <;> rfl

/-- A declaration is read as its content says, but for the order of its defaults, which makes no
difference to the declaration of the model. -/
theorem readClass_eq {content : ClassContent} (h : format.Holds source (.table content.entries)) :
    ∃ data, format.readClass source = .ok data ∧ data.declaration = content.declaration := by
  obtain ⟨givens, hgivens, hread⟩ := format.readRecord_present
    (classShape_independent format.readers (format.readList format.readField)) rfl h
  obtain ⟨givens, hgivens, hname⟩ := Shape.fillAll_ofReader Data.string (some content.name) rfl
    hgivens fun _ _ h => format.string_eq h
  obtain ⟨givens, hgivens, hkind⟩ := Shape.fillAll_ofReader Data.string content.kind rfl
    hgivens fun _ _ h => format.kind_eq h
  obtain ⟨defaults, givens, hperm, hgivens, hdefaults⟩ := Shape.exists_fillAll_ofReader Data.table
    content.defaults rfl hgivens fun _ _ h => format.expressions_eq h
  obtain ⟨givens, hgivens, hfields⟩ := Shape.fillAll_ofReader
    (fun fields => .array (fields.map fun field => .table field.entries)) content.fields rfl hgivens
    fun _ _ h => readList_eq_map format.toDataFormat h fun _ _ _ h => format.readField_eq h
  have hoverrides : overridesOf (defaults.getD []) = overridesOf content.described.defaults := by
    obtain ⟨name, kind, entries?, fields, distinct⟩ := content
    cases hperm with
    | none => rfl
    | @some entries given hgiven =>
      refine (overridesOf_perm hgiven.symm ?_).symm
      rw [List.map_map]
      exact distinct entries rfl
  have hfinish : (classShape format.readers (format.readList format.readField)).finish
      { name := some content.name
        kind := content.described.kind
        defaults := defaults.getD []
        fields := content.described.fields } =
      .ok { content.described with defaults := defaults.getD [] } := rfl
  refine ⟨_, hread ?_ hfinish, ClassData.declaration_eq_of_overridesOf hoverrides⟩
  refine (hname _ _ _ _).trans ((hkind _ _ _ _).trans ((hdefaults _ _ _ _).trans
    ((hfields _ _ _ _).trans ?_)))
  obtain ⟨name, kind, entries?, fields, distinct⟩ := content
  cases kind <;> cases defaults <;> cases fields <;> rfl

/-- A document is read as its content says. -/
theorem readDocument_eq {content : DocumentContent} (h : format.Holds source content.data) :
    ∃ data, format.readDocument source = .ok data ∧ data.document = content.document := by
  obtain ⟨givens, hgivens, hread⟩ := format.readRecord_present
    (documentShape_independent format.readers (format.readList format.readClass)) rfl h
  obtain ⟨library, givens, hlibrary, hgivens, hfill⟩ := Shape.exists_fillAll_ofReader Data.string
    content.library rfl hgivens (Q := fun text given => given = some text)
    fun _ _ h => ⟨_, format.optionalString_eq h, rfl⟩
  obtain ⟨classes, givens, hclasses, hgivens, hfill'⟩ := Shape.exists_fillAll_ofReader
    (fun classes => .array (classes.map fun content => .table content.entries)) content.classes rfl
    hgivens (Q := List.Forall₂ fun content (data : ClassData) =>
      data.declaration = content.declaration)
    fun _ _ h => exists_readList_eq format.toDataFormat h fun _ _ _ h => format.readClass_eq h
  refine ⟨⟨library.join, classes.getD []⟩, hread ((hfill _ _ _ _).trans ((hfill' _ _ _ _).trans ?_))
    rfl, ?_⟩
  · cases library <;> cases classes <;> rfl
  · have hlibrary' : library.join = content.library := by
      generalize content.library = text at hlibrary
      cases hlibrary with
      | none => rfl
      | some hgiven => exact hgiven
    have hclasses' : (classes.getD []).map (·.declaration) =
        (content.classes.getD []).map (·.declaration) := by
      generalize content.classes = contents at hclasses
      cases hclasses with
      | none => rfl
      | some hgiven => exact (Results.map_eq_map_of_forall₂ (hgiven.imp fun _ _ h => h.symm)).symm
    rw [DocumentData.document, DocumentContent.document, hlibrary', hclasses']

end DescriptorFormat

end ModelFactory.Descriptor
