import ModelFactory.Proofs.Descriptor.SameContent
import ModelFactory.Proofs.Json.Written

/-!
# Documents written as JSON and read again

`documentText` writes a document as a JSON descriptor. Its text has the content of the document
(`spells_documentText`), and that content describes the document (`ofDocument_document`) if the
document can be described at all: a default of a field stands at the field, so it needs one, and a
kind that is kept as a word must not be read as a known one. So the text is read as the document
that was written (`documentOf_documentText`), as long as the types are not nested too deep for the
reader.
-/

set_option autoImplicit false

namespace ModelFactory.Descriptor

open Record (Data EntryRel presentEntries forall₂_presentEntries)
open Json (Spells arrayText objectText stringText truthText spells_arrayText spells_arrayText_map
  spells_objectText spells_stringText spells_truthText)

/-! ## Writing -/

/-- A type with its tag. -/
def typeText : FieldType → List Char
  | .primitive kind => objectText [("primitive", stringText kind.rendered)]
  | .enumeration name constants => objectText [("enum", objectText
      [("name", stringText name), ("constants", arrayText (constants.map stringText))])]
  | .list element => objectText [("list", typeText element)]
  | .model name => objectText [("named", stringText name)]

/-- A field, with its default if the table has one. -/
def fieldText (defaults : OverrideTable) (field : Field) : List Char :=
  objectText (presentEntries [("name", some (stringText field.name)),
    ("type", some (typeText field.type)), ("nullable", some (truthText field.nullable)),
    ("default", defaults[field.name]?.map stringText)])

/-- A declaration. -/
def declarationText (declaration : Declaration) : List Char :=
  objectText [("name", stringText declaration.name),
    ("kind", stringText declaration.kind.word),
    ("defaults", objectText (declaration.classDefaults.toList.map fun entry =>
      (entry.1, stringText entry.2))),
    ("fields", arrayText (declaration.fields.map (fieldText declaration.fieldDefaults)))]

/-- A document, with its library if it has one. -/
def documentText (document : Document) : String :=
  String.ofList (objectText (presentEntries [("library", document.library.map stringText),
    ("classes", some (arrayText (document.declarations.map declarationText)))]))

/-! ## The content of what is written -/

/-- The content of a type. -/
def TypeContent.ofType : FieldType → TypeContent
  | .primitive kind => .primitive ⟨kind.rendered, kind, Primitive.ofSpelling?_rendered kind⟩
  | .enumeration name constants => .enumeration name (some constants)
  | .list element => .list (ofType element)
  | .model name => .model name

/-- The content of a field. -/
def FieldContent.ofField (defaults : OverrideTable) (field : Field) : FieldContent where
  name := field.name
  type := .ofType field.type
  nullable := some field.nullable
  default := defaults[field.name]?.map .string

/-- The keys of a table are distinct. -/
theorem nodup_keys_toList (table : OverrideTable) : (table.toList.map (·.1)).Nodup := by
  rw [List.Nodup, List.pairwise_map]
  refine Std.ExtTreeMap.distinct_keys_toList.imp fun hne hsame => hne ?_
  rw [hsame]
  exact Std.ReflCmp.compare_self

/-- The content of a declaration. -/
def ClassContent.ofDeclaration (declaration : Declaration) : ClassContent where
  name := declaration.name
  kind := some declaration.kind.word
  defaults := some (declaration.classDefaults.toList.map fun entry => (entry.1, .string entry.2))
  fields := some (declaration.fields.map (.ofField declaration.fieldDefaults))
  distinct := by
    rintro entries hentries
    cases hentries
    rw [List.map_map]
    exact nodup_keys_toList declaration.classDefaults

/-- The content of a document. -/
def DocumentContent.ofDocument (document : Document) : DocumentContent where
  library := document.library
  classes := some (document.declarations.map .ofDeclaration)

theorem spells_typeText (type : FieldType) :
    Spells (typeText type) (TypeContent.ofType type).data := by
  induction type with
  | primitive kind => exact spells_objectText (.cons ⟨rfl, spells_stringText _⟩ .nil)
  | enumeration name constants =>
    refine spells_objectText (.cons ⟨rfl, spells_objectText ?_⟩ .nil)
    exact .cons ⟨rfl, spells_stringText _⟩
      (.cons ⟨rfl, spells_arrayText_map spells_stringText constants⟩ .nil)
  | list element ih => exact spells_objectText (.cons ⟨rfl, ih⟩ .nil)
  | model name => exact spells_objectText (.cons ⟨rfl, spells_stringText _⟩ .nil)

/-- A string that may be missing is written if it is there. -/
theorem rel_spells_stringText (text : Option String) :
    Option.Rel Spells (text.map stringText) (text.map .string) := by
  cases text with
  | none => exact .none
  | some text => exact .some (spells_stringText text)

theorem spells_fieldText (defaults : OverrideTable) (field : Field) :
    Spells (fieldText defaults field) (.table (FieldContent.ofField defaults field).entries) := by
  apply spells_objectText
  -- The other entries of a field are not there.
  show List.Forall₂ _ _ (presentEntries [("name", some (.string field.name)),
    ("type", some (TypeContent.ofType field.type).data),
    ("nullable", some (.boolean field.nullable)),
    ("default", defaults[field.name]?.map .string)])
  apply forall₂_presentEntries
  exact .cons ⟨rfl, .some (spells_stringText _)⟩ (.cons ⟨rfl, .some (spells_typeText _)⟩
    (.cons ⟨rfl, .some (spells_truthText _)⟩ (.cons ⟨rfl, rel_spells_stringText _⟩ .nil)))

theorem spells_declarationText (declaration : Declaration) :
    Spells (declarationText declaration)
      (.table (ClassContent.ofDeclaration declaration).entries) := by
  apply spells_objectText
  refine .cons ⟨rfl, spells_stringText _⟩ (.cons ⟨rfl, spells_stringText _⟩
    (.cons ⟨rfl, spells_objectText ?_⟩ (.cons ⟨rfl, ?_⟩ .nil)))
  · rw [List.forall₂_map_left_iff, List.forall₂_map_right_iff, List.forall₂_same]
    intro entry _
    exact ⟨rfl, spells_stringText entry.2⟩
  · show Spells _ (.array ((declaration.fields.map _).map _))
    rw [List.map_map]
    exact spells_arrayText_map (spells_fieldText declaration.fieldDefaults) declaration.fields

/-- The text of a document has its content. -/
theorem spells_documentText (document : Document) :
    ∃ node : Json.Node, Json.Text.read (documentText document) = ⟨node, false⟩ ∧
      node.Holds (DocumentContent.ofDocument document).data := by
  have hspells : Spells (objectText (presentEntries
      [("library", document.library.map stringText),
        ("classes", some (arrayText (document.declarations.map declarationText)))]))
      (DocumentContent.ofDocument document).data := by
    apply spells_objectText
    apply forall₂_presentEntries
    refine .cons ⟨rfl, rel_spells_stringText _⟩ (.cons ⟨rfl, .some ?_⟩ .nil)
    show Spells _ (.array ((document.declarations.map _).map _))
    rw [List.map_map]
    exact spells_arrayText_map spells_declarationText document.declarations
  obtain ⟨node, hread, hholds⟩ := hspells
  exact ⟨node, Json.Text.read_ofList hread, hholds⟩

/-! ## The room for what is written -/

/-- How many objects and arrays stand in each other in the text of a type. -/
def levels : FieldType → Nat
  | .primitive _ => 1
  | .enumeration _ _ => 3
  | .list element => levels element + 1
  | .model _ => 1

theorem within_ofType {type : FieldType} {room : Nat} (h : levels type ≤ room) :
    (TypeContent.ofType type).data.Within room := by
  induction type generalizing room with
  | primitive kind =>
    obtain ⟨less, rfl⟩ : ∃ less, room = less + 1 := Nat.exists_eq_add_of_le' h
    exact Data.within_tagged.2 Data.within_string
  | enumeration name constants =>
    obtain ⟨less, rfl⟩ : ∃ less, room = less + 3 := Nat.exists_eq_add_of_le' h
    refine Data.within_tagged.2 (Data.within_presentEntries.2 ?_)
    simp
  | list element ih =>
    obtain ⟨less, rfl⟩ : ∃ less, room = less + 1 :=
      Nat.exists_eq_add_of_le' (Nat.le_trans (Nat.le_add_left 1 _) h)
    exact Data.within_tagged.2 (ih (Nat.le_of_succ_le_succ h))
  | model name =>
    obtain ⟨less, rfl⟩ : ∃ less, room = less + 1 := Nat.exists_eq_add_of_le' h
    exact Data.within_tagged.2 Data.within_string

theorem within_ofField {field : Field} {room : Nat} (h : levels field.type ≤ room)
    (defaults : OverrideTable) :
    (Data.table (FieldContent.ofField defaults field).entries).Within (room + 1) := by
  rw [FieldContent.entries, Data.within_presentEntries]
  simp [FieldContent.ofField, within_ofType h]

theorem within_ofDeclaration {declaration : Declaration} {room : Nat}
    (h : ∀ field ∈ declaration.fields, levels field.type ≤ room) :
    (Data.table (ClassContent.ofDeclaration declaration).entries).Within (room + 3) := by
  have hdefaults : (Data.table (declaration.classDefaults.toList.map fun entry =>
      (entry.1, Data.string entry.2))).Within (room + 2) := by
    rw [Data.within_table, List.forall_mem_map]
    exact fun _ _ => Data.within_string
  have hfields : ∀ field ∈ declaration.fields,
      (Data.table (FieldContent.ofField declaration.fieldDefaults field).entries).Within
        (room + 1) :=
    fun field hfield => within_ofField (h field hfield) _
  rw [ClassContent.entries, Data.within_presentEntries]
  simpa [ClassContent.ofDeclaration] using ⟨hdefaults, hfields⟩

/-- A document takes five levels around its types. -/
theorem within_ofDocument {document : Document} {room : Nat}
    (h : ∀ declaration ∈ document.declarations, ∀ field ∈ declaration.fields,
      levels field.type ≤ room) :
    (DocumentContent.ofDocument document).data.Within (room + 5) := by
  have hclasses : ∀ declaration ∈ document.declarations,
      (Data.table (ClassContent.ofDeclaration declaration).entries).Within (room + 3) :=
    fun declaration hdeclaration => within_ofDeclaration (h declaration hdeclaration)
  rw [DocumentContent.data, Data.within_presentEntries]
  simpa [DocumentContent.ofDocument] using hclasses

/-! ## Reading what is written -/

/-- A declaration that its text can say all of. -/
structure Describable (declaration : Declaration) : Prop where
  /-- Each default of a field stands at a field. -/
  defaults : ∀ name ∈ declaration.fieldDefaults, name ∈ declaration.fields.map (·.name)
  /-- A word that is kept names no known kind. -/
  kind : ∀ word, declaration.kind = .other word → word ∉ DeclarationKind.words.map (·.1)
  /-- The reader gets to the end of each type. -/
  types : ∀ field ∈ declaration.fields, levels field.type + 5 ≤ Json.deepest

theorem ofType_type (type : FieldType) : (TypeContent.ofType type).type = type := by
  induction type with
  | list element ih => exact congrArg FieldType.list ih
  | _ => rfl

/-- A kind is read back from its word, if the word is not taken for another. -/
theorem ofWord_word_of_notMem {kind : DeclarationKind}
    (h : ∀ word, kind = .other word → word ∉ DeclarationKind.words.map (·.1)) :
    DeclarationKind.ofWord kind.word = kind := by
  by_cases hother : ∃ word, kind = .other word
  · obtain ⟨word, rfl⟩ := hother
    have hnone : DeclarationKind.ofKnownWord? word = none := by
      rw [DeclarationKind.ofKnownWord?, List.lookup_eq_none_iff]
      intro entry hentry
      simp only [bne_iff_ne]
      rintro rfl
      exact h _ rfl (List.mem_map_of_mem hentry)
    show (DeclarationKind.ofKnownWord? word).getD (.other word) = .other word
    rw [hnone]
    rfl
  · exact DeclarationKind.ofWord_word fun word hword => hother ⟨word, hword⟩

/-- A field as it is described. -/
def FieldData.ofField (defaults : OverrideTable) (field : Field) : FieldData where
  name := field.name
  type := field.type
  nullable := field.nullable
  default := defaults[field.name]?

theorem ofField_described (defaults : OverrideTable) (field : Field) :
    (FieldContent.ofField defaults field).described = FieldData.ofField defaults field := by
  have hdefault : (defaults[field.name]?.map Data.string).bind (·.text?) =
      defaults[field.name]? := by
    cases defaults[field.name]? with
    | none => rfl
    | some text => rfl
  simp only [FieldContent.described, FieldContent.ofField, FieldData.ofField, hdefault, ofType_type,
    Option.getD_some, Option.getD_none]

/-- All fields that are written reach a factory. -/
theorem ofDeclaration_instanceFields (declaration : Declaration) :
    (ClassContent.ofDeclaration declaration).described.instanceFields =
      declaration.fields.map (.ofField declaration.fieldDefaults) := by
  have hfields : (ClassContent.ofDeclaration declaration).described.fields =
      declaration.fields.map (.ofField declaration.fieldDefaults) := by
    show (declaration.fields.map _).map _ = _
    rw [List.map_map]
    exact List.map_congr_left fun field _ => ofField_described declaration.fieldDefaults field
  rw [ClassData.instanceFields, hfields, List.filter_eq_self]
  intro data hdata
  obtain ⟨field, -, rfl⟩ := List.mem_map.1 hdata
  rfl

/-- The defaults of the fields are collected again. -/
theorem ofEntries_filterMap_override? {declaration : Declaration} (h : Describable declaration) :
    OverrideTable.ofEntries ((declaration.fields.map
      (FieldData.ofField declaration.fieldDefaults)).filterMap (·.override?)) =
      declaration.fieldDefaults := by
  have hnames := OverrideTable.ofEntries_filterMap_names h.defaults
  rw [List.filterMap_map] at hnames ⊢
  exact hnames

theorem overridesOf_toList (table : OverrideTable) :
    overridesOf ((table.toList.map fun entry => (entry.1, Data.string entry.2)).map fun entry =>
      (entry.1, entry.2.text?)) = table := by
  rw [List.map_map, overridesOf, List.foldl_map]
  exact OverrideTable.ofEntries_toList table

/-- A declaration is described by its content. -/
theorem ofDeclaration_declaration {declaration : Declaration} (h : Describable declaration) :
    (ClassContent.ofDeclaration declaration).declaration = declaration := by
  have hfields : (declaration.fields.map (FieldData.ofField declaration.fieldDefaults)).map
      (·.field) = declaration.fields := by
    rw [List.map_map]
    exact List.map_id declaration.fields
  have hkind : (ClassContent.ofDeclaration declaration).described.kind = declaration.kind :=
    ofWord_word_of_notMem h.kind
  have hdefaults : overridesOf (ClassContent.ofDeclaration declaration).described.defaults =
      declaration.classDefaults :=
    overridesOf_toList declaration.classDefaults
  rw [ClassContent.declaration, ClassData.declaration, ofDeclaration_instanceFields, hfields, hkind,
    hdefaults, ofEntries_filterMap_override? h]
  rfl

/-- A document is described by its content. -/
theorem ofDocument_document {document : Document}
    (h : ∀ declaration ∈ document.declarations, Describable declaration) :
    (DocumentContent.ofDocument document).document = document := by
  have hdeclarations : (document.declarations.map ClassContent.ofDeclaration).map (·.declaration) =
      document.declarations := by
    rw [List.map_map]
    exact (List.map_congr_left fun declaration hmem =>
      ofDeclaration_declaration (h declaration hmem)).trans (List.map_id _)
  show Document.mk document.library ((document.declarations.map _).map _) = document
  rw [hdeclarations]

/-- What is written as JSON is read as what was written. -/
theorem documentOf_documentText {document : Document}
    (h : ∀ declaration ∈ document.declarations, Describable declaration) :
    documentOf .json (documentText document) = .ok document := by
  obtain ⟨node, hread, hholds⟩ := spells_documentText document
  have hroom : (DocumentContent.ofDocument document).data.Within (122 + 5) :=
    within_ofDocument fun declaration hdeclaration field hfield =>
      Nat.le_of_add_le_add_right ((h declaration hdeclaration).types field hfield)
  rw [documentOf_json_eq hread hholds hroom, ofDocument_document h]

/-- A class with names and defaults that need escapes or four octets, and with a kind that is
kept. -/
def escapes : Document where
  declarations := [{
    name := "T\x01"
    kind := .other "Mixin"
    fields := [⟨"😀", .list (.model "\"A\""), true⟩]
    fieldDefaults := .ofEntries [("😀", "'\t'")]
    classDefaults := .ofEntries [("b\\", "")] }]

/-- The text of `escapes`, and that it is read as `escapes`. -/
theorem escapes_read_as_written :
    documentText escapes =
        "\x7b\"classes\":[\x7b\"name\":\"T\\u0001\",\"kind\":\"Mixin\"," ++
        "\"defaults\":\x7b\"b\\\\\":\"\"\x7d,\"fields\":[\x7b\"name\":\"😀\"," ++
        "\"type\":\x7b\"list\":\x7b\"named\":\"\\\"A\\\"\"\x7d\x7d,\"nullable\":true," ++
        "\"default\":\"'\\t'\"\x7d]\x7d]\x7d" ∧
      documentOf .json (documentText escapes) = .ok escapes := by
  refine ⟨by decide +kernel, documentOf_documentText (List.forall_mem_singleton.2 ?_)⟩
  constructor
  · simp [OverrideTable.ofEntries]
  · rintro word ⟨⟩
    decide
  · exact List.forall_mem_singleton.2 (by decide)

end ModelFactory.Descriptor
