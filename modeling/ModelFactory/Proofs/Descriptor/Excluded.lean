import ModelFactory.Proofs.Descriptor.Defaults

/-!
# Fields that leave no trace

A descriptor may list fields that no factory takes: static ones, ones made by a compiler and ones
that are not public. `ClassData.SameButExcluded` relates two classes of which one is the other with
such fields put in or taken out at any places. They are the same declaration
(`ClassData.SameButExcluded.declaration_eq`), since the fields and the table of their defaults are
both made of the fields that are kept. So a name that an excluded field shares with a kept one gives
the kept field nothing.

`excluded_fields_leave_no_trace` is about whole documents, the texts that they are read from and the
runs over them.
-/

set_option autoImplicit false

namespace ModelFactory.Descriptor

/-! ## Putting in and taking out -/

/-- No factory takes the field. -/
def FieldData.Excluded (field : FieldData) : Prop :=
  field.isStatic = true ∨ field.synthetic = true ∨ field.isPublic = false

theorem FieldData.isInstanceField_eq_false_iff (field : FieldData) :
    field.isInstanceField = false ↔ field.Excluded := by
  unfold isInstanceField Excluded
  cases field.isStatic <;> cases field.synthetic <;> cases field.isPublic <;> simp

/-- The right fields are the left ones with excluded fields put in and taken out. -/
inductive SameButExcludedFields : List FieldData → List FieldData → Prop
  | none : SameButExcludedFields [] []
  | keep (field : FieldData) {left right : List FieldData} :
      SameButExcludedFields left right → SameButExcludedFields (field :: left) (field :: right)
  | takeOut {field : FieldData} {left right : List FieldData} :
      field.Excluded → SameButExcludedFields left right →
      SameButExcludedFields (field :: left) right
  | putIn {field : FieldData} {left right : List FieldData} :
      field.Excluded → SameButExcludedFields left right →
      SameButExcludedFields left (field :: right)

/-- The same fields are kept, in the same order. -/
theorem SameButExcludedFields.filter_eq {left right : List FieldData}
    (h : SameButExcludedFields left right) :
    right.filter (·.isInstanceField) = left.filter (·.isInstanceField) := by
  induction h with
  | none => rfl
  | keep field _ ih => rw [List.filter_cons, List.filter_cons, ih]
  | takeOut hexcluded _ ih =>
    rw [← FieldData.isInstanceField_eq_false_iff] at hexcluded
    rw [ih, List.filter_cons_of_neg]
    simp [hexcluded]
  | putIn hexcluded _ ih =>
    rw [← FieldData.isInstanceField_eq_false_iff] at hexcluded
    rw [← ih, List.filter_cons_of_neg]
    simp [hexcluded]

/-- The right class is the left one with excluded fields put in and taken out. -/
structure ClassData.SameButExcluded (left right : ClassData) : Prop where
  name : right.name = left.name
  kind : right.kind = left.kind
  defaults : right.defaults = left.defaults
  fields : SameButExcludedFields left.fields right.fields

theorem ClassData.SameButExcluded.declaration_eq {left right : ClassData}
    (h : left.SameButExcluded right) : right.declaration = left.declaration := by
  have hkept : right.instanceFields = left.instanceFields := h.fields.filter_eq
  unfold ClassData.declaration
  rw [hkept, h.name, h.kind, h.defaults]

/-- The right document is the left one with excluded fields put into its classes and taken out of
them. -/
structure DocumentData.SameButExcluded (left right : DocumentData) : Prop where
  library : right.library = left.library
  classes : List.Forall₂ ClassData.SameButExcluded left.classes right.classes

theorem map_declaration_eq {left right : List ClassData}
    (h : List.Forall₂ ClassData.SameButExcluded left right) :
    right.map (·.declaration) = left.map (·.declaration) := by
  induction h with
  | nil => rfl
  | cons hfirst _ ih => rw [List.map_cons, List.map_cons, hfirst.declaration_eq, ih]

theorem DocumentData.SameButExcluded.document_eq {left right : DocumentData}
    (h : left.SameButExcluded right) : right.document = left.document := by
  unfold DocumentData.document
  rw [h.library, map_declaration_eq h.classes]

/-! ## What is kept -/

/-- The declaration has the fields that are kept, in their order and as they are described, and
every default that it has at a field is given at a field that is kept. -/
structure HoldsKept (data : ClassData) (declaration : Declaration) : Prop where
  fields : declaration.fields =
    (data.fields.filter fun field =>
      !field.isStatic && !field.synthetic && field.isPublic).map
      fun field => ⟨field.name, field.type, field.nullable⟩
  default : ∀ (name expression : String), declaration.fieldDefaults[name]? = some expression →
    ∃ field ∈ data.fields, ¬ field.Excluded ∧ field.name = name ∧ field.default = some expression

theorem ClassData.mem_instanceFields {data : ClassData} {field : FieldData} :
    field ∈ data.instanceFields ↔ field ∈ data.fields ∧ ¬ field.Excluded := by
  unfold instanceFields
  rw [List.mem_filter, ← FieldData.isInstanceField_eq_false_iff, Bool.not_eq_false]

theorem ClassData.declaration_holdsKept (data : ClassData) : HoldsKept data data.declaration where
  fields := rfl
  default := by
    intro name expression h
    have hentry : (name, expression) ∈ data.instanceFields.filterMap (·.override?) :=
      OverrideTable.mem_of_getElem?_ofEntries h
    obtain ⟨field, hfield, hgiven⟩ := List.mem_filterMap.1 hentry
    obtain ⟨text, htext, hpair⟩ := Option.map_eq_some_iff.1 hgiven
    obtain ⟨hmem, hkept⟩ := ClassData.mem_instanceFields.1 hfield
    cases hpair
    exact ⟨field, hmem, hkept, rfl, htext⟩

/-! ## Documents, texts and runs -/

/-- Whatever excluded fields are put into the classes of a document or taken out of them, it is the
same document, a text of it is read as that document and every run gives the same output. Its
declarations have only what is kept. -/
theorem excluded_fields_leave_no_trace {data other : DocumentData}
    (h : data.SameButExcluded other) :
    other.document = data.document ∧
      (∀ (format : Format) (text : String), dataOf format text = .ok other →
        documentOf format text = .ok data.document) ∧
      (∀ (settings : GeneratorSettings) (sourcePath : String),
        generate settings other.document sourcePath
          = generate settings data.document sourcePath) ∧
      List.Forall₂ HoldsKept data.classes other.document.declarations := by
  have hdocument : other.document = data.document := h.document_eq
  refine ⟨hdocument, ?_, ?_, ?_⟩
  · intro format text htext
    rw [documentOf_eq, htext, ← hdocument]
    rfl
  · intro settings sourcePath
    rw [hdocument]
  · rw [hdocument]
    have hdeclarations : data.document.declarations = data.classes.map (·.declaration) := rfl
    rw [hdeclarations, List.forall₂_map_right_iff, List.forall₂_same]
    intro data _
    exact data.declaration_holdsKept

/-- A class with one field. -/
def userData : DocumentData where
  classes := [{ name := "User", fields := [{ name := "id", type := .primitive .integer }] }]

/-- The same class with an excluded field of each sort, all of them with the name of the field that
is kept and with a default. -/
def crowdedUserData : DocumentData where
  classes := [{
    name := "User"
    fields := [
      { name := "id", type := .primitive .string, default := some "'static'", isStatic := true },
      { name := "id", type := .primitive .integer, default := some "2", synthetic := true },
      { name := "id", type := .primitive .integer },
      { name := "id", type := .primitive .integer, default := some "3", isPublic := false }] }]

theorem crowdedUserData_leaves_no_trace :
    userData.SameButExcluded crowdedUserData ∧
      crowdedUserData.document = userData.document ∧
      generate {} crowdedUserData.document "user.json" = generate {} userData.document "user.json" ∧
      List.Forall₂ HoldsKept userData.classes crowdedUserData.document.declarations := by
  have hclass : (userData.classes[0]).SameButExcluded crowdedUserData.classes[0] := by
    refine ⟨rfl, rfl, rfl, ?_⟩
    apply SameButExcludedFields.putIn (.inl rfl)
    apply SameButExcludedFields.putIn (.inr (.inl rfl))
    apply SameButExcludedFields.keep
    apply SameButExcludedFields.putIn (.inr (.inr rfl))
    exact SameButExcludedFields.none
  have h : userData.SameButExcluded crowdedUserData := ⟨rfl, .cons hclass .nil⟩
  obtain ⟨hdocument, -, hgenerate, hkept⟩ := excluded_fields_leave_no_trace h
  exact ⟨h, hdocument, hgenerate {} "user.json", hkept⟩

end ModelFactory.Descriptor
