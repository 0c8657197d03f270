import Mathlib
import ModelFactory.Proofs.Descriptor.Reading
import ModelFactory.Proofs.Json.Edits
import ModelFactory.Proofs.Json.Written

/-!
# Edits of a JSON descriptor that change nothing

The entries of the objects in a JSON descriptor may stand in any order, entries of words that the
loader does not know may stand among them, and a default may be written or left out.
`FromJson.DocumentEdit` is one such change of a document, at any depth of it. A type stays an object
with one key, and only what stands under the tag is changed.

A text that is made from another one by any number of such changes is loaded as the same document
(`documentOf_edited`).
-/

set_option autoImplicit false

namespace ModelFactory.Descriptor

open Results (map_eq_map_of_forall₂ map_eq_ok_iff)

namespace FromJson

open Json (Node ObjectStop Place StringText)
open Json.Place (FillsAlike Gives ItemEdit LeavesBlank RecordEdit)

/-! ## Defaults -/

/-- The default of an optional word of an enumeration. -/
inductive EnumerationDefault : String → Node → Prop where
  | constants : EnumerationDefault "constants" (.array [] .closed)

/-- The default of an optional word of a field. -/
inductive FieldDefault : String → Node → Prop where
  | nullable : FieldDefault "nullable" (.boolean false)
  | default : FieldDefault "default" .null
  | isStatic : FieldDefault "static" (.boolean false)
  | synthetic : FieldDefault "synthetic" (.boolean false)
  | isPublic : FieldDefault "public" (.boolean true)

/-- The default of an optional word of a declaration. The kind may be spelled with escapes. -/
inductive ClassDefault : String → Node → Prop where
  | kind {text : StringText} (h : text.decoded = .ok "class") : ClassDefault "kind" (.string text)
  | defaults : ClassDefault "defaults" (.object [] .closed)
  | fields : ClassDefault "fields" (.array [] .closed)

/-- The default of an optional word of a document. -/
inductive DocumentDefault : String → Node → Prop where
  | library : DocumentDefault "library" .null
  | classes : DocumentDefault "classes" (.array [] .closed)

/-! ## Edits -/

/-- One change in a type: in the record of an enumeration, however deep in lists it is. -/
inductive TypeEdit : Place → Place → Prop where
  | enumeration {key : StringText} {value value' : Node} {stop : ObjectStop} {room : Nat}
      (hkey : key.decoded = .ok "enum")
      (h : RecordEdit enumerationWords EnumerationDefault (fun _ _ _ => False) ⟨value, room⟩
        ⟨value', room⟩) :
      TypeEdit ⟨.object [(key, value)] stop, room + 1⟩ ⟨.object [(key, value')] stop, room + 1⟩
  | list {key : StringText} {value value' : Node} {stop : ObjectStop} {room : Nat}
      (hkey : key.decoded = .ok "list") (h : TypeEdit ⟨value, room⟩ ⟨value', room⟩) :
      TypeEdit ⟨.object [(key, value)] stop, room + 1⟩ ⟨.object [(key, value')] stop, room + 1⟩

/-- One change of what stands under a word of a field. -/
inductive FieldPartEdit : String → Place → Place → Prop where
  | type {left right : Place} (h : TypeEdit left right) : FieldPartEdit "type" left right

/-- One change in a field. -/
def FieldEdit : Place → Place → Prop := RecordEdit fieldWords FieldDefault FieldPartEdit

/-- One change of what stands under a word of a declaration. -/
inductive ClassPartEdit : String → Place → Place → Prop where
  /-- Of two entries with one key only the later counts, so the keys have to be distinct. -/
  | defaults {entries entries' : List (StringText × Node)} {stop : ObjectStop} {room : Nat}
      (hkeys : (entries.map (·.1.decoded)).Nodup) (h : entries.Perm entries') :
      ClassPartEdit "defaults" ⟨.object entries stop, room + 1⟩ ⟨.object entries' stop, room + 1⟩
  | fields {left right : Place} (h : ItemEdit FieldEdit left right) :
      ClassPartEdit "fields" left right

/-- One change in a declaration. -/
def ClassEdit : Place → Place → Prop := RecordEdit classWords ClassDefault ClassPartEdit

/-- One change of what stands under a word of a document. -/
inductive DocumentPartEdit : String → Place → Place → Prop where
  | classes {left right : Place} (h : ItemEdit ClassEdit left right) :
      DocumentPartEdit "classes" left right

/-- One change in a document. -/
def DocumentEdit : Place → Place → Prop :=
  RecordEdit documentWords DocumentDefault DocumentPartEdit

/-! ## Types -/

variable {left right : Place}

theorem EnumerationDefault.leavesBlank {word : String} {value : Node}
    (h : EnumerationDefault word value) :
    LeavesBlank (enumerationShape Json.Place.readString (Json.Place.readList Json.Place.readString))
      word value := by
  cases h with
  | constants => exact (Json.Place.gives_list _).leavesBlank rfl rfl

/-- An enumeration with a change in its record is read as the same type. -/
theorem readEnumeration_of_edit {type : FieldType}
    (h : RecordEdit enumerationWords EnumerationDefault (fun _ _ _ => False) left right)
    (hread : readEnumeration left = .ok type) : readEnumeration right = .ok type := by
  obtain ⟨type', htype, rfl⟩ := h.exists_readRecord (enumerationShape_independent _ _) Eq.refl
    (fun _ _ hdefault => hdefault.leavesBlank) (fun _ _ _ hinner => hinner.elim) hread
  exact htype

/-- A type with a change in it is read as the same type. -/
theorem TypeEdit.readTypeWithin_eq (h : TypeEdit left right) {depth : Nat} {type : FieldType}
    (hread : readTypeWithin depth left = .ok type) : readTypeWithin depth right = .ok type := by
  induction h generalizing depth type with
  | enumeration hkey hedit =>
    cases depth with
    | zero => cases hread
    | succ depth =>
      rw [readTypeWithin, Json.Place.readTagged_object_eq_ok_iff] at hread ⊢
      obtain ⟨word, tag, hword, htag, hbody, hstop⟩ := hread
      cases hkey.symm.trans hword
      cases htag
      exact ⟨"enum", .enumeration, hkey, rfl, readEnumeration_of_edit hedit hbody, hstop⟩
  | list hkey hinner ih =>
    cases depth with
    | zero => cases hread
    | succ depth =>
      rw [readTypeWithin, Json.Place.readTagged_object_eq_ok_iff] at hread ⊢
      obtain ⟨word, tag, hword, htag, hbody, hstop⟩ := hread
      cases hkey.symm.trans hword
      cases htag
      obtain ⟨element, helement, rfl⟩ := map_eq_ok_iff.1 hbody
      exact ⟨"list", .list, hkey, rfl, map_eq_ok_iff.2 ⟨element, ih helement, rfl⟩, hstop⟩

/-- The room is the same after a change, and so is the bound on the depth. -/
theorem TypeEdit.readType_eq (h : TypeEdit left right) {type : FieldType}
    (hread : readType left = .ok type) : readType right = .ok type := by
  have hroom : left.room = right.room := by
    cases h with
    | enumeration => rfl
    | list => rfl
  rw [readType, ← hroom]
  exact h.readTypeWithin_eq hread

/-! ## Fields -/

theorem FieldDefault.leavesBlank {word : String} {value : Node} (h : FieldDefault word value) :
    LeavesBlank (fieldShape readers) word value := by
  cases h with
  | nullable => exact (Json.Place.gives_boolean false).leavesBlank rfl rfl
  | default => exact Json.Place.gives_any.leavesBlank rfl rfl
  | isStatic => exact (Json.Place.gives_boolean false).leavesBlank rfl rfl
  | synthetic => exact (Json.Place.gives_boolean false).leavesBlank rfl rfl
  | isPublic => exact (Json.Place.gives_boolean true).leavesBlank rfl rfl

theorem FieldPartEdit.fillsAlike {word : String} (h : FieldPartEdit word left right) :
    FillsAlike (fieldShape readers) Eq word left right := by
  cases h with
  | type hedit => exact Json.Place.fillsAlike_of_read_eq Eq.refl rfl fun _ => hedit.readType_eq

/-- A field with a change in it is read as the same field. -/
theorem FieldEdit.readField_eq (h : FieldEdit left right) {data : FieldData}
    (hread : readField left = .ok data) : readField right = .ok data := by
  obtain ⟨data', hdata, rfl⟩ := RecordEdit.exists_readRecord (fieldShape_independent _) Eq.refl
    (fun _ _ hdefault => hdefault.leavesBlank) (fun _ _ _ hpart => hpart.fillsAlike) h hread
  exact hdata

/-! ## Declarations -/

/-- The word for a class is read as the kind of a class. -/
theorem gives_class {text : StringText} (h : text.decoded = .ok "class") :
    Gives readKind (.string text) .classLike :=
  Json.Place.gives_of_read_eq (readKind_string h)

theorem ClassDefault.leavesBlank {word : String} {value : Node} (h : ClassDefault word value) :
    LeavesBlank (classShape readers (Json.Place.readList readField)) word value := by
  cases h with
  | kind htext => exact (gives_class htext).leavesBlank rfl rfl
  | defaults => exact Json.Place.gives_table.leavesBlank rfl rfl
  | fields => exact (Json.Place.gives_list _).leavesBlank rfl rfl

/-- Two data describe one declaration. -/
def SameDeclaration (data data' : ClassData) : Prop := data.declaration = data'.declaration

theorem SameDeclaration.refl (data : ClassData) : SameDeclaration data data := rfl

/-- A reordered table with distinct keys makes the same overrides. -/
theorem exists_readTable_of_perm {entries entries' : List (StringText × Node)} {stop : ObjectStop}
    {room : Nat} {table : List (String × Option String)}
    (hkeys : (entries.map (·.1.decoded)).Nodup) (hperm : entries.Perm entries')
    (hread : Json.Place.readTable ⟨.object entries stop, room + 1⟩ = .ok table) :
    ∃ table', Json.Place.readTable ⟨.object entries' stop, room + 1⟩ = .ok table' ∧
      overridesOf table' = overridesOf table := by
  obtain ⟨hstop, htable⟩ := Json.Place.readTable_object_eq_ok_iff.1 hread
  obtain ⟨table', htable', hperm'⟩ := List.perm_comp_forall₂ hperm.symm htable
  have hwritten : entries.map (·.1.decoded) = (table.map (·.1)).map .ok := by
    rw [List.map_map]
    exact map_eq_map_of_forall₂ (htable.imp fun _ _ h => h.1)
  rw [hwritten] at hkeys
  refine ⟨table', Json.Place.readTable_object_eq_ok_iff.2 ⟨hstop, htable'⟩, ?_⟩
  exact (overridesOf_perm hperm'.symm (hkeys.of_map _)).symm

theorem ClassPartEdit.fillsAlike {word : String} (h : ClassPartEdit word left right) :
    FillsAlike (classShape readers (Json.Place.readList readField)) SameDeclaration word left
      right := by
  cases h with
  | defaults hkeys hperm =>
    apply Json.Place.fillsAlike_of_read rfl
    intro table htable
    obtain ⟨table', htable', hsame⟩ := exists_readTable_of_perm hkeys hperm htable
    refine ⟨table', htable', ?_⟩
    intro base data hfinish
    obtain ⟨hname, hkind, rfl, hfields⟩ := classShape_finish_eq_ok_iff.1 hfinish
    refine ⟨{ data with defaults := table' }, ?_, ?_⟩
    · exact classShape_finish_eq_ok_iff.2 ⟨hname, hkind, rfl, hfields⟩
    · exact ClassData.declaration_eq_of_overridesOf hsame
  | fields hedit =>
    apply Json.Place.fillsAlike_of_read_eq SameDeclaration.refl rfl
    intro fields hfields
    obtain ⟨fields', hfields', hsame⟩ := hedit.exists_readList Eq.refl
      (fun _ _ value hfield hvalue => ⟨value, hfield.readField_eq hvalue, rfl⟩) hfields
    rw [List.forall₂_eq_eq_eq] at hsame
    rw [← hsame]
    exact hfields'

/-- A declaration with a change in it is read, and describes the same declaration. -/
theorem ClassEdit.exists_readClass (h : ClassEdit left right) {data : ClassData}
    (hread : readClass left = .ok data) :
    ∃ data', readClass right = .ok data' ∧ SameDeclaration data' data :=
  RecordEdit.exists_readRecord (classShape_independent _ _) SameDeclaration.refl
    (fun _ _ hdefault => hdefault.leavesBlank) (fun _ _ _ hpart => hpart.fillsAlike) h hread

/-! ## Documents -/

theorem DocumentDefault.leavesBlank {word : String} {value : Node}
    (h : DocumentDefault word value) :
    LeavesBlank (documentShape readers (Json.Place.readList readClass)) word value := by
  cases h with
  | library => exact Json.Place.gives_optionalString.leavesBlank rfl rfl
  | classes => exact (Json.Place.gives_list _).leavesBlank rfl rfl

/-- Two data describe one document. -/
def SameDocument (data data' : DocumentData) : Prop := data.document = data'.document

theorem SameDocument.refl (data : DocumentData) : SameDocument data data := rfl

theorem SameDocument.trans {data data' data'' : DocumentData} (h : SameDocument data data')
    (h' : SameDocument data' data'') : SameDocument data data'' :=
  Eq.trans h h'

theorem DocumentPartEdit.fillsAlike {word : String} (h : DocumentPartEdit word left right) :
    FillsAlike (documentShape readers (Json.Place.readList readClass)) SameDocument word left
      right := by
  cases h with
  | classes hedit =>
    apply Json.Place.fillsAlike_of_read rfl
    intro classes hclasses
    obtain ⟨classes', hclasses', hsame⟩ := hedit.exists_readList SameDeclaration.refl
      (fun _ _ value hclass hvalue => hclass.exists_readClass hvalue) hclasses
    refine ⟨classes', hclasses', ?_⟩
    intro base data hfinish
    cases hfinish
    refine ⟨_, rfl, ?_⟩
    have hdeclarations : classes'.map (·.declaration) = classes.map (·.declaration) :=
      map_eq_map_of_forall₂ hsame
    exact congrArg (Document.mk base.library) hdeclarations

/-- A document with a change in it is read, and describes the same document. -/
theorem DocumentEdit.exists_readDocument (h : DocumentEdit left right) {data : DocumentData}
    (hread : readDocument left = .ok data) :
    ∃ data', readDocument right = .ok data' ∧ SameDocument data' data :=
  RecordEdit.exists_readRecord (documentShape_independent _ _) SameDocument.refl
    (fun _ _ hdefault => hdefault.leavesBlank) (fun _ _ _ hpart => hpart.fillsAlike) h hread

/-- So is one with any number of changes. -/
theorem exists_readDocument_of_edits (h : Relation.ReflTransGen DocumentEdit left right)
    {data : DocumentData} (hread : readDocument left = .ok data) :
    ∃ data', readDocument right = .ok data' ∧ SameDocument data' data := by
  induction h with
  | refl => exact ⟨data, hread, .refl data⟩
  | tail hedits hedit ih =>
    obtain ⟨middle, hmiddle, hsame⟩ := ih
    obtain ⟨data', hdata', hsame'⟩ := hedit.exists_readDocument hmiddle
    exact ⟨data', hdata', hsame'.trans hsame⟩

end FromJson

/-! ## Texts -/

/-- A text that is made from one that is loaded by changes of order, of unknown words and of written
defaults is loaded as the same document. -/
theorem documentOf_edited {text text' : String} {document : Document}
    (h : documentOf .json text = .ok document)
    (hedits : Relation.ReflTransGen FromJson.DocumentEdit
      ⟨(Json.Text.read text).root, Json.deepest⟩ ⟨(Json.Text.read text').root, Json.deepest⟩)
    (htrailing : (Json.Text.read text').trailing = (Json.Text.read text).trailing) :
    documentOf .json text' = .ok document := by
  obtain ⟨data, hread, hclosed, rfl⟩ := documentOf_json_eq_ok_iff.1 h
  obtain ⟨data', hread', hsame⟩ := FromJson.exists_readDocument_of_edits hedits hread
  exact documentOf_json_eq_ok_iff.2 ⟨data', hread', htrailing.trans hclosed, hsame⟩

/-! ## A text and its edit -/

section

open Json (Node)
open Json.StringText (decoded_ofString ofString)

/-- A declaration with a list of an enumeration without constants. -/
def sidesJson : String :=
  "\x7b\"library\":null,\"classes\":[\x7b\"name\":\"Team\"," ++
  "\"defaults\":\x7b\"a\":\"1\",\"b\":\"2\"\x7d,\"fields\":[\x7b\"name\":\"sides\"," ++
  "\"type\":\x7b\"list\":\x7b\"enum\":\x7b\"name\":\"Side\"\x7d\x7d\x7d\x7d]\x7d]\x7d"

/-- The same with other keys and in another order. The number is too large to be taken in, but it is
passed over. -/
def editedJson : String :=
  "\x7b\"note\":[1e999],\"classes\":[\x7b\"kind\":\"class\",\"name\":\"Team\"," ++
  "\"defaults\":\x7b\"b\":\"2\",\"a\":\"1\"\x7d,\"fields\":[\x7b" ++
  "\"type\":\x7b\"list\":\x7b\"enum\":\x7b\"name\":\"Side\",\"constants\":[]\x7d\x7d\x7d," ++
  "\"name\":\"sides\"\x7d]\x7d]\x7d"

/-- The tree of `sidesJson`. -/
def sidesNode : Node :=
  .object [(ofString "library", .null), (ofString "classes", .array [.object [
    (ofString "name", .string (ofString "Team")),
    (ofString "defaults", .object [(ofString "a", .string (ofString "1")),
      (ofString "b", .string (ofString "2"))] .closed),
    (ofString "fields", .array [.object [
      (ofString "name", .string (ofString "sides")),
      (ofString "type", .object [(ofString "list", .object [(ofString "enum", .object [
        (ofString "name", .string (ofString "Side"))] .closed)] .closed)] .closed)] .closed]
      .closed)] .closed] .closed)] .closed

/-- The tree of `editedJson`. -/
def editedNode : Node :=
  .object [(ofString "note", .array [.number ⟨false, [1], [], some (false, [9, 9, 9])⟩] .closed),
    (ofString "classes", .array [.object [
    (ofString "kind", .string (ofString "class")),
    (ofString "name", .string (ofString "Team")),
    (ofString "defaults", .object [(ofString "b", .string (ofString "2")),
      (ofString "a", .string (ofString "1"))] .closed),
    (ofString "fields", .array [.object [
      (ofString "type", .object [(ofString "list", .object [(ofString "enum", .object [
        (ofString "name", .string (ofString "Side")),
        (ofString "constants", .array [] .closed)] .closed)] .closed)] .closed),
      (ofString "name", .string (ofString "sides"))] .closed] .closed)] .closed] .closed)] .closed

theorem read_sidesJson : Json.Text.read sidesJson = ⟨sidesNode, false⟩ := by
  cbv

theorem read_editedJson : Json.Text.read editedJson = ⟨editedNode, false⟩ := by
  cbv

/-- The one tree is made from the other from the outside to the inside. -/
theorem sidesNode_edits : Relation.ReflTransGen FromJson.DocumentEdit ⟨sidesNode, Json.deepest⟩
    ⟨editedNode, Json.deepest⟩ := by
  have hkey := decoded_ofString
  -- The document loses its default and gains a word that is not known.
  refine .head (.removeDefault [] [_] (hkey "library") .library) ?_
  refine .head (.addUnknown [] [_] (ofString "note")
    (.array [.number ⟨false, [1], [], some (false, [9, 9, 9])⟩] .closed) (hkey "note")
    (by decide) rfl) ?_
  -- The declaration gains its kind, and its defaults change places.
  refine .head (.inner [_] [] (hkey "classes") (.classes (.item [] [] (.addDefault [] [_, _, _]
    (ofString "kind") (.string (ofString "class")) (hkey "kind") (.kind (hkey "class")) ?kind
    ?kindRoom)))) ?_
  case kind => simp [hkey]
  case kindRoom => simp [Node.readFlaw, Json.StringText.readFlaw, hkey]
  refine .head (.inner [_] [] (hkey "classes") (.classes (.item [] []
    (.inner [_, _] [_] (hkey "defaults") (.defaults ?defaults (.swap _ _ _)))))) ?_
  case defaults => simp [hkey]
  -- The keys of the field change places.
  refine .head (.inner [_] [] (hkey "classes") (.classes (.item [] []
    (.inner [_, _, _] [] (hkey "fields") (.fields (.item [] [] (.reorder (.swap _ _ _)))))))) ?_
  -- The enumeration gains its constants.
  refine .single (.inner [_] [] (hkey "classes") (.classes (.item [] []
    (.inner [_, _, _] [] (hkey "fields") (.fields (.item [] []
      (.inner [] [_] (hkey "type") (.type (.list (hkey "list") (.enumeration (hkey "enum")
        (.addDefault [_] [] (ofString "constants") (.array [] .closed) (hkey "constants")
          .constants ?constants ?constantsRoom)))))))))))
  case constants => simp [hkey]
  case constantsRoom => simp [Node.readFlaw, Node.arrayReadFlaw]

end

/-- What both texts describe. -/
def sides : Document where
  declarations := [{
    name := "Team"
    fields := [⟨"sides", .list (.enumeration "Side" []), false⟩]
    classDefaults := .ofEntries [("a", "1"), ("b", "2")] }]

theorem sides_edited :
    documentOf .json sidesJson = .ok sides ∧ documentOf .json editedJson = .ok sides := by
  have hsides : documentOf .json sidesJson = .ok sides := by decide +kernel
  refine ⟨hsides, documentOf_edited hsides ?_ ?_⟩
  · rw [read_sidesJson, read_editedJson]
    exact sidesNode_edits
  · rw [read_sidesJson, read_editedJson]

end ModelFactory.Descriptor
