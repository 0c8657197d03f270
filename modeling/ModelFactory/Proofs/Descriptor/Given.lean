import ModelFactory.Proofs.Descriptor.Kinds

/-!
# What a text gives

A `ValueFormat` is a format in which strings, truth values and tables are told apart from reading
them. `ValueFormat.GivesField`, `GivesClass` and `GivesDocument` say which data stand in a record
that a source holds: a default is the string that stands under its word, and none where another value
or nothing does, and the flags that are not given are those of a plain field.

Whatever is read is given (`givesField_of_readField`, `givesClass_of_readClass`,
`givesDocument_of_readDocument`), so the data of a text that is loaded are what the text gives
(`gives_of_dataOf`).
-/

set_option autoImplicit false

namespace ModelFactory.Descriptor

open Record (EntryFormat Shape)
open Results (exists_of_bind_eq_ok mapError_eq_ok_iff)

/-- The described data of a text. -/
def dataOf (format : Format) (text : String) : Except TextFault DocumentData :=
  match format with
  | .json => (documentOfJson text).mapError .json
  | .toml => (documentOfToml text).mapError .toml

/-- Reading a document is reading data and keeping what counts. -/
theorem documentOf_eq (format : Format) (text : String) :
    documentOf format text = (dataOf format text).map (·.document) := by
  cases format with
  | json =>
    unfold documentOf dataOf
    cases documentOfJson text with
    | ok data => rfl
    | error fault => rfl
  | toml =>
    unfold documentOf dataOf
    cases documentOfToml text with
    | ok data => rfl
    | error fault => rfl

/-! ## Drafts -/

section Drafts

variable {Source Fault : Type} {readers : ValueReaders Source Fault}

/-- A field has a name and a type and is otherwise what its draft holds. -/
theorem fieldShape_finish_eq_ok_iff {draft : FieldDraft} {field : FieldData} :
    (fieldShape readers).finish draft = .ok field ↔
      draft = ⟨some field.name, some field.type, field.nullable, field.default, field.isStatic,
        field.synthetic, field.isPublic⟩ := by
  obtain ⟨name?, type?, nullable, default, isStatic, synthetic, isPublic⟩ := draft
  cases name? with
  | none =>
    constructor
    · intro h
      cases h
    · intro h
      cases h
  | some name =>
    cases type? with
    | none =>
      constructor
      · intro h
        cases h
      · intro h
        cases h
    | some type =>
      constructor
      · intro h
        cases h
        rfl
      · intro h
        cases h
        rfl

end Drafts

/-! ## Formats -/

/-- A format in which it can be told which strings, truth values and tables there are. -/
structure ValueFormat (Source Fault : Type) extends KindFormat Source Fault where
  /-- The string that a value is, if it is one. -/
  text? : Source → Option String
  /-- The truth value that a value is, if it is one. -/
  truth? : Source → Option Bool
  /-- The entries of a table of any values, in their order. -/
  table? : Source → Option (List (String × Source))
  text_of_string {source : Source} {text : String} (h : readers.string source = .ok text) :
    text? source = some text
  truth_of_boolean {source : Source} {value : Bool} (h : readers.boolean source = .ok value) :
    truth? source = some value
  text_of_expression {source : Source} {given : Option String}
    (h : readers.expression source = .ok given) : text? source = given
  table_of_expressions {source : Source} {given : List (String × Option String)}
    (h : readers.expressions source = .ok given) :
    ∃ entries, table? source = some entries ∧
      given = entries.map fun entry => (entry.1, text? entry.2)

namespace ValueFormat

variable {Source Fault : Type} (format : ValueFormat Source Fault)

/-- The data are those of a field that the source gives. -/
structure GivesField (source : Source) (field : FieldData) : Prop where
  name : (format.valueAt? fieldWords "name" source).bind format.text? = some field.name
  type : ∃ value, format.valueAt? fieldWords "type" source = some value ∧
    format.readers.type value = .ok field.type
  nullable : field.nullable =
    ((format.valueAt? fieldWords "nullable" source).bind format.truth?).getD false
  /-- A default that is no string is none. -/
  default : field.default = (format.valueAt? fieldWords "default" source).bind format.text?
  isStatic : field.isStatic =
    ((format.valueAt? fieldWords "static" source).bind format.truth?).getD false
  synthetic : field.synthetic =
    ((format.valueAt? fieldWords "synthetic" source).bind format.truth?).getD false
  isPublic : field.isPublic =
    ((format.valueAt? fieldWords "public" source).bind format.truth?).getD true

/-- The table of defaults that a declaration gives. -/
def givenDefaults (source : Source) : List (String × Source) :=
  ((format.valueAt? classWords "defaults" source).bind format.table?).getD []

/-- The fields that a declaration gives. -/
def givenFields (source : Source) : List Source :=
  ((format.valueAt? classWords "fields" source).bind format.items?).getD []

/-- The data are those of a declaration that the source gives. -/
structure GivesClass (source : Source) (data : ClassData) : Prop where
  name : (format.valueAt? classWords "name" source).bind format.text? = some data.name
  kind : ∃ given, format.givenKind? source = some given ∧ data.kind = given.kind
  /-- A default that is no string is none. -/
  defaults : data.defaults =
    (format.givenDefaults source).map fun entry => (entry.1, format.text? entry.2)
  fields : List.Forall₂ format.GivesField (format.givenFields source) data.fields

/-- The declarations that a document gives. -/
def givenClasses (source : Source) : List Source :=
  ((format.valueAt? documentWords "classes" source).bind format.items?).getD []

/-- The declarations of the data are those that the source gives, in their order. -/
def GivesDocument (source : Source) (data : DocumentData) : Prop :=
  List.Forall₂ format.GivesClass (format.givenClasses source) data.classes

/-! ### What is read is given -/

section Reading

variable {source : Source}

/-- What is read is what is told of the source, if there is one. -/
theorem bind_eq_of_rel {Value : Type} {read : Source → Except Fault Value}
    {told : Source → Option Value}
    (htold : ∀ source value, read source = .ok value → told source = some value)
    {source? : Option Source} {value? : Option Value}
    (h : Option.Rel (fun source value => read source = .ok value) source? value?) :
    source?.bind told = value? := by
  cases h with
  | none => rfl
  | some hread => exact htold _ _ hread

/-- What is read as any value is its string, and none where there is no value. -/
theorem bind_text_eq_of_rel {source? : Option Source} {given? : Option (Option String)}
    (h : Option.Rel (fun source given => format.readers.expression source = .ok given) source?
      given?) :
    source?.bind format.text? = given?.getD none := by
  cases h with
  | none => rfl
  | some hread => exact format.text_of_expression hread

/-- A value that is read stands somewhere. -/
theorem exists_of_rel_some {Value : Type} {read : Source → Except Fault Value}
    {source? : Option Source} {value : Value}
    (h : Option.Rel (fun source value => read source = .ok value) source? (some value)) :
    ∃ source, source? = some source ∧ read source = .ok value := by
  cases h with
  | some hread => exact ⟨_, rfl, hread⟩

/-- A table that is read has the entries that are there, each with its string if it is one. -/
theorem map_table_eq_of_rel {source? : Option Source}
    {given? : Option (List (String × Option String))}
    (h : Option.Rel (fun source given => format.readers.expressions source = .ok given) source?
      given?) :
    ((source?.bind format.table?).getD []).map (fun entry => (entry.1, format.text? entry.2)) =
      given?.getD [] := by
  cases h with
  | none => rfl
  | some hread =>
    obtain ⟨entries, hentries, rfl⟩ := format.table_of_expressions hread
    rw [Option.bind_some, hentries]
    rfl

/-- A list that is read has been read item by item, and is blank where there is none. -/
theorem forall₂_of_rel_readList {Item : Type} {read : Source → Except Fault Item}
    {source? : Option Source} {values? : Option (List Item)}
    (h : Option.Rel (fun source values => format.readList read source = .ok values) source?
      values?) :
    List.Forall₂ (fun item value => read item = .ok value) ((source?.bind format.items?).getD [])
      (values?.getD []) := by
  cases h with
  | none => exact .nil
  | some hread =>
    obtain ⟨items, hitems, hvalues⟩ := format.readList_eq_ok_iff.1 hread
    rw [Option.bind_some, hitems]
    exact Results.mapM_eq_ok_iff.1 hvalues

/-- A field that is read is given. -/
theorem givesField_of_readField {field : FieldData} (h : format.readField source = .ok field) :
    format.GivesField source field := by
  obtain ⟨draft, hfinish, hfill⟩ :=
    EntryFormat.exists_fillAll_of_readRecord (fieldShape_independent format.readers) h
  obtain ⟨name?, hname, hfill⟩ := Shape.exists_of_fillAll_ofReader hfill
  obtain ⟨type?, htype, hfill⟩ := Shape.exists_of_fillAll_ofReader hfill
  obtain ⟨nullable?, hnullable, hfill⟩ := Shape.exists_of_fillAll_ofReader hfill
  obtain ⟨default?, hdefault, hfill⟩ := Shape.exists_of_fillAll_ofReader hfill
  obtain ⟨static?, hstatic, hfill⟩ := Shape.exists_of_fillAll_ofReader hfill
  obtain ⟨synthetic?, hsynthetic, hfill⟩ := Shape.exists_of_fillAll_ofReader hfill
  obtain ⟨public?, hpublic, hfill⟩ := Shape.exists_of_fillAll_ofReader hfill
  -- Each slot has put in what was read, or has left the blank draft as it was.
  have hdraft : draft = ⟨name?, type?, nullable?.getD false, default?.getD none,
      static?.getD false, synthetic?.getD false, public?.getD true⟩ := by
    obtain rfl := Except.ok.inj hfill
    cases name? <;> cases type? <;> cases nullable? <;> cases default? <;> cases static? <;>
      cases synthetic? <;> cases public? <;> rfl
  rw [fieldShape_finish_eq_ok_iff, hdraft, FieldDraft.mk.injEq] at hfinish
  obtain ⟨rfl, rfl, hfinish⟩ := hfinish
  obtain ⟨hgiven, hown, hstat, hsynth, hopen⟩ := hfinish
  have htruth {source? : Option Source} {value? : Option Bool}
      (h : Option.Rel (fun source value => format.readers.boolean source = .ok value) source?
        value?) : source?.bind format.truth? = value? :=
    bind_eq_of_rel (fun _ _ => format.truth_of_boolean) h
  exact {
    name := bind_eq_of_rel (fun _ _ => format.text_of_string) hname
    type := exists_of_rel_some htype
    nullable := hgiven.symm.trans (congrArg (·.getD false) (htruth hnullable).symm)
    default := hown.symm.trans (format.bind_text_eq_of_rel hdefault).symm
    isStatic := hstat.symm.trans (congrArg (·.getD false) (htruth hstatic).symm)
    synthetic := hsynth.symm.trans (congrArg (·.getD false) (htruth hsynthetic).symm)
    isPublic := hopen.symm.trans (congrArg (·.getD true) (htruth hpublic).symm) }

/-- A declaration that is read is given. -/
theorem givesClass_of_readClass {data : ClassData} (h : format.readClass source = .ok data) :
    format.GivesClass source data := by
  obtain ⟨draft, hfinish, hfill⟩ :=
    EntryFormat.exists_fillAll_of_readRecord (classShape_independent format.readers _) h
  obtain ⟨name?, hname, hfill⟩ := Shape.exists_of_fillAll_ofReader hfill
  obtain ⟨kind?, -, hfill⟩ := Shape.exists_of_fillAll_ofReader hfill
  obtain ⟨defaults?, hdefaults, hfill⟩ := Shape.exists_of_fillAll_ofReader hfill
  obtain ⟨fields?, hfields, hfill⟩ := Shape.exists_of_fillAll_ofReader hfill
  have hdraft : draft = ⟨name?, kind?.getD .classLike, defaults?.getD [], fields?.getD []⟩ := by
    obtain rfl := Except.ok.inj hfill
    cases name? <;> cases kind? <;> cases defaults? <;> cases fields? <;> rfl
  rw [classShape_finish_eq_ok_iff, hdraft] at hfinish
  obtain ⟨rfl, -, htable, hlist⟩ := hfinish
  exact {
    name := bind_eq_of_rel (fun _ _ => format.text_of_string) hname
    kind := format.exists_givenKind? h
    defaults := htable.symm.trans (format.map_table_eq_of_rel hdefaults).symm
    fields := hlist ▸ (format.forall₂_of_rel_readList hfields).imp
      fun _ _ hfield => format.givesField_of_readField hfield }

/-- The declarations of a document that is read are given. -/
theorem givesDocument_of_readDocument {data : DocumentData}
    (h : format.readDocument source = .ok data) : format.GivesDocument source data := by
  obtain ⟨draft, hfinish, hfill⟩ :=
    EntryFormat.exists_fillAll_of_readRecord (documentShape_independent format.readers _) h
  obtain ⟨library?, -, hfill⟩ := Shape.exists_of_fillAll_ofReader hfill
  obtain ⟨classes?, hclasses, hfill⟩ := Shape.exists_of_fillAll_ofReader hfill
  obtain rfl : draft = data := Except.ok.inj hfinish
  have hlist : draft.classes = classes?.getD [] := by
    obtain rfl := Except.ok.inj hfill
    cases library? <;> cases classes? <;> rfl
  rw [GivesDocument, hlist]
  exact (format.forall₂_of_rel_readList hclasses).imp
    fun _ _ hclass => format.givesClass_of_readClass hclass

end Reading

end ValueFormat

/-! ## Both formats -/

namespace FromJson

open Json (Fault Node Place)

/-- The truth value at a place. -/
def truth? (place : Place) : Option Bool :=
  match place.node with
  | .boolean value => some value
  | _ => none

/-- The entries of an object, by their keys. -/
def table? (place : Place) : Option (List (String × Place)) :=
  match place.node, place.room with
  | .object entries _, room + 1 => Place.named? room entries
  | _, _ => none

theorem text_of_readString {place : Place} {text : String} (h : place.readString = .ok text) :
    place.node.string? = some text := by
  obtain ⟨node, room⟩ := place
  cases node with
  | string written =>
    have hdecoded : written.decoded = .ok text := Json.StringText.read?_eq_ok_iff.1 h
    rw [Node.string?, hdecoded]
    rfl
  | _ => cases h

theorem truth_of_readBoolean {place : Place} {value : Bool} (h : place.readBoolean = .ok value) :
    truth? place = some value := by
  obtain ⟨node, room⟩ := place
  cases node with
  | boolean written =>
    cases h
    rfl
  | _ => cases h

theorem text_of_readAny {place : Place} {given : Option String} (h : place.readAny = .ok given) :
    place.node.string? = given := by
  obtain ⟨done, -, h⟩ := exists_of_bind_eq_ok h
  exact Except.ok.inj h

/-- Entries that are read have keys that can be read, and strings where their values are strings. -/
theorem exists_named_of_mapM {room : Nat} {entries : List (Json.StringText × Node)}
    {given : List (String × Option String)}
    (h : List.Forall₂ (fun entry text => (do
      return (← entry.1.read?, ← Place.readAny ⟨entry.2, room⟩)) = Except.ok text) entries given) :
    ∃ named, Place.named? room entries = some named ∧
      given = named.map fun entry => (entry.1, entry.2.node.string?) := by
  induction h with
  | nil => exact ⟨[], rfl, rfl⟩
  | @cons entry text entries given hfirst hrest ih =>
    obtain ⟨named, hnamed, rfl⟩ := ih
    obtain ⟨word, hword, hfirst⟩ := exists_of_bind_eq_ok hfirst
    obtain ⟨string?, hstring, hfirst⟩ := exists_of_bind_eq_ok hfirst
    obtain rfl := Except.ok.inj hfirst
    obtain rfl := text_of_readAny hstring
    refine ⟨(word, ⟨entry.2, room⟩) :: named, ?_, rfl⟩
    rw [Place.named?, Json.StringText.read?_eq_ok_iff.1 hword, hnamed]
    rfl

theorem table_of_readTable {place : Place} {given : List (String × Option String)}
    (h : place.readTable = .ok given) :
    ∃ entries, table? place = some entries ∧
      given = entries.map fun entry => (entry.1, entry.2.node.string?) := by
  obtain ⟨node, room⟩ := place
  cases node with
  | object entries stop =>
    obtain ⟨inside, hroom, h⟩ := exists_of_bind_eq_ok h
    obtain ⟨values, hvalues, h⟩ := exists_of_bind_eq_ok h
    obtain ⟨done, -, h⟩ := exists_of_bind_eq_ok h
    obtain rfl := Except.ok.inj h
    cases room with
    | zero => cases hroom
    | succ room =>
      obtain rfl := Except.ok.inj hroom
      exact exists_named_of_mapM (Results.mapM_eq_ok_iff.1 hvalues)
  | _ => cases h

/-- JSON as a format of values. -/
def values : ValueFormat Place Fault where
  toKindFormat := kinds
  text? place := place.node.string?
  truth? := truth?
  table? := table?
  text_of_string h := text_of_readString h
  truth_of_boolean h := truth_of_readBoolean h
  text_of_expression h := text_of_readAny h
  table_of_expressions h := table_of_readTable h

end FromJson

namespace FromToml

open Record (DataFault)
open Toml (Value)

theorem table_of_readTable {value : Value} {given : List (String × Option String)}
    (h : value.readTable = .ok given) :
    ∃ entries, value.entries? = some entries ∧
      given = entries.map fun entry => (entry.1, entry.2.string?) := by
  unfold Value.readTable at h
  cases hentries : value.entries? with
  | none =>
    rw [hentries] at h
    cases h
  | some entries =>
    rw [hentries] at h
    exact ⟨entries, rfl, (Except.ok.inj h).symm⟩

/-- TOML as a format of values. -/
def values : ValueFormat Value DataFault where
  toKindFormat := kinds
  text? := Value.string?
  truth? := Value.truth?
  table? := Value.entries?
  text_of_string h := Value.string?_of_readString h
  truth_of_boolean h := Value.truth?_of_readBoolean h
  text_of_expression h := Except.ok.inj h
  table_of_expressions h := table_of_readTable h

end FromToml

/-- The data are those of the classes that the text gives. -/
def Gives (format : Format) (text : String) (data : DocumentData) : Prop :=
  match format with
  | .json => FromJson.values.GivesDocument ⟨(Json.Text.read text).root, Json.deepest⟩ data
  | .toml => ∃ entries, Toml.documentOf text = some entries ∧
    FromToml.values.GivesDocument (.table .header entries) data

/-- The data that are read from a text are what the text gives. -/
theorem gives_of_dataOf {format : Format} {text : String} {data : DocumentData}
    (h : dataOf format text = .ok data) : Gives format text data := by
  cases format with
  | json =>
    obtain ⟨hread, -⟩ := documentOfJson_eq_ok_iff.1 (mapError_eq_ok_iff.1 h)
    exact FromJson.values.givesDocument_of_readDocument hread
  | toml =>
    obtain ⟨entries, hentries, hread⟩ := documentOfToml_eq_ok_iff.1 (mapError_eq_ok_iff.1 h)
    exact ⟨entries, hentries, FromToml.values.givesDocument_of_readDocument hread⟩

end ModelFactory.Descriptor
