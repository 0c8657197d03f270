import ModelFactory.Descriptor.Format
import ModelFactory.Proofs.Descriptor.Content
import ModelFactory.Proofs.Json.Entries
import ModelFactory.Proofs.Toml.Entries

/-!
# Reading a descriptor

A `ReadingFormat` is a format that tells entries and items apart from reading them, with readers for
the single values of a descriptor. JSON and TOML are such formats (`FromJson.reading`,
`FromToml.reading`), and a text of either is loaded exactly if its root can be read as a document
(`documentOf_json_eq_ok_iff`, `documentOf_toml_eq_ok_iff`).
-/

set_option autoImplicit false

namespace ModelFactory.Descriptor

open Record (EntryFormat)
open Results (bind_eq_ok_iff map_eq_ok_iff mapError_eq_ok_iff)

/-! ## Words -/

/-- The words of a document. -/
def documentWords : List String := ["library", "classes"]

/-- The words of a declaration. -/
def classWords : List String := ["name", "kind", "defaults", "fields"]

/-- The words of a field. -/
def fieldWords : List String :=
  ["name", "type", "nullable", "default", "static", "synthetic", "public"]

/-- The words of an enumeration. -/
def enumerationWords : List String := ["name", "constants"]

/-! ## Formats -/

/-- A format with readers for the single values of a descriptor. -/
structure ReadingFormat (Source Fault : Type) extends EntryFormat Source Fault where
  readers : ValueReaders Source Fault

namespace ReadingFormat

variable {Source Fault : Type} (format : ReadingFormat Source Fault)

/-- A field in the format. -/
def readField : Source → Except Fault FieldData := format.readRecord (fieldShape format.readers)

/-- A declaration in the format. -/
def readClass : Source → Except Fault ClassData :=
  format.readRecord (classShape format.readers (format.readList format.readField))

/-- A document in the format. -/
def readDocument : Source → Except Fault DocumentData :=
  format.readRecord (documentShape format.readers (format.readList format.readClass))

end ReadingFormat

/-- JSON, read from places. -/
def FromJson.reading : ReadingFormat Json.Place Json.Fault where
  toEntryFormat := Json.Place.entryFormat
  readers := FromJson.readers

/-- TOML, read from values. -/
def FromToml.reading : ReadingFormat Toml.Value Record.DataFault where
  toEntryFormat := Toml.Value.entryFormat
  readers := FromToml.readers

/-! ## Kinds and drafts -/

/-- In JSON any string is read as the kind of its word. -/
theorem FromJson.readKind_string {text : Json.StringText} {word : String}
    (h : text.decoded = .ok word) (room : Nat) :
    FromJson.readKind ⟨.string text, room⟩ = .ok (.ofWord word) := by
  have hflaw : (Json.Node.string text).readFlaw room = none := by
    cases room <;> simp [Json.Node.readFlaw, Json.StringText.readFlaw, h]
  rw [FromJson.readKind, hflaw]
  show (do return DeclarationKind.ofWord (← text.read?)) = _
  rw [Json.StringText.read?_eq_ok_iff.2 h]
  rfl

/-- A declaration has a name and is otherwise what its draft holds. -/
theorem classShape_finish_eq_ok_iff {Source Fault : Type} {readers : ValueReaders Source Fault}
    {readFields : Source → Except Fault (List FieldData)} {draft : ClassDraft} {data : ClassData} :
    (classShape readers readFields).finish draft = .ok data ↔
      draft.name = some data.name ∧ draft.kind = data.kind ∧ draft.defaults = data.defaults ∧
        draft.fields = data.fields := by
  obtain ⟨name?, kind, defaults, fields⟩ := draft
  cases name? with
  | none =>
    constructor
    · intro h
      cases h
    · rintro ⟨hname, -⟩
      cases hname
  | some name =>
    constructor
    · intro h
      cases h
      exact ⟨rfl, rfl, rfl, rfl⟩
    · rintro ⟨hname, rfl, rfl, rfl⟩
      cases hname
      rfl

/-! ## Texts -/

/-- A JSON text is read if its root can be read and nothing but blanks stands behind it. -/
theorem documentOfJson_eq_ok_iff {text : String} {data : DocumentData} :
    documentOfJson text = .ok data ↔
      FromJson.reading.readDocument ⟨(Json.Text.read text).root, Json.deepest⟩ = .ok data ∧
        (Json.Text.read text).trailing = false := by
  have hread : documentOfJson text = (do
      let data ← FromJson.reading.readDocument ⟨(Json.Text.read text).root, Json.deepest⟩
      Json.Fault.stopAt (if (Json.Text.read text).trailing then some .trailingCharacters else none)
      return data) := rfl
  rw [hread]
  simp only [bind_eq_ok_iff]
  constructor
  · rintro ⟨read, hdata, done, hdone, heq⟩
    cases heq
    exact ⟨hdata, by simpa using Json.Fault.stopAt_eq_ok_iff.1 hdone⟩
  · rintro ⟨hdata, htrailing⟩
    exact ⟨data, hdata, (), Json.Fault.stopAt_eq_ok_iff.2 (by simp [htrailing]), rfl⟩

/-- A TOML text is read if it follows the grammar and its entries can be read. -/
theorem documentOfToml_eq_ok_iff {text : String} {data : DocumentData} :
    documentOfToml text = .ok data ↔
      ∃ entries, Toml.documentOf text = some entries ∧
        FromToml.reading.readDocument (.table .header entries) = .ok data := by
  rw [documentOfToml, Toml.readDocument]
  cases Toml.documentOf text with
  | none =>
    constructor
    · intro h
      cases h
    · rintro ⟨entries, hentries, -⟩
      cases hentries
  | some entries =>
    have hread : FromToml.reading.readDocument (.table .header entries) =
        FromToml.readDocument entries := rfl
    simp only [mapError_eq_ok_iff, ← hread, Option.some.injEq, exists_eq_left']

/-- A JSON text is loaded as the model's document of the data that are read. -/
theorem documentOf_json_eq_ok_iff {text : String} {document : Document} :
    documentOf .json text = .ok document ↔
      ∃ data, FromJson.reading.readDocument ⟨(Json.Text.read text).root, Json.deepest⟩ = .ok data ∧
        (Json.Text.read text).trailing = false ∧ data.document = document := by
  rw [documentOf, mapError_eq_ok_iff, map_eq_ok_iff]
  simp only [documentOfJson_eq_ok_iff, and_assoc]

/-- A TOML text is loaded as the model's document of the data that are read. -/
theorem documentOf_toml_eq_ok_iff {text : String} {document : Document} :
    documentOf .toml text = .ok document ↔
      ∃ entries data, Toml.documentOf text = some entries ∧
        FromToml.reading.readDocument (.table .header entries) = .ok data ∧
        data.document = document := by
  rw [documentOf, mapError_eq_ok_iff, map_eq_ok_iff]
  simp only [documentOfToml_eq_ok_iff]
  constructor
  · rintro ⟨data, ⟨entries, hentries, hdata⟩, hdocument⟩
    exact ⟨entries, data, hentries, hdata, hdocument⟩
  · rintro ⟨entries, data, hentries, hdata, hdocument⟩
    exact ⟨data, ⟨entries, hentries, hdata⟩, hdocument⟩

end ModelFactory.Descriptor
