import Mathlib
import ModelFactory.Descriptor.Format
import ModelFactory.Proofs.Descriptor.Content
import ModelFactory.Proofs.Descriptor.Reading
import ModelFactory.Proofs.Json.Written
import ModelFactory.Proofs.Toml.Data

/-!
# The same content in JSON and in TOML

Both formats read the single values of a descriptor as its content says, tagged types among them
(`FromJson.format`, `FromToml.format`). So a JSON text and a TOML text with one content describe one
document (`documentOf_same_content`).
-/

set_option autoImplicit false

namespace ModelFactory.Descriptor

open Record (Data DataFault)

/-! ## JSON -/

namespace FromJson

open Json (Place)

variable {place : Place}

theorem readKind_eq {word : String} (h : place.Holds (.string word)) :
    readKind place = .ok (.ofWord word) := by
  obtain ⟨node, room⟩ := place
  cases h.node with
  | string htext => exact readKind_string htext room

theorem readPrimitive_eq {spelling : PrimitiveWord} (h : place.Holds (.string spelling.word)) :
    readPrimitive place = .ok spelling.kind :=
  h.readTagged_bare _ spelling.read

/-- The room bounds how deep lists can be, so a type is read to its end. -/
theorem readTypeWithin_eq {content : TypeContent} (h : place.Holds content.data) {depth : Nat}
    (hdepth : place.room ≤ depth) : readTypeWithin (depth + 1) place = .ok content.type := by
  induction content generalizing depth place with
  | primitive spelling =>
    obtain ⟨inner, hinner, -, hread⟩ := Place.Holds.tagged h
    rw [readTypeWithin, hread _ _ TypeTag.primitive rfl]
    show (readPrimitive inner).map FieldType.primitive = _
    rw [readPrimitive_eq hinner]
    rfl
  | enumeration name constants =>
    obtain ⟨inner, hinner, -, hread⟩ := Place.Holds.tagged h
    rw [readTypeWithin, hread _ _ TypeTag.enumeration rfl]
    exact readEnumeration_eq Json.format (fun _ _ h => h.readString) hinner
  | list element ih =>
    obtain ⟨inner, hinner, hroom, hread⟩ := Place.Holds.tagged h
    rw [readTypeWithin, hread _ _ TypeTag.list rfl]
    -- An object has been opened, so there is less room for the element.
    obtain ⟨less, rfl⟩ : ∃ less, depth = less + 1 :=
      Nat.exists_eq_add_one_of_ne_zero (by omega)
    show (readTypeWithin (less + 1) inner).map FieldType.list = _
    rw [ih hinner (by omega)]
    rfl
  | model name =>
    obtain ⟨inner, hinner, -, hread⟩ := Place.Holds.tagged h
    rw [readTypeWithin, hread _ _ TypeTag.model rfl]
    show inner.readString.map FieldType.model = _
    rw [hinner.readString]
    rfl

/-- JSON as a format of descriptors. -/
def format : DescriptorFormat Place Json.Fault where
  toDataFormat := Json.format
  readers := readers
  string_eq h := h.readString
  optionalString_eq h := h.readOptionalString
  boolean_eq h := h.readBoolean
  kind_eq h := readKind_eq h
  type_eq {source} _ h := readTypeWithin_eq h (Nat.le_refl source.room)
  expression_eq h := h.readAny
  expressions_eq h := h.readTable

end FromJson

/-! ## TOML -/

namespace FromToml

open Toml (Value)

variable {value : Value}

theorem readKind_eq {word : String} (h : value.Holds (.string word)) :
    readKind value = .ok (.ofWord word) := by
  cases h with
  | string => rfl

theorem readPrimitive_eq {spelling : PrimitiveWord} (h : value.Holds (.string spelling.word)) :
    readPrimitive value = .ok spelling.kind := by
  cases h with
  | string => exact spelling.read

/-- An enumeration has no entries but its own. -/
theorem readEnumeration_eq {name : String} {constants : Option (List String)}
    (h : value.Holds (.table (TypeContent.enumerationEntries name constants))) :
    readEnumeration value = .ok (.enumeration name (constants.getD [])) := by
  rw [readEnumeration, h.readStrictRecord_eq (enumerationShape_independent _ _)
    (TypeContent.mem_words_of_mem_enumerationEntries _ _)]
  exact Descriptor.readEnumeration_eq Toml.format (fun _ _ h => h.readString) h

theorem readType_eq {content : TypeContent} (h : value.Holds content.data) :
    readType value = .ok content.type := by
  induction content generalizing value with
  | primitive spelling =>
    obtain ⟨form, inner, rfl, hinner⟩ := Value.Holds.tagged h
    show (readPrimitive inner).map FieldType.primitive = _
    rw [readPrimitive_eq hinner]
    rfl
  | enumeration name constants =>
    obtain ⟨form, inner, rfl, hinner⟩ := Value.Holds.tagged h
    exact readEnumeration_eq hinner
  | list element ih =>
    obtain ⟨form, inner, rfl, hinner⟩ := Value.Holds.tagged h
    show (readType inner).map FieldType.list = _
    rw [ih hinner]
    rfl
  | model name =>
    obtain ⟨form, inner, rfl, hinner⟩ := Value.Holds.tagged h
    show inner.readString.map FieldType.model = _
    rw [hinner.readString]
    rfl

theorem readOptionalString_eq {text : String} (h : value.Holds (.string text)) :
    readers.optionalString value = .ok (some text) := by
  show value.readString.map some = _
  rw [h.readString]
  rfl

/-- TOML as a format of descriptors. -/
def format : DescriptorFormat Value DataFault where
  toDataFormat := Toml.format
  readers := readers
  string_eq h := h.readString
  optionalString_eq h := readOptionalString_eq h
  boolean_eq h := h.readBoolean
  kind_eq h := readKind_eq h
  type_eq h := readType_eq h
  expression_eq h := congrArg Except.ok h.string?_eq
  expressions_eq h := h.readTable

end FromToml

/-! ## Both formats -/

/-- A JSON text describes the document of its content. -/
theorem documentOf_json_eq {content : DocumentContent} {text : String} {node : Json.Node}
    (htext : Json.Text.read text = ⟨node, false⟩) (hnode : node.Holds content.data)
    (hroom : content.data.Within Json.deepest) :
    documentOf .json text = .ok content.document := by
  have hplace : (Json.Place.mk node Json.deepest).Holds content.data := ⟨hnode, hroom⟩
  obtain ⟨data, hread, hdocument⟩ := FromJson.format.readDocument_eq hplace
  have hdata : documentOfJson text = .ok data := by
    rw [documentOfJson, Json.Place.readText, htext]
    show (do
      let value ← FromJson.format.readDocument ⟨node, Json.deepest⟩
      Json.Fault.stopAt none
      return value) = _
    rw [hread]
    rfl
  rw [documentOf, hdata, ← hdocument]
  rfl

/-- A TOML text describes the document of its content. -/
theorem documentOf_toml_eq {content : DocumentContent} {text : String} {entries : Toml.Entries}
    (htext : Toml.documentOf text = some entries)
    (hentries : (Toml.Value.table .header entries).Holds content.data) :
    documentOf .toml text = .ok content.document := by
  obtain ⟨data, hread, hdocument⟩ := FromToml.format.readDocument_eq hentries
  have hdata : documentOfToml text = .ok data := by
    rw [documentOfToml, Toml.readDocument, htext]
    show (FromToml.format.readDocument (.table .header entries)).mapError Toml.Fault.data = _
    rw [hread]
    rfl
  rw [documentOf, hdata, ← hdocument]
  rfl

/-- A JSON text and a TOML text with the same content describe the same document. -/
theorem documentOf_same_content (content : DocumentContent) {jsonText tomlText : String}
    {node : Json.Node} {entries : Toml.Entries}
    (hjson : Json.Text.read jsonText = ⟨node, false⟩) (hnode : node.Holds content.data)
    (hroom : content.data.Within Json.deepest)
    (htoml : Toml.documentOf tomlText = some entries)
    (hentries : (Toml.Value.table .header entries).Holds content.data) :
    documentOf .json jsonText = .ok content.document ∧
      documentOf .toml tomlText = .ok content.document :=
  ⟨documentOf_json_eq hjson hnode hroom, documentOf_toml_eq htoml hentries⟩

/-- A class with a field and with defaults, of which one is no text. -/
def teamContent : DocumentContent where
  classes := some [{
    name := "Team"
    defaults := some [("users", .string "[]"), ("old", .boolean true)]
    fields := some [{ name := "users", type := .list (.model "User") }]
    distinct := by simp }]

/-- The content in JSON. -/
def teamJson : String :=
  "\x7b\"classes\":[\x7b\"fields\":[\x7b\"type\":\x7b\"list\":\x7b\"named\":\"User\"\x7d\x7d," ++
  "\"name\":\"users\"\x7d],\"defaults\":\x7b\"old\":true,\"users\":\"[]\"\x7d," ++
  "\"name\":\"Team\"\x7d]\x7d"

/-- The content in TOML. -/
def teamToml : String :=
  "[[classes]]\nname = 'Team'\ndefaults.users = '[]'\ndefaults.old = true\n" ++
  "[[classes.fields]]\nname = 'users'\ntype.list.named = 'User'\n"

section

open Json (Node)
open Json.StringText (ofString)

/-- The tree of `teamJson`, with entries in another order than in the content. -/
def teamNode : Node :=
  .object [(ofString "classes", .array [.object [
    (ofString "fields", .array [.object [
      (ofString "type", .object [(ofString "list", .object [
        (ofString "named", .string (ofString "User"))] .closed)] .closed),
      (ofString "name", .string (ofString "users"))] .closed] .closed),
    (ofString "defaults", .object [
      (ofString "old", .boolean true),
      (ofString "users", .string (ofString "[]"))] .closed),
    (ofString "name", .string (ofString "Team"))] .closed] .closed)] .closed

theorem read_teamJson : Json.Text.read teamJson = ⟨teamNode, false⟩ := by
  cbv

theorem teamNode_holds : teamNode.Holds teamContent.data := by
  have hstring (text : String) : (Node.string (ofString text)).Holds (.string text) :=
    .string (Json.StringText.decoded_ofString text)
  refine .table (.refl _) (.cons rfl .nil) (.cons (.array (.cons ?team .nil)) .nil)
  refine .table (List.reverse_perm _).symm (.cons rfl (.cons rfl (.cons rfl .nil)))
    (.cons (hstring "Team") (.cons ?defaults (.cons (.array (.cons ?field .nil)) .nil)))
  case defaults =>
    exact .table (.swap _ _ _) (.cons rfl (.cons rfl .nil))
      (.cons (hstring "[]") (.cons (.boolean true) .nil))
  case field =>
    refine .table (.swap _ _ _) (.cons rfl (.cons rfl .nil))
      (.cons (hstring "users") (.cons ?_ .nil))
    exact .table (.refl _) (.cons rfl .nil)
      (.cons (.table (.refl _) (.cons rfl .nil) (.cons (hstring "User") .nil)) .nil)

end

section

open Toml (Value)

/-- The entries of `teamToml`. -/
def teamEntries : Toml.Entries :=
  [("classes", .tables [[
    ("name", .string "Team"),
    ("defaults", .table .dotted [("users", .string "[]"), ("old", .boolean true)]),
    ("fields", .tables [[
      ("name", .string "users"),
      ("type", .table .dotted [("list", .table .dotted [("named", .string "User")])])]])]])]

theorem documentOf_teamToml : Toml.documentOf teamToml = some teamEntries := by
  cbv

theorem teamEntries_holds : (Value.table .header teamEntries).Holds teamContent.data := by
  refine .table (.refl _) rfl (.cons (.tables (.cons ?team .nil)) .nil)
  refine .table (.refl _) rfl
    (.cons (.string _) (.cons ?defaults (.cons (.tables (.cons ?field .nil)) .nil)))
  case defaults => exact .table (.refl _) rfl (.cons (.string _) (.cons (.boolean _) .nil))
  case field =>
    refine .table (.refl _) rfl (.cons (.string _) (.cons ?_ .nil))
    exact .table (.refl _) rfl (.cons (.table (.refl _) rfl (.cons (.string _) .nil)) .nil)

end

/-- The document that the content describes: the default that is no text is left out. -/
def team : Document where
  declarations := [{
    name := "Team"
    fields := [⟨"users", .list (.model "User"), false⟩]
    classDefaults := .ofEntries [("users", "[]")] }]

theorem team_same_content :
    documentOf .json teamJson = .ok team ∧ documentOf .toml teamToml = .ok team := by
  have hroom : teamContent.data.Within Json.deepest := by
    simp [teamContent, DocumentContent.data, ClassContent.entries, FieldContent.entries,
      TypeContent.data, Record.presentEntries, Record.optionalEntry, Data.Within, Json.deepest]
  have hteam : teamContent.document = team := by decide +kernel
  rw [← hteam]
  exact documentOf_same_content teamContent read_teamJson teamNode_holds hroom documentOf_teamToml
    teamEntries_holds

end ModelFactory.Descriptor
