import Mathlib.Data.List.Perm.Basic
import ModelFactory.Proofs.Json.Entries

/-!
# Data in JSON

`Node.Holds` says which data a tree stands for: strings that can be decoded, numbers by their value,
arrays in their order, and objects in any order. Where the room for arrays and objects is enough,
the readers take exactly these data from the tree (`Place.Holds.readString`,
`Place.Holds.readAny`, `Place.Holds.readTable`, `Place.Holds.tagged`), and JSON is a format for
lists and records (`format`).
-/

set_option autoImplicit false

namespace ModelFactory.Json

open Record (Data DataFault DataFormat EntryRel Shape)
open Results (exists_mem_of_forall₂)

/-- The tree stands for the data. -/
inductive Node.Holds : Node → Data → Prop where
  | string {text : StringText} {value : String} (h : text.decoded = .ok value) :
    Holds (.string text) (.string value)
  | integer {text : NumberText} {value : Int} (h : text.value = .integer value) :
    Holds (.number text) (.integer value)
  | binary {text : NumberText} {value : Float} (h : text.value = .binary value) :
    Holds (.number text) (.binary value)
  | boolean (value : Bool) : Holds (.boolean value) (.boolean value)
  | array {items : List Node} {datas : List Data} (h : List.Forall₂ Holds items datas) :
    Holds (.array items .closed) (.array datas)
  /-- The entries of the object may stand in another order. -/
  | table {entries ordered : List (StringText × Node)} {datas : List (String × Data)}
    (hperm : entries.Perm ordered)
    (hkeys : List.Forall₂ (fun entry data => entry.1.decoded = .ok data.1) ordered datas)
    (hvalues : List.Forall₂ Holds (ordered.map (·.2)) (datas.map (·.2))) :
    Holds (.object entries .closed) (.table datas)

/-- The tree stands for the data, and there is room for them. -/
structure Place.Holds (place : Place) (data : Data) : Prop where
  node : place.node.Holds data
  room : data.Within place.room

/-! ## Single values -/

namespace StringText

variable {text : StringText} {value : String}

theorem read?_eq_ok (h : text.decoded = .ok value) : text.read? = .ok value := by
  rw [read?, h]
  rfl

theorem readFlaw_eq_none (h : text.decoded = .ok value) : text.readFlaw = none := by
  rw [readFlaw, h]

end StringText

namespace Node

variable {node : Node} {data : Data}

/-- The string of a tree is the text of its data. -/
theorem Holds.string?_eq (h : node.Holds data) : node.string? = data.text? := by
  cases h with
  | string htext =>
    rw [string?, htext]
    rfl
  | _ => rfl

/-- What stands for data has no flaw, if there is room for them. -/
theorem Holds.readFlaw_eq_none (h : node.Holds data) {room : Nat} (hroom : data.Within room) :
    node.readFlaw room = none := by
  induction room generalizing node data with
  | zero =>
    cases h with
    | string htext => exact StringText.readFlaw_eq_none htext
    | integer hvalue => simp only [readFlaw, hvalue]
    | binary hvalue => simp only [readFlaw, hvalue]
    | boolean => rfl
    | array => exact absurd hroom id
    | table => exact absurd hroom id
  | succ room ih =>
    cases h with
    | string htext => exact StringText.readFlaw_eq_none htext
    | integer hvalue => simp only [readFlaw, hvalue]
    | binary hvalue => simp only [readFlaw, hvalue]
    | boolean => rfl
    | @array items datas hitems =>
      have hnone : items.findSome? (readFlaw room) = none := by
        rw [List.findSome?_eq_none_iff]
        intro item hitem
        obtain ⟨data, hdata, hholds⟩ := exists_mem_of_forall₂ hitems hitem
        exact ih hholds (hroom data hdata)
      rw [readFlaw, hnone]
      rfl
    | @table entries ordered datas hperm hkeys hvalues =>
      have hnone : ∀ entry ∈ entries, entry.1.readFlaw.or (readFlaw room entry.2) = none := by
        intro entry hentry
        have hmem := hperm.mem_iff.1 hentry
        obtain ⟨named, -, hkey⟩ := exists_mem_of_forall₂ hkeys hmem
        obtain ⟨data, hdata, hholds⟩ :=
          exists_mem_of_forall₂ hvalues (List.mem_map_of_mem (f := (·.2)) hmem)
        obtain ⟨other, hother, rfl⟩ := List.mem_map.1 hdata
        rw [StringText.readFlaw_eq_none hkey, ih hholds (hroom other hother)]
        rfl
      rw [readFlaw]
      show (entries.findSome? fun entry => entry.1.readFlaw.or (readFlaw room entry.2)).or none =
        none
      rw [List.findSome?_eq_none_iff.2 hnone]
      rfl

end Node

namespace Place

variable {place : Place} {data : Data}

theorem Holds.readString {value : String} (h : place.Holds (.string value)) :
    place.readString = .ok value := by
  obtain ⟨node, room⟩ := place
  cases h.node with
  | string htext => exact StringText.read?_eq_ok htext

/-- A string is there, so it is not missing. -/
theorem Holds.readOptionalString {value : String} (h : place.Holds (.string value)) :
    place.readOptionalString = .ok (some value) := by
  have hread := h.readString
  obtain ⟨node, room⟩ := place
  cases h.node with
  | string htext =>
    rw [Place.readOptionalString, hread]
    rfl

theorem Holds.readBoolean {value : Bool} (h : place.Holds (.boolean value)) :
    place.readBoolean = .ok value := by
  obtain ⟨node, room⟩ := place
  cases h.node with
  | boolean => rfl

/-- Any data can be read, and count if they are text. -/
theorem Holds.readAny (h : place.Holds data) : place.readAny = .ok data.text? := by
  rw [Place.readAny, h.node.readFlaw_eq_none h.room, h.node.string?_eq]
  rfl

/-! ## Lists and tables -/

/-- Inside an array there is less room. -/
theorem Holds.items {datas : List Data} (h : place.Holds (.array datas)) :
    ∃ items room, place = ⟨.array items .closed, room + 1⟩ ∧
      List.Forall₂ (fun item data => (Place.mk item room).Holds data) items datas := by
  obtain ⟨node, room⟩ := place
  obtain ⟨hnode, hroom⟩ := h
  cases room with
  | zero => exact absurd hroom id
  | succ room =>
    cases hnode with
    | @array items _ hitems =>
      refine ⟨items, room, rfl, ?_⟩
      have hwithin : ∀ data ∈ datas, data.Within room := hroom
      clear hroom
      induction hitems with
      | nil => exact .nil
      | cons hitem hrest ih =>
        refine .cons ⟨hitem, hwithin _ List.mem_cons_self⟩ (ih ?_)
        exact fun data hdata => hwithin data (List.mem_cons_of_mem _ hdata)

/-- Inside an object there is less room, and each entry has its key. -/
theorem Holds.entries {datas : List (String × Data)} (h : place.Holds (.table datas)) :
    ∃ entries ordered room, place = ⟨.object entries .closed, room + 1⟩ ∧ entries.Perm ordered ∧
      List.Forall₂ (fun entry data =>
        entry.1.decoded = .ok data.1 ∧ (Place.mk entry.2 room).Holds data.2) ordered datas := by
  obtain ⟨node, room⟩ := place
  obtain ⟨hnode, hroom⟩ := h
  cases room with
  | zero => exact absurd hroom id
  | succ room =>
    cases hnode with
    | @table entries ordered _ hperm hkeys hvalues =>
      refine ⟨entries, ordered, room, rfl, hperm, ?_⟩
      have hwithin : ∀ data ∈ datas, data.2.Within room := hroom
      clear hroom hperm
      induction hkeys with
      | nil => exact .nil
      | cons hkey hrest ih =>
        rw [List.map_cons, List.map_cons, List.forall₂_cons] at hvalues
        refine .cons ⟨hkey, hvalues.1, hwithin _ List.mem_cons_self⟩ (ih hvalues.2 ?_)
        exact fun data hdata => hwithin data (List.mem_cons_of_mem _ hdata)

theorem readList_array {Value : Type} (read : Place → Except Fault Value) (items : List Node)
    (room : Nat) :
    readList read ⟨.array items .closed, room + 1⟩ =
      items.mapM fun item => read ⟨item, room⟩ := by
  simp only [readList, opened, bind, Except.bind]
  cases items.mapM fun item => read ⟨item, room⟩ with
  | error fault => rfl
  | ok values => rfl

theorem Holds.readList_eq {datas : List Data} (h : place.Holds (.array datas)) :
    ∃ places, List.Forall₂ Holds places datas ∧
      ∀ {Value : Type} (read : Place → Except Fault Value),
        readList read place = places.mapM read := by
  obtain ⟨items, room, rfl, hitems⟩ := h.items
  refine ⟨items.map fun item => ⟨item, room⟩, List.forall₂_map_left_iff.2 hitems, ?_⟩
  intro Value read
  rw [readList_array]
  exact List.mapM_map.symm

/-- The entries of a table are read, in the order in which they stand. -/
theorem Holds.readTable {datas : List (String × Data)} (h : place.Holds (.table datas)) :
    ∃ given, place.readTable = .ok given ∧
      given.Perm (datas.map fun entry => (entry.1, entry.2.text?)) := by
  obtain ⟨entries, ordered, room, rfl, hperm, hentries⟩ := h.entries
  have hread : List.Forall₂ (fun (entry : StringText × Node) given =>
      (do return (← entry.1.read?, ← Place.readAny ⟨entry.2, room⟩) :
        Except Fault (String × Option String)) = .ok given) ordered
      (datas.map fun entry => (entry.1, entry.2.text?)) := by
    rw [List.forall₂_map_right_iff]
    refine hentries.imp fun entry data hentry => ?_
    rw [StringText.read?_eq_ok hentry.1, hentry.2.readAny]
    rfl
  obtain ⟨given, hgiven, hordered⟩ := List.perm_comp_forall₂ hperm hread
  rw [← Results.mapM_eq_ok_iff] at hgiven
  refine ⟨given, ?_, hordered⟩
  simp only [Place.readTable, opened, bind, Except.bind] at hgiven ⊢
  rw [hgiven]
  rfl

end Place

/-! ## Records -/

namespace Place

theorem Holds.readRecord_eq {place : Place} {datas : List (String × Data)}
    (h : place.Holds (.table datas)) (hwords : (datas.map (·.1)).Nodup) :
    ∃ named, List.Forall₂ (EntryRel Holds) named datas ∧
      ∀ {Draft Result : Type} (shape : Shape Place Fault Draft Result) {draft : Draft}
        {result : Result}, shape.Independent → (∀ entry ∈ datas, (shape.slot? entry.1).isSome) →
        named.foldlM shape.take shape.blank = .ok draft → shape.finish draft = .ok result →
        readRecord shape place = .ok result := by
  obtain ⟨entries, ordered, room, rfl, hperm, hentries⟩ := h.entries
  obtain ⟨named, hnames, hholds⟩ : ∃ named, List.Forall₂ (Names room) ordered named ∧
      List.Forall₂ (EntryRel Holds) named datas := by
    clear h hwords hperm
    induction hentries with
    | nil => exact ⟨[], .nil, .nil⟩
    | @cons entry data ordered datas hfirst hrest ih =>
      obtain ⟨named, hnames, hholds⟩ := ih
      exact ⟨(data.1, ⟨entry.2, room⟩) :: named, .cons ⟨hfirst.1, rfl⟩ hnames,
        .cons ⟨rfl, hfirst.2⟩ hholds⟩
  refine ⟨named, hholds, ?_⟩
  intro Draft Result shape draft result hshape hknown hdraft hresult
  -- The entries stand in the object in another order, and so do their places.
  obtain ⟨stood, hstood, horder⟩ := List.perm_comp_forall₂ hperm hnames
  have htakes : shape.Takes stood draft :=
    (Shape.takes_of_forall₂ hholds hwords hknown hdraft).perm hshape horder.symm
  have hpass : ∀ entry ∈ stood, passable shape.words entry := by
    intro entry hentry
    obtain ⟨data, hdata, hrel⟩ := exists_mem_of_forall₂ hholds (horder.mem_iff.1 hentry)
    obtain ⟨slot, hslot⟩ := Option.isSome_iff_exists.1 (hknown data hdata)
    obtain ⟨hmem, hword⟩ := hshape.word_eq hslot
    simp [passable, hrel.1, ← hword, Shape.words, List.mem_map_of_mem hmem]
  exact (readRecord_eq_ok_iff hshape).2
    ⟨stood, draft, entries?_object_eq_some_iff.2 ⟨rfl, hstood, hpass⟩, htakes, hresult⟩

end Place

/-! ## Tagged values -/

/-- A table with one entry is a tag with its value. -/
theorem Place.Holds.tagged {place : Place} {word : String} {data : Data}
    (h : place.Holds (.table [(word, data)])) :
    ∃ inner, inner.Holds data ∧ inner.room < place.room ∧
      ∀ {Tag Value : Type} (readTag : String → Except DataFault Tag)
        (readBody : Tag → TagBody → Except Fault Value) (tag : Tag),
        readTag word = .ok tag →
          readTagged readTag readBody place = readBody tag (.value inner) := by
  obtain ⟨entries, ordered, room, rfl, hperm, hentries⟩ := h.entries
  obtain ⟨entry, rest, ⟨hkey, hvalue⟩, hrest, rfl⟩ := List.forall₂_cons_right_iff.1 hentries
  cases hrest
  obtain rfl := List.perm_singleton.1 hperm
  refine ⟨⟨entry.2, room⟩, hvalue, Nat.lt_succ_self room, ?_⟩
  intro Tag Value readTag readBody tag htag
  obtain ⟨key, value⟩ := entry
  simp only [readTagged, opened, StringText.read?_eq_ok hkey, htag, Except.mapError, bind,
    Except.bind]
  cases readBody tag (.value ⟨value, room⟩) with
  | error fault => rfl
  | ok result => rfl

/-- A word can be a tag that stands alone. -/
theorem Place.Holds.readTagged_bare {place : Place} {word : String}
    (h : place.Holds (.string word)) {Tag Value : Type} {readTag : String → Except DataFault Tag}
    (readBody : Tag → TagBody → Except Fault Value) {tag : Tag} (htag : readTag word = .ok tag) :
    readTagged readTag readBody place = readBody tag .bare := by
  obtain ⟨node, room⟩ := place
  cases h.node with
  | string htext =>
    simp only [readTagged, StringText.read?_eq_ok htext, htag, Except.mapError, bind, Except.bind]

/-- JSON as a format for data. -/
def format : DataFormat Place Fault where
  Holds := Place.Holds
  readList := Place.readList
  readRecord := Place.readRecord
  readList_eq h := h.readList_eq
  readRecord_eq h hwords := h.readRecord_eq hwords

end ModelFactory.Json
