import Mathlib.Data.List.Perm.Basic
import ModelFactory.Proofs.Toml.Entries

/-!
# Data in TOML

`Value.Holds` says which data a value stands for: an array stands for a list, as do tables that
share one header, and a table stands for a table however it came about, its entries in any order. A
date stands for no data. The readers take exactly these data, and TOML is a format for lists and
records (`format`).
-/

set_option autoImplicit false

namespace ModelFactory.Toml

open Record (Data DataFault DataFormat EntryRel Shape)
open Results (map_eq_map_of_forall₂)

/-- The value stands for the data. -/
inductive Value.Holds : Value → Data → Prop where
  | string (text : String) : Holds (.string text) (.string text)
  | integer (value : Int) : Holds (.integer value) (.integer value)
  | binary (value : Float) : Holds (.binary value) (.binary value)
  | boolean (value : Bool) : Holds (.boolean value) (.boolean value)
  | array {items : List Value} {datas : List Data} (h : List.Forall₂ Holds items datas) :
    Holds (.array items) (.array datas)
  | tables {rows : List Entries} {datas : List Data}
    (h : List.Forall₂ Holds (rows.map (.table .header)) datas) :
    Holds (.tables rows) (.array datas)
  /-- The entries of the table may stand in another order. -/
  | table {form : TableForm} {entries ordered : Entries} {datas : List (String × Data)}
    (hperm : entries.Perm ordered) (hkeys : ordered.map (·.1) = datas.map (·.1))
    (hvalues : List.Forall₂ Holds (ordered.map (·.2)) (datas.map (·.2))) :
    Holds (.table form entries) (.table datas)

namespace Value

variable {value : Value} {data : Data}

/-! ## Single values -/

theorem Holds.readString {text : String} (h : value.Holds (.string text)) :
    value.readString = .ok text := by
  cases h with
  | string => rfl

theorem Holds.readBoolean {truth : Bool} (h : value.Holds (.boolean truth)) :
    value.readBoolean = .ok truth := by
  cases h with
  | boolean => rfl

/-- The string of a value is the text of its data. -/
theorem Holds.string?_eq (h : value.Holds data) : value.string? = data.text? := by
  cases h with
  | _ => rfl

/-! ## Lists and tables -/

/-- The items of a list stand for the items of the data. -/
theorem Holds.items {datas : List Data} (h : value.Holds (.array datas)) :
    ∃ items, value.items? = some items ∧ List.Forall₂ Holds items datas := by
  cases h with
  | array hitems => exact ⟨_, rfl, hitems⟩
  | tables hrows => exact ⟨_, rfl, hrows⟩

theorem Holds.readList_eq {datas : List Data} (h : value.Holds (.array datas)) :
    ∃ values, List.Forall₂ Holds values datas ∧
      ∀ {Item : Type} (read : Value → Except DataFault Item),
        readList read value = values.mapM read := by
  obtain ⟨items, hitems, hholds⟩ := h.items
  refine ⟨items, hholds, fun read => ?_⟩
  rw [readList, hitems]

/-- The entries of a table stand for the entries of the data, in some order. -/
theorem Holds.entries {datas : List (String × Data)} (h : value.Holds (.table datas)) :
    ∃ form entries ordered, value = .table form entries ∧ entries.Perm ordered ∧
      List.Forall₂ (EntryRel Holds) ordered datas := by
  cases h with
  | @table form entries ordered _ hperm hkeys hvalues =>
    refine ⟨form, entries, ordered, rfl, hperm, ?_⟩
    clear hperm
    induction ordered generalizing datas with
    | nil =>
      rw [List.map_eq_nil_iff.1 hkeys.symm]
      exact .nil
    | cons entry ordered ih =>
      cases datas with
      | nil => cases hkeys
      | cons data datas =>
        rw [List.map_cons, List.map_cons, List.cons.injEq] at hkeys
        rw [List.map_cons, List.map_cons, List.forall₂_cons] at hvalues
        exact .cons ⟨hkeys.1, hvalues.1⟩ (ih hkeys.2 hvalues.2)

/-- The entries of a table are read, in the order in which they stand. -/
theorem Holds.readTable {datas : List (String × Data)} (h : value.Holds (.table datas)) :
    ∃ given, value.readTable = .ok given ∧
      given.Perm (datas.map fun entry => (entry.1, entry.2.text?)) := by
  obtain ⟨form, entries, ordered, rfl, hperm, hentries⟩ := h.entries
  refine ⟨_, rfl, (hperm.map _).trans (.of_eq (map_eq_map_of_forall₂ ?_))⟩
  refine hentries.imp fun entry data hentry => ?_
  show (entry.1, entry.2.string?) = (data.1, data.2.text?)
  rw [hentry.1, hentry.2.string?_eq]

/-! ## Records -/

theorem Holds.readRecord_eq {datas : List (String × Data)} (h : value.Holds (.table datas))
    (hwords : (datas.map (·.1)).Nodup) :
    ∃ named, List.Forall₂ (EntryRel Holds) named datas ∧
      ∀ {Draft Result : Type} (shape : Shape Value DataFault Draft Result) {draft : Draft}
        {result : Result}, shape.Independent → (∀ entry ∈ datas, (shape.slot? entry.1).isSome) →
        named.foldlM shape.take shape.blank = .ok draft → shape.finish draft = .ok result →
        readRecord shape value = .ok result := by
  obtain ⟨form, entries, ordered, rfl, hperm, hentries⟩ := h.entries
  refine ⟨ordered, hentries, ?_⟩
  intro Draft Result shape draft result hshape hknown hdraft hresult
  have htakes : shape.Takes entries draft :=
    (Shape.takes_of_forall₂ hentries hwords hknown hdraft).perm hshape hperm.symm
  exact (readRecord_eq_ok_iff hshape).2 ⟨entries, draft, rfl, htakes, hresult⟩

/-- Where every entry has a slot, it makes no difference that others are not allowed. -/
theorem Holds.readStrictRecord_eq {Draft Result : Type}
    {shape : Shape Value DataFault Draft Result} (hshape : shape.Independent)
    {datas : List (String × Data)} (h : value.Holds (.table datas))
    (hwords : ∀ word ∈ datas.map (·.1), word ∈ shape.words) :
    readStrictRecord shape value = readRecord shape value := by
  obtain ⟨form, entries, ordered, rfl, hperm, hentries⟩ := h.entries
  have hsame : ordered.map (·.1) = datas.map (·.1) :=
    map_eq_map_of_forall₂ (hentries.imp fun _ _ h => h.1)
  have hunknown : (entries.map (·.1)).filter (fun key => (shape.slot? key).isNone) = [] := by
    rw [List.filter_eq_nil_iff]
    intro key hkey
    rw [(hperm.map _).mem_iff, hsame] at hkey
    obtain ⟨slot, hslot, rfl⟩ := List.mem_map.1 (hwords key hkey)
    rw [hshape.slot?_word hslot]
    exact Bool.false_ne_true
  simp only [readStrictRecord, hunknown, List.isEmpty_nil, if_true]

/-! ## Tagged values -/

/-- A table with one entry is a tag with its value. -/
theorem Holds.tagged {word : String} {data : Data} (h : value.Holds (.table [(word, data)])) :
    ∃ form inner, value = .table form [(word, inner)] ∧ inner.Holds data := by
  obtain ⟨form, entries, ordered, rfl, hperm, hentries⟩ := h.entries
  obtain ⟨entry, rest, ⟨hword, hvalue⟩, hrest, rfl⟩ := List.forall₂_cons_right_iff.1 hentries
  cases hrest
  obtain rfl := List.perm_singleton.1 hperm
  obtain ⟨key, inner⟩ := entry
  obtain rfl : key = word := hword
  exact ⟨form, inner, rfl, hvalue⟩

end Value

/-- TOML as a format for data. -/
def format : DataFormat Value DataFault where
  Holds := Value.Holds
  readList := Value.readList
  readRecord := Value.readRecord
  readList_eq h := h.readList_eq
  readRecord_eq h hwords := h.readRecord_eq hwords

end ModelFactory.Toml
