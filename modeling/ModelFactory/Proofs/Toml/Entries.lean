import ModelFactory.Proofs.Record.Entries
import ModelFactory.Toml.Values

/-!
# Entries and items in TOML

`Value.entriesOf?` are the entries that a record finds in a value: those of a table, or the elements
of a sequence by their positions. A record is read from just these entries
(`Value.readRecord_eq_ok_iff`); entries that it does not know and elements that it has no slot for do
not count.
-/

set_option autoImplicit false

namespace ModelFactory.Toml

open Record (DataFault EntryFormat Shape)
open Results (bind_eq_ok_iff mapError_eq_ok_iff)

namespace Value

/-! ## Single values -/

/-- The truth value that the value is, if it is one. -/
def truth? : Value → Option Bool
  | boolean truth => some truth
  | _ => none

theorem string?_of_readString {value : Value} {text : String} (h : value.readString = .ok text) :
    value.string? = some text := by
  cases value with
  | string written =>
    cases h
    rfl
  | _ => cases h

theorem truth?_of_readBoolean {value : Value} {truth : Bool} (h : value.readBoolean = .ok truth) :
    value.truth? = some truth := by
  cases value with
  | boolean written =>
    cases h
    rfl
  | _ => cases h

/-! ## Records and lists -/

/-- The entries of a record with these words: those of a table, or the elements of a sequence. -/
def entriesOf? (words : List String) (value : Value) : Option (List (String × Value)) :=
  match value.items? with
  | some items => some (words.zip items)
  | none => value.entries?

section Records

variable {Draft Result : Type} {shape : Shape Value DataFault Draft Result} {entries : Entries}

/-- What the entries of a table make of a record that is being read. -/
theorem exists_foldlM_readEntryOf_iff (hshape : shape.Independent) {draft final : Draft}
    {used : List String} :
    (∃ words, entries.foldlM (readEntryOf shape) (draft, used) = .ok (final, words)) ↔
      shape.TakesAfter used draft entries final := by
  induction entries generalizing draft used with
  | nil =>
    rw [Shape.takesAfter_nil_iff]
    constructor
    · rintro ⟨words, h⟩
      cases h
      rfl
    · rintro rfl
      exact ⟨used, rfl⟩
  | cons entry entries ih =>
    obtain ⟨word, value⟩ := entry
    simp only [List.foldlM_cons, bind_eq_ok_iff]
    cases hslot : shape.slot? word with
    | none =>
      have hskip : readEntryOf shape (draft, used) (word, value) = .ok (draft, used) := by
        simp only [readEntryOf, hslot]
      rw [hskip, Shape.takesAfter_cons_unknown_iff hslot, ← ih]
      constructor
      · rintro ⟨words, middle, heq, hrest⟩
        cases heq
        exact ⟨words, hrest⟩
      · rintro ⟨words, hrest⟩
        exact ⟨words, _, rfl, hrest⟩
    | some slot =>
      obtain ⟨-, rfl⟩ := hshape.word_eq hslot
      rw [Shape.takesAfter_cons_iff hslot]
      simp only [readEntryOf, hslot, List.contains_iff_mem]
      by_cases hused : slot.word ∈ used
      · simp [hused]
      · simp only [hused, if_false, not_false_iff, true_and]
        cases hfill : slot.fill value with
        | error fault => simp [Except.map]
        | ok change =>
          simp only [Except.map, Except.ok.injEq]
          constructor
          · rintro ⟨words, middle, rfl, hrest⟩
            exact ⟨change, rfl, ih.1 ⟨words, hrest⟩⟩
          · rintro ⟨change', rfl, htakes⟩
            obtain ⟨words, hrest⟩ := ih.2 htakes
            exact ⟨words, _, rfl, hrest⟩

/-- A record is read from the entries of a table. -/
theorem readNamed_eq_ok_iff (hshape : shape.Independent) {result : Result} :
    readNamed shape entries = .ok result ↔
      ∃ draft, shape.Takes entries draft ∧ shape.finish draft = .ok result := by
  simp only [readNamed, bind_eq_ok_iff, Shape.finishNamed, mapError_eq_ok_iff, Shape.Takes,
    ← exists_foldlM_readEntryOf_iff hshape]
  constructor
  · rintro ⟨⟨draft, words⟩, hfold, hfinish⟩
    exact ⟨draft, ⟨words, hfold⟩, hfinish⟩
  · rintro ⟨draft, ⟨words, hfold⟩, hfinish⟩
    exact ⟨(draft, words), hfold, hfinish⟩

/-- A record is read from the entries that it finds. -/
theorem readRecord_eq_ok_iff (hshape : shape.Independent) {value : Value} {result : Result} :
    readRecord shape value = .ok result ↔
      ∃ named draft, entriesOf? shape.words value = some named ∧ shape.Takes named draft ∧
        shape.finish draft = .ok result := by
  unfold readRecord entriesOf?
  cases hitems : value.items? with
  | some items =>
    simp only [readListed, bind_eq_ok_iff, Shape.finishListed, mapError_eq_ok_iff,
      Option.some.injEq, exists_and_left, exists_eq_left', Shape.takes_zip_iff hshape]
  | none =>
    cases hentries : value.entries? with
    | some entries =>
      simp only [readNamed_eq_ok_iff hshape, Option.some.injEq, exists_and_left, exists_eq_left']
    | none => simp

end Records

/-- A list is read item by item. -/
theorem readList_eq_ok_iff {Item : Type} {read : Value → Except DataFault Item} {value : Value}
    {values : List Item} :
    readList read value = .ok values ↔
      ∃ items, value.items? = some items ∧ items.mapM read = .ok values := by
  unfold readList
  cases value.items? with
  | some items => simp
  | none => simp

/-- TOML tells entries and items apart from reading them. -/
def entryFormat : EntryFormat Value DataFault where
  entries? := entriesOf?
  items? := items?
  readRecord := readRecord
  readList := readList
  readRecord_eq_ok_iff hshape := readRecord_eq_ok_iff hshape
  readList_eq_ok_iff := readList_eq_ok_iff

end Value

end ModelFactory.Toml
