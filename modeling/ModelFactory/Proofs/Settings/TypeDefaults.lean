import ModelFactory.Proofs.Overrides
import ModelFactory.Proofs.Settings.Slots
import ModelFactory.Proofs.Toml.Keys

/-!
# Type defaults in a configuration

`ProjectConfig.typeDefaultOf?` says where a text gives the default of a type: in the table that
stands under one of two words in the section of the program, if the value there is a string. A
configuration that is read has just these type defaults (`configOfToml_typeDefaults`). The two words
name one slot of the section, so a text that uses both is refused (`configOfToml_refuses_both`).
-/

set_option autoImplicit false

namespace ModelFactory

open Record (DataFault Slot)
open Results (exists_of_bind_eq_ok)
open Toml (Entries Value)

namespace ProjectConfig

/-! ## Where a text gives a type default -/

/-- What a section has for the type defaults. A section may be a list, where they stand fourth. -/
def typeDefaultsIn? (settings : Value) : Option Value :=
  match settings.items? with
  | some items => items[3]?
  | none => do
    let entries ← settings.entries?
    (entries.lookup "type_defaults").or (entries.lookup "defaults")

/-- The string that a text has for a type in its table of type defaults. A value of another sort is
as good as none. A date in place of the table is a table with one entry, as it is wherever a table
is read. -/
def typeDefaultOf? (text type : String) : Option String := do
  let root ← Toml.documentOf text
  let settings ← root.lookup sectionWord
  let table ← typeDefaultsIn? settings
  let entries ← table.entries?
  let value ← entries.lookup type
  value.string?

/-- The section of a text has entries under both words. -/
def usesBothWords (text : String) : Bool :=
  Option.any (fun entries : Entries =>
      (entries.lookup "type_defaults").isSome && (entries.lookup "defaults").isSome) <| do
    let root ← Toml.documentOf text
    let settings ← root.lookup sectionWord
    settings.entries?

/-! ## Reading a section -/

/-- The slot of the type defaults has two words. -/
theorem isNamed_typeDefaultsSlot_iff {word : String} :
    typeDefaultsSlot.isNamed word = true ↔ word = "type_defaults" ∨ word = "defaults" := by
  simp [Slot.isNamed, typeDefaultsSlot, Slot.ofReader]

/-- Entries of other words do not matter for a word of the slot. -/
theorem lookup_filter {slot : Slot Value DataFault ProjectConfig} {word : String}
    (hword : slot.isNamed word = true) (entries : Entries) :
    (entries.filter (slot.isNamed ·.1)).lookup word = entries.lookup word := by
  induction entries with
  | nil => rfl
  | cons entry entries ih =>
    obtain ⟨key, value⟩ := entry
    cases hkey : slot.isNamed key with
    | true => simp only [List.filter_cons, hkey, if_true, List.lookup_cons, ih]
    | false =>
      have hne : (word == key) = false := by
        rw [beq_eq_false_iff_ne]
        rintro rfl
        rw [hword] at hkey
        cases hkey
      simp only [List.filter_cons, hkey, Bool.false_eq_true, if_false, List.lookup_cons, hne, ih]

/-- In a section that is read, at most one entry stands for the type defaults. -/
theorem entries_of_readRecord {settings : Value} {entries : Entries} {config : ProjectConfig}
    (hentries : settings.entries? = some entries) (h : settings.readRecord shape = .ok config) :
    entries.filter (typeDefaultsSlot.isNamed ·.1) = [] ∨
      ∃ entry, entries.filter (typeDefaultsSlot.isNamed ·.1) = [entry] ∧
        (entry.1 = "type_defaults" ∨ entry.1 = "defaults") := by
  have hitems : settings.items? = none := by
    cases settings with
    | table form entries => rfl
    | moment text => rfl
    | _ => cases hentries
  simp only [Value.readRecord, hitems, hentries] at h
  obtain ⟨⟨draft, words⟩, hdraft, -⟩ := exists_of_bind_eq_ok h
  rcases typeDefaultsSlot_isSlotOf.part_of_foldlM hdraft with ⟨hnone, -⟩ | ⟨entry, hone, -, -⟩
  · exact .inl hnone
  · have hmem : entry ∈ entries.filter (typeDefaultsSlot.isNamed ·.1) := by
      rw [hone]
      exact List.mem_singleton_self entry
    exact .inr ⟨entry, hone, isNamed_typeDefaultsSlot_iff.1 (List.mem_filter.1 hmem).2⟩

/-- In a section that is read, what it has for the type defaults stands at their slot. -/
theorem typeDefaultsIn?_eq {settings : Value} {config : ProjectConfig}
    (h : settings.readRecord shape = .ok config) :
    typeDefaultsIn? settings = standsAt? 3 typeDefaultsSlot settings := by
  unfold typeDefaultsIn? standsAt?
  cases settings.items? with
  | some items => rfl
  | none =>
    cases hentries : settings.entries? with
    | none => rfl
    | some entries =>
      have hfind : entries.find? (typeDefaultsSlot.isNamed ·.1) =
          (entries.filter (typeDefaultsSlot.isNamed ·.1)).head? := List.head?_filter.symm
      have hword : typeDefaultsSlot.isNamed "type_defaults" = true := by decide
      have hother : typeDefaultsSlot.isNamed "defaults" = true := by decide
      show (entries.lookup "type_defaults").or (entries.lookup "defaults") =
        (entries.find? (typeDefaultsSlot.isNamed ·.1)).bind fun entry => some entry.2
      rw [hfind, ← lookup_filter hword, ← lookup_filter hother]
      rcases entries_of_readRecord hentries h with hnone | ⟨⟨word, table⟩, hone, rfl | rfl⟩
      · rw [hnone]
        rfl
      · rw [hone]
        rfl
      · rw [hone]
        rfl

/-- A section has its type defaults from what stands for them in it, if anything does. -/
theorem typeDefaults_of_readRecord {settings : Value} {config : ProjectConfig}
    (h : settings.readRecord shape = .ok config) :
    (typeDefaultsIn? settings = none ∧ config.typeDefaults = ∅) ∨
      ∃ table, typeDefaultsIn? settings = some table ∧
        readTypeDefaults table = .ok config.typeDefaults := by
  rw [typeDefaultsIn?_eq h]
  exact typeDefaultsSlot_isSlotOf.part_of_readRecord h

/-! ## Reading a text -/

/-- A table of type defaults has the strings among its values, if its keys differ. -/
theorem getElem?_readTypeDefaults {table : Value} {overrides : OverrideTable}
    (hkeys : table.KeysDiffer) (h : readTypeDefaults table = .ok overrides) (type : String) :
    overrides[type]? = (table.entries?.bind (·.lookup type)).bind (·.string?) := by
  unfold readTypeDefaults Value.readTable at h
  cases hentries : table.entries? with
  | none => rw [hentries] at h; cases h
  | some entries =>
    rw [hentries] at h
    cases h
    have hnodup : (entries.map (·.1)).Nodup := (hkeys.entries hentries).keys
    dsimp only
    rw [List.filterMap_map]
    show (OverrideTable.ofEntries (entries.filterMap fun entry =>
      entry.2.string?.map fun text => (entry.1, text)))[type]? =
        (entries.lookup type).bind (·.string?)
    cases hlookup : entries.lookup type with
    | none =>
      apply OverrideTable.getElem?_ofEntries_eq_none
      intro given hgiven
      obtain ⟨entry, hentry, htext⟩ := List.mem_filterMap.1 hgiven
      obtain ⟨text, -, rfl⟩ := Option.map_eq_some_iff.1 htext
      rintro rfl
      simpa using List.lookup_eq_none_iff.1 hlookup entry hentry
    | some value =>
      exact OverrideTable.getElem?_ofEntries_filterMap (·.1) (·.2.string?) hnodup
        (Entries.mem_of_lookup hlookup)

/-- What a section has for the type defaults is part of the section. -/
theorem keysDiffer_typeDefaultsIn? {settings table : Value} (h : settings.KeysDiffer)
    (htable : typeDefaultsIn? settings = some table) : table.KeysDiffer := by
  unfold typeDefaultsIn? at htable
  split at htable
  · rename_i items hitems
    exact h.items hitems table (List.mem_of_getElem? htable)
  · obtain ⟨entries, hentries, htable⟩ := Option.bind_eq_some_iff.1 htable
    rcases Option.or_eq_some_iff.1 htable with hlookup | ⟨-, hlookup⟩
    · exact (h.entries hentries).of_lookup hlookup
    · exact (h.entries hentries).of_lookup hlookup

end ProjectConfig

open ProjectConfig

/-- A configuration that is read has for every type the default that its text gives. -/
theorem configOfToml_typeDefaults {text : String} {config : ProjectConfig}
    (h : configOfToml text = .ok config) (type : String) :
    config.typeDefaults[type]? = typeDefaultOf? text type := by
  obtain ⟨root, hroot, hread⟩ := exists_root_of_configOfToml h
  simp only [typeDefaultOf?, hroot, bind, Option.bind]
  unfold ofEntries at hread
  cases hsettings : root.lookup sectionWord with
  | none =>
    rw [hsettings] at hread
    cases hread
    rfl
  | some settings =>
    rw [hsettings] at hread
    have hkeys := (Toml.documentOf_keysDiffer hroot).of_lookup hsettings
    rcases typeDefaults_of_readRecord hread with ⟨hnone, hempty⟩ | ⟨table, htable, hgiven⟩
    · simp only [hnone, hempty]
      rfl
    · simp only [htable]
      rw [getElem?_readTypeDefaults (keysDiffer_typeDefaultsIn? hkeys htable) hgiven]
      cases table.entries? with
      | none => rfl
      | some entries => rfl

/-- A text that uses both words for the type defaults is refused. -/
theorem configOfToml_refuses_both {text : String} (h : usesBothWords text = true) :
    ∃ fault, configOfToml text = .error fault := by
  cases hconfig : configOfToml text with
  | error fault => exact ⟨fault, rfl⟩
  | ok config =>
    obtain ⟨root, hroot, hread⟩ := exists_root_of_configOfToml hconfig
    unfold usesBothWords at h
    rw [hroot] at h
    cases hsettings : root.lookup sectionWord with
    | none => simp [hsettings, bind, Option.bind] at h
    | some settings =>
      cases hentries : settings.entries? with
      | none => simp [hsettings, hentries, bind, Option.bind] at h
      | some entries =>
        simp only [hsettings, hentries, bind, Option.bind, Option.any_some, Bool.and_eq_true] at h
        obtain ⟨hword, hother⟩ := h
        simp only [ofEntries, hsettings] at hread
        -- At most one entry was taken in for the two words, and it cannot be found under both.
        rw [← lookup_filter (isNamed_typeDefaultsSlot_iff.2 (.inl rfl))] at hword
        rw [← lookup_filter (isNamed_typeDefaultsSlot_iff.2 (.inr rfl))] at hother
        rcases entries_of_readRecord hentries hread with hnone | ⟨entry, hone, -⟩
        · rw [hnone] at hword
          cases hword
        · have hfound {word : String} (h : ([entry].lookup word).isSome = true) :
              word = entry.1 := by
            by_contra hne
            rw [List.lookup_cons, beq_false_of_ne hne] at h
            cases h
          rw [hone] at hword hother
          exact absurd ((hfound hword).trans (hfound hother).symm) (by decide)

end ModelFactory
