import ModelFactory.Proofs.Toml.Entries
import ModelFactory.Settings.FromToml

/-!
# The slots of a configuration

The section of a text that configures the program is a table, in which a slot is found by its words,
or a list, in which it is found by its position (`ProjectConfig.standsAt?`). Each part of a
configuration comes from one slot (`ProjectConfig.IsSlotOf`). So it is read from what stands at that
slot, and is the default where nothing does (`ProjectConfig.IsSlotOf.part_of_readRecord`).
-/

set_option autoImplicit false

namespace ModelFactory.ProjectConfig

open Record (DataFault Slot)
open Results (exists_of_bind_eq_ok)
open Toml (Entries Value)

/-- What a section has for the slot with this position. -/
def standsAt? (index : Nat) (slot : Slot Value DataFault ProjectConfig) (settings : Value) :
    Option Value :=
  match settings.items? with
  | some items => items[index]?
  | none => do
    let entries ← settings.entries?
    let entry ← entries.find? (slot.isNamed ·.1)
    return entry.2

section Slots

variable {Part : Type} {part : ProjectConfig → Part} {read : Value → Except DataFault Part}
  {index : Nat} {slot other : Slot Value DataFault ProjectConfig}

/-- The slot leaves the part as it is. -/
def Keeps (part : ProjectConfig → Part) (slot : Slot Value DataFault ProjectConfig) : Prop :=
  ∀ (value : Value) (change : ProjectConfig → ProjectConfig), slot.fill value = .ok change →
    ∀ config, part (change config) = part config

/-- The part comes from the slot at the position alone, as it is read from the value there. -/
structure IsSlotOf (part : ProjectConfig → Part) (read : Value → Except DataFault Part)
    (index : Nat) (slot : Slot Value DataFault ProjectConfig) : Prop where
  reads : ∀ (value : Value) (change : ProjectConfig → ProjectConfig), slot.fill value = .ok change →
    ∀ config, read value = .ok (part (change config))
  alone : ∃ before after, shape.slots = before ++ slot :: after ∧ before.length = index ∧
    ∀ other ∈ before ++ after, Keeps part other

/-- No word names two slots. -/
theorem named_apart : shape.slots.Pairwise fun slot other =>
    ∀ word, slot.isNamed word = true → other.isNamed word = false := by
  simp [shape, Slot.isNamed, Slot.ofReader]

namespace IsSlotOf

/-- A word of the slot names no other one. -/
theorem slot?_eq (h : IsSlotOf part read index slot) {word : String}
    (hword : slot.isNamed word = true) : shape.slot? word = some slot := by
  obtain ⟨before, after, hslots, -⟩ := h.alone
  have hapart := named_apart
  rw [hslots, List.pairwise_append] at hapart
  have hbefore : before.find? (·.isNamed word) = none := by
    rw [List.find?_eq_none]
    intro other hother hnamed
    rw [hapart.2.2 other hother slot List.mem_cons_self word hnamed] at hword
    cases hword
  rw [Record.Shape.slot?, hslots, List.find?_append, hbefore, Option.none_or]
  simp only [List.find?_cons, hword]

/-- A slot of another word leaves the part as it is. -/
theorem keeps (h : IsSlotOf part read index slot) {word : String}
    (hword : slot.isNamed word = false) (hother : shape.slot? word = some other) :
    Keeps part other := by
  obtain ⟨before, after, hslots, -, hothers⟩ := h.alone
  have hfind : shape.slots.find? (·.isNamed word) = some other := hother
  have hnamed := List.find?_some hfind
  have hmem : other ∈ shape.slots := List.mem_of_find?_eq_some hfind
  rw [hslots, List.mem_append, List.mem_cons] at hmem
  rcases hmem with hbefore | rfl | hafter
  · exact hothers other (List.mem_append_left _ hbefore)
  · rw [hword] at hnamed
    cases hnamed
  · exact hothers other (List.mem_append_right _ hafter)

/-- The entries of a section fill the slot in at most once, under one of its words. -/
theorem part_of_foldlM (h : IsSlotOf part read index slot) {entries : Entries}
    {draft final : ProjectConfig} {words words' : List String}
    (hfold : entries.foldlM (Value.readEntryOf shape) (draft, words) = .ok (final, words')) :
    (entries.filter (slot.isNamed ·.1) = [] ∧ part final = part draft) ∨
      ∃ entry, entries.filter (slot.isNamed ·.1) = [entry] ∧ slot.word ∉ words ∧
        read entry.2 = .ok (part final) := by
  induction entries generalizing draft words with
  | nil =>
    cases hfold
    exact .inl ⟨rfl, rfl⟩
  | cons entry entries ih =>
    rw [List.foldlM_cons] at hfold
    obtain ⟨⟨next, nextWords⟩, hnext, hrest⟩ := exists_of_bind_eq_ok hfold
    unfold Value.readEntryOf at hnext
    cases hword : slot.isNamed entry.1 with
    | true =>
      rw [h.slot?_eq hword] at hnext
      dsimp only at hnext
      split at hnext
      · cases hnext
      · rename_i hfresh
        obtain ⟨change, hfill, heq⟩ := Results.map_eq_ok_iff.1 hnext
        cases heq
        -- From here on the slot is filled, so no later entry has one of its words.
        rcases ih hrest with ⟨hnone, hkept⟩ | ⟨later, -, htaken, -⟩
        · right
          refine ⟨entry, ?_, by simpa using hfresh, ?_⟩
          · simp only [List.filter_cons, hword, if_true, hnone]
          · rw [hkept]
            exact h.reads _ _ hfill draft
        · exact absurd List.mem_cons_self htaken
    | false =>
      rw [List.filter_cons_of_neg (by simp [hword])]
      cases hslot : shape.slot? entry.1 with
      | none =>
        rw [hslot] at hnext
        cases hnext
        exact ih hrest
      | some other =>
        have hkeeps := h.keeps hword hslot
        rw [hslot] at hnext
        dsimp only at hnext
        split at hnext
        · cases hnext
        · obtain ⟨change, hfill, heq⟩ := Results.map_eq_ok_iff.1 hnext
          cases heq
          rcases ih hrest with ⟨hnone, hkept⟩ | ⟨given, hgiven, htaken, hread⟩
          · exact .inl ⟨hnone, hkept.trans (hkeeps _ _ hfill draft)⟩
          · exact .inr ⟨given, hgiven, fun hin => htaken (List.mem_cons_of_mem _ hin), hread⟩

end IsSlotOf

/-- Elements at other slots leave the part as it is. -/
theorem keeps_of_foldlM_zip {slots : List (Slot Value DataFault ProjectConfig)}
    (hslots : ∀ slot ∈ slots, Keeps part slot) {items : List Value} {draft final : ProjectConfig}
    (h : (slots.zip items).foldlM (fun draft (slot, item) => do
      return (← slot.fill item) draft) draft = Except.ok final) : part final = part draft := by
  induction slots generalizing items draft with
  | nil =>
    cases h
    rfl
  | cons slot slots ih =>
    cases items with
    | nil =>
      cases h
      rfl
    | cons item items =>
      rw [List.zip_cons_cons, List.foldlM_cons] at h
      obtain ⟨next, hnext, hrest⟩ := exists_of_bind_eq_ok h
      obtain ⟨change, hfill, heq⟩ := exists_of_bind_eq_ok hnext
      cases heq
      rw [ih (fun slot hslot => hslots slot (List.mem_cons_of_mem _ hslot)) hrest]
      exact hslots slot List.mem_cons_self _ _ hfill draft

/-- Of the elements of a list, the one at the position of the slot gives the part. -/
theorem part_of_foldlM_zip
    (hreads : ∀ (value : Value) (change : ProjectConfig → ProjectConfig),
      slot.fill value = .ok change → ∀ config, read value = .ok (part (change config)))
    {before after : List (Slot Value DataFault ProjectConfig)}
    (hothers : ∀ other ∈ before ++ after, Keeps part other) {items : List Value}
    {draft final : ProjectConfig}
    (h : ((before ++ slot :: after).zip items).foldlM (fun draft (slot, item) => do
      return (← slot.fill item) draft) draft = Except.ok final) :
    (items[before.length]? = none ∧ part final = part draft) ∨
      ∃ item, items[before.length]? = some item ∧ read item = .ok (part final) := by
  induction before generalizing items draft with
  | nil =>
    cases items with
    | nil =>
      cases h
      exact .inl ⟨rfl, rfl⟩
    | cons item items =>
      rw [List.nil_append, List.zip_cons_cons, List.foldlM_cons] at h
      obtain ⟨next, hnext, hrest⟩ := exists_of_bind_eq_ok h
      obtain ⟨change, hfill, heq⟩ := exists_of_bind_eq_ok hnext
      cases heq
      refine .inr ⟨item, rfl, ?_⟩
      rw [keeps_of_foldlM_zip hothers hrest]
      exact hreads _ _ hfill draft
  | cons first before ih =>
    cases items with
    | nil =>
      cases h
      exact .inl ⟨rfl, rfl⟩
    | cons item items =>
      rw [List.cons_append, List.zip_cons_cons, List.foldlM_cons] at h
      obtain ⟨next, hnext, hrest⟩ := exists_of_bind_eq_ok h
      obtain ⟨change, hfill, heq⟩ := exists_of_bind_eq_ok hnext
      cases heq
      have hkept := hothers first List.mem_cons_self _ _ hfill draft
      rw [List.length_cons, List.getElem?_cons_succ, ← hkept]
      exact ih (fun other hother => hothers other (List.mem_cons_of_mem _ hother)) hrest

/-- A configuration that is read has the part that is read at its slot, or the default where nothing
stands there. -/
theorem IsSlotOf.part_of_readRecord (h : IsSlotOf part read index slot) {settings : Value}
    {config : ProjectConfig} (hread : settings.readRecord shape = .ok config) :
    (standsAt? index slot settings = none ∧ part config = part {}) ∨
      ∃ value, standsAt? index slot settings = some value ∧ read value = .ok (part config) := by
  unfold Value.readRecord at hread
  unfold standsAt?
  cases hitems : settings.items? with
  | some items =>
    rw [hitems] at hread
    obtain ⟨draft, hdraft, hfinish⟩ := exists_of_bind_eq_ok hread
    cases hfinish
    obtain ⟨before, after, hslots, rfl, hothers⟩ := h.alone
    rw [hslots] at hdraft
    exact part_of_foldlM_zip h.reads hothers hdraft
  | none =>
    rw [hitems] at hread
    cases hentries : settings.entries? with
    | none => rw [hentries] at hread; cases hread
    | some entries =>
      rw [hentries] at hread
      obtain ⟨⟨draft, words⟩, hdraft, hfinish⟩ := exists_of_bind_eq_ok hread
      cases hfinish
      have hfind : entries.find? (slot.isNamed ·.1) =
          (entries.filter (slot.isNamed ·.1)).head? := List.head?_filter.symm
      rcases h.part_of_foldlM hdraft with ⟨hnone, hkept⟩ | ⟨entry, hone, -, hvalue⟩
      · exact .inl ⟨by simp [hfind, hnone], hkept⟩
      · exact .inr ⟨entry.2, by simp [hfind, hone], hvalue⟩

theorem keeps_ofReader {Data : Type} (word : String) (read : Value → Except DataFault Data)
    {put : ProjectConfig → Data → ProjectConfig}
    (hput : ∀ config data, part (put config data) = part config) :
    Keeps part (.ofReader word read put) := by
  intro value change hfill config
  obtain ⟨data, -, rfl⟩ := Results.map_eq_ok_iff.1 hfill
  exact hput config data

/-- A slot that puts what it reads into the part. -/
theorem reads_ofReader (word : String) {put : ProjectConfig → Part → ProjectConfig}
    (hput : ∀ config data, part (put config data) = data) (value : Value)
    (change : ProjectConfig → ProjectConfig)
    (h : (Slot.ofReader word read put).fill value = .ok change) (config : ProjectConfig) :
    read value = .ok (part (change config)) := by
  obtain ⟨data, hread, rfl⟩ := Results.map_eq_ok_iff.1 h
  rw [hread, hput]

end Slots

/-! ## Date, suffix and banner -/

/-- The section of a text that configures the program. -/
def sectionOf? (text : String) : Option Value :=
  (Toml.documentOf text).bind (·.lookup sectionWord)

/-- What a section has under a word. A section may be a list, where it stands at the position. -/
def entryIn? (index : Nat) (word : String) (settings : Value) : Option Value :=
  match settings.items? with
  | some items => items[index]?
  | none => settings.entries?.bind (·.lookup word)

/-- The date that a text gives for the dates in factories. -/
def dateOf? (text : String) : Option Date := do
  let value ← (sectionOf? text).bind (entryIn? 0 "sentinel_date")
  let written ← value.string?
  (Date.ofText written).toOption

/-- The suffix that a text gives to the names of files. -/
def fileSuffixOf? (text : String) : Option String :=
  ((sectionOf? text).bind (entryIn? 1 "file_suffix")).bind (·.string?)

/-- What a text says about the banner. -/
def headerOf? (text : String) : Option Bool :=
  ((sectionOf? text).bind (entryIn? 2 "header")).bind (·.truth?)

/-- The slot of the date. -/
def dateSlot : Slot Value DataFault ProjectConfig :=
  .ofReader "sentinel_date" readDate fun config sentinelDate => { config with sentinelDate }

/-- The slot of the suffix. -/
def suffixSlot : Slot Value DataFault ProjectConfig :=
  .ofReader "file_suffix" Value.readString fun config fileSuffix => { config with fileSuffix }

/-- The slot of the banner. -/
def headerSlot : Slot Value DataFault ProjectConfig :=
  .ofReader "header" Value.readBoolean fun config header => { config with header }

/-- The slot of the type defaults. -/
def typeDefaultsSlot : Slot Value DataFault ProjectConfig :=
  { Slot.ofReader "type_defaults" readTypeDefaults fun config typeDefaults =>
      { config with typeDefaults } with otherWords := ["defaults"] }

theorem dateSlot_isSlotOf : IsSlotOf (·.sentinelDate) readDate 0 dateSlot where
  reads := reads_ofReader _ fun _ _ => rfl
  alone := by
    refine ⟨[], [suffixSlot, headerSlot, typeDefaultsSlot], rfl, rfl, ?_⟩
    simp only [List.nil_append, List.forall_mem_cons]
    exact ⟨keeps_ofReader _ _ fun _ _ => rfl, keeps_ofReader _ _ fun _ _ => rfl,
      keeps_ofReader "type_defaults" _ fun _ _ => rfl, List.forall_mem_nil _⟩

theorem suffixSlot_isSlotOf : IsSlotOf (·.fileSuffix) Value.readString 1 suffixSlot where
  reads := reads_ofReader _ fun _ _ => rfl
  alone := by
    refine ⟨[dateSlot], [headerSlot, typeDefaultsSlot], rfl, rfl, ?_⟩
    simp only [List.cons_append, List.nil_append, List.forall_mem_cons]
    exact ⟨keeps_ofReader _ _ fun _ _ => rfl, keeps_ofReader _ _ fun _ _ => rfl,
      keeps_ofReader "type_defaults" _ fun _ _ => rfl, List.forall_mem_nil _⟩

theorem headerSlot_isSlotOf : IsSlotOf (·.header) Value.readBoolean 2 headerSlot where
  reads := reads_ofReader _ fun _ _ => rfl
  alone := by
    refine ⟨[dateSlot, suffixSlot], [typeDefaultsSlot], rfl, rfl, ?_⟩
    simp only [List.cons_append, List.nil_append, List.forall_mem_cons]
    exact ⟨keeps_ofReader _ _ fun _ _ => rfl, keeps_ofReader _ _ fun _ _ => rfl,
      keeps_ofReader "type_defaults" _ fun _ _ => rfl, List.forall_mem_nil _⟩

theorem typeDefaultsSlot_isSlotOf :
    IsSlotOf (·.typeDefaults) readTypeDefaults 3 typeDefaultsSlot where
  reads := reads_ofReader "type_defaults" fun _ _ => rfl
  alone := by
    refine ⟨[dateSlot, suffixSlot, headerSlot], [], rfl, rfl, ?_⟩
    simp only [List.append_nil, List.forall_mem_cons]
    exact ⟨keeps_ofReader _ _ fun _ _ => rfl, keeps_ofReader _ _ fun _ _ => rfl,
      keeps_ofReader _ _ fun _ _ => rfl, List.forall_mem_nil _⟩

/-- A slot with one word is found by that word. -/
theorem standsAt?_eq_entryIn? {slot : Slot Value DataFault ProjectConfig}
    (hone : slot.otherWords = []) (index : Nat) (settings : Value) :
    standsAt? index slot settings = entryIn? index slot.word settings := by
  unfold standsAt? entryIn?
  cases settings.items? with
  | some items => rfl
  | none =>
    cases settings.entries? with
    | none => rfl
    | some entries =>
      show (entries.find? (slot.isNamed ·.1)).bind (fun entry => some entry.2) =
        entries.lookup slot.word
      induction entries with
      | nil => rfl
      | cons entry entries ih =>
        have hnamed : slot.isNamed entry.1 = (entry.1 == slot.word) := by
          simp [Slot.isNamed, hone]
        rw [List.find?_cons, List.lookup_cons, hnamed, Bool.beq_comm]
        cases slot.word == entry.1 with
        | true => rfl
        | false => exact ih

theorem exists_root_of_configOfToml {text : String} {config : ProjectConfig}
    (h : configOfToml text = .ok config) :
    ∃ root, Toml.documentOf text = some root ∧ ofEntries root = .ok config := by
  unfold configOfToml Toml.readDocument at h
  cases hroot : Toml.documentOf text with
  | none => rw [hroot] at h; cases h
  | some root =>
    rw [hroot] at h
    dsimp only at h
    cases hread : ofEntries root with
    | error fault => rw [hread] at h; cases h
    | ok read =>
      rw [hread] at h
      cases h
      exact ⟨root, rfl, hread⟩

section Texts

variable {Part : Type} {part : ProjectConfig → Part} {read : Value → Except DataFault Part}
  {index : Nat} {slot : Slot Value DataFault ProjectConfig} {text : String}
  {config : ProjectConfig}

/-- A configuration that is read has the part that is read at its slot in the section, or the
default where there is no section or nothing stands at the slot. -/
theorem IsSlotOf.part_of_configOfToml (h : IsSlotOf part read index slot)
    (hconfig : configOfToml text = .ok config) :
    ((sectionOf? text).bind (standsAt? index slot) = none ∧ part config = part {}) ∨
      ∃ value, (sectionOf? text).bind (standsAt? index slot) = some value ∧
        read value = .ok (part config) := by
  obtain ⟨root, hroot, hread⟩ := exists_root_of_configOfToml hconfig
  rw [sectionOf?, hroot, Option.bind_some]
  unfold ofEntries at hread
  cases hsettings : root.lookup sectionWord with
  | none =>
    rw [hsettings] at hread
    cases hread
    exact .inl ⟨rfl, rfl⟩
  | some settings =>
    rw [hsettings] at hread
    exact h.part_of_readRecord hread

/-- Where what is read can be told from the value, a part with a slot of one word is what the text
gives, or the default. -/
theorem IsSlotOf.part_eq (h : IsSlotOf part read index slot) (hone : slot.otherWords = [])
    {told : Value → Option Part}
    (htold : ∀ value data, read value = .ok data → told value = some data)
    (hconfig : configOfToml text = .ok config) :
    part config =
      (((sectionOf? text).bind (entryIn? index slot.word)).bind told).getD (part {}) := by
  have hstands : standsAt? index slot = entryIn? index slot.word :=
    funext (standsAt?_eq_entryIn? hone index)
  rcases h.part_of_configOfToml hconfig with ⟨hnone, hblank⟩ | ⟨value, hvalue, hread⟩
  · rw [← hstands, hnone, hblank]
    rfl
  · rw [← hstands, hvalue, Option.bind_some, htold _ _ hread]
    rfl

end Texts

end ModelFactory.ProjectConfig

namespace ModelFactory

open ProjectConfig
open Toml (Value)

variable {text : String} {config : ProjectConfig}

/-- A configuration that is read has the date that its text gives, or the first of January 2000. -/
theorem configOfToml_sentinelDate (h : configOfToml text = .ok config) :
    config.sentinelDate = (dateOf? text).getD .millennium := by
  have htold (value : Value) (date : Date) (hread : readDate value = .ok date) :
      (value.string?.bind fun written => (Date.ofText written).toOption) = some date := by
    cases value with
    | string written =>
      have hdate : Date.ofText written = .ok date := Results.mapError_eq_ok_iff.1 hread
      rw [Value.string?, Option.bind_some, hdate]
      rfl
    | _ => cases hread
  exact dateSlot_isSlotOf.part_eq rfl htold h

/-- A configuration that is read has the suffix that its text gives, or the usual one. -/
theorem configOfToml_fileSuffix (h : configOfToml text = .ok config) :
    config.fileSuffix = (fileSuffixOf? text).getD defaultFileSuffix :=
  suffixSlot_isSlotOf.part_eq rfl (fun _ _ => Toml.Value.string?_of_readString) h

/-- A configuration that is read has the banner unless its text says otherwise. -/
theorem configOfToml_header (h : configOfToml text = .ok config) :
    config.header = (headerOf? text).getD true :=
  headerSlot_isSlotOf.part_eq rfl (fun _ _ => Toml.Value.truth?_of_readBoolean) h

end ModelFactory
