import Mathlib.Data.List.Perm.Basic
import ModelFactory.Proofs.Json.Entries

/-!
# Edits of records in JSON

`Place.RecordEdit` is one change in the object of a record: its entries stand in another order, an
entry of a word that the record does not know is added, an entry that holds a default is added or
taken away, or what stands under one word is edited in turn. Where such a change leaves what is made
of the record alone, so does the change of the object (`Place.RecordEdit.exists_readRecord`).
-/

set_option autoImplicit false

namespace ModelFactory.Json.Place

open Record (Shape Slot)
open Results (bind_eq_ok_iff exists_mem_of_forall₂ forall₂_append_left_iff mapError_eq_ok_iff
  mapM_eq_ok_iff)

/-! ## Edits -/

/-- One change in the object of a record with these words. `Default` are the defaults of the words,
and `Inner` are the changes of what stands under them. -/
inductive RecordEdit (words : List String) (Default : String → Node → Prop)
    (Inner : String → Place → Place → Prop) : Place → Place → Prop where
  | reorder {entries entries' : List (StringText × Node)} {stop : ObjectStop} {room : Nat}
      (h : entries.Perm entries') :
      RecordEdit words Default Inner ⟨.object entries stop, room + 1⟩
        ⟨.object entries' stop, room + 1⟩
  /-- The value may be anything that can be passed over. -/
  | addUnknown (before after : List (StringText × Node)) (key : StringText) (value : Node)
      {word : String} {stop : ObjectStop} {room : Nat} (hkey : key.decoded = .ok word)
      (hword : word ∉ words) (hvalue : value.skipFlaw = none) :
      RecordEdit words Default Inner ⟨.object (before ++ after) stop, room + 1⟩
        ⟨.object (before ++ (key, value) :: after) stop, room + 1⟩
  /-- The value must not be nested too deep at its place. -/
  | addDefault (before after : List (StringText × Node)) (key : StringText) (value : Node)
      {word : String} {stop : ObjectStop} {room : Nat} (hkey : key.decoded = .ok word)
      (hdefault : Default word value)
      (habsent : ∀ entry ∈ before ++ after, entry.1.decoded ≠ .ok word)
      (hroom : value.readFlaw room ≠ some .tooDeep) :
      RecordEdit words Default Inner ⟨.object (before ++ after) stop, room + 1⟩
        ⟨.object (before ++ (key, value) :: after) stop, room + 1⟩
  | removeDefault (before after : List (StringText × Node)) {key : StringText} {value : Node}
      {word : String} {stop : ObjectStop} {room : Nat} (hkey : key.decoded = .ok word)
      (hdefault : Default word value) :
      RecordEdit words Default Inner ⟨.object (before ++ (key, value) :: after) stop, room + 1⟩
        ⟨.object (before ++ after) stop, room + 1⟩
  | inner (before after : List (StringText × Node)) {key : StringText} {value value' : Node}
      {word : String} {stop : ObjectStop} {room : Nat} (hkey : key.decoded = .ok word)
      (h : Inner word ⟨value, room⟩ ⟨value', room⟩) :
      RecordEdit words Default Inner ⟨.object (before ++ (key, value) :: after) stop, room + 1⟩
        ⟨.object (before ++ (key, value') :: after) stop, room + 1⟩

/-- One item of an array is changed. -/
inductive ItemEdit (Inner : Place → Place → Prop) : Place → Place → Prop where
  | item (before after : List Node) {value value' : Node} {stop : ArrayStop} {room : Nat}
      (h : Inner ⟨value, room⟩ ⟨value', room⟩) :
      ItemEdit Inner ⟨.array (before ++ value :: after) stop, room + 1⟩
        ⟨.array (before ++ value' :: after) stop, room + 1⟩

/-! ## Entries of an edited object -/

section Entries

variable {words : List String} {before after entries entries' : List (StringText × Node)}
  {key : StringText} {value : Node} {word : String} {stop : ObjectStop} {room : Nat}
  {named : List (String × Place)}

/-- The entries of a reordered object are reordered. -/
theorem exists_entries?_of_perm (h : entries.Perm entries')
    (hnamed : entries? words ⟨.object entries stop, room + 1⟩ = some named) :
    ∃ named', entries? words ⟨.object entries' stop, room + 1⟩ = some named' ∧
      named.Perm named' := by
  obtain ⟨hstop, hnames, hpass⟩ := entries?_object_eq_some_iff.1 hnamed
  obtain ⟨named', hnames', hperm⟩ := List.perm_comp_forall₂ h.symm hnames
  refine ⟨named', entries?_object_eq_some_iff.2 ⟨hstop, hnames', ?_⟩, hperm.symm⟩
  intro entry hentry
  exact hpass entry (hperm.mem_iff.1 hentry)

/-- The entries of an object with one more entry are those of the object and that one. -/
theorem entries?_insert_iff (hkey : key.decoded = .ok word) :
    entries? words ⟨.object (before ++ (key, value) :: after) stop, room + 1⟩ = some named ↔
      passable words (word, ⟨value, room⟩) ∧ ∃ front back,
        front.length = before.length ∧ named = front ++ (word, ⟨value, room⟩) :: back ∧
        entries? words ⟨.object (before ++ after) stop, room + 1⟩ = some (front ++ back) := by
  simp only [entries?_object_eq_some_iff]
  constructor
  · rintro ⟨hstop, hnames, hpass⟩
    obtain ⟨front, rest, rfl, hfront, hrest⟩ := forall₂_append_left_iff.1 hnames
    obtain ⟨⟨word', place⟩, back, ⟨hword, rfl⟩, hback, rfl⟩ := List.forall₂_cons_left_iff.1 hrest
    obtain rfl : word = word' := Except.ok.inj (hkey.symm.trans hword)
    rw [List.forall_mem_append, List.forall_mem_cons] at hpass
    obtain ⟨hpassFront, hpassEntry, hpassBack⟩ := hpass
    refine ⟨hpassEntry, front, back, hfront.length_eq.symm, rfl, hstop,
      forall₂_append_left_iff.2 ⟨front, back, rfl, hfront, hback⟩, ?_⟩
    exact List.forall_mem_append.2 ⟨hpassFront, hpassBack⟩
  · rintro ⟨hpassEntry, front, back, hlength, rfl, hstop, hnames, hpass⟩
    obtain ⟨front', back', heq, hfront, hback⟩ := forall₂_append_left_iff.1 hnames
    -- The entries before the new one are told by their number.
    obtain ⟨rfl, rfl⟩ := List.append_inj heq (hlength.trans hfront.length_eq)
    refine ⟨hstop, forall₂_append_left_iff.2
      ⟨front, _, rfl, hfront, .cons ⟨hkey, rfl⟩ hback⟩, ?_⟩
    rw [List.forall_mem_append] at hpass
    rw [List.forall_mem_append, List.forall_mem_cons]
    exact ⟨hpass.1, hpassEntry, hpass.2⟩

/-- The entries of an object are those of its parts. -/
theorem exists_append_of_entries?
    (hnamed : entries? words ⟨.object (before ++ after) stop, room + 1⟩ = some named) :
    ∃ front back, front.length = before.length ∧ named = front ++ back := by
  obtain ⟨-, hnames, -⟩ := entries?_object_eq_some_iff.1 hnamed
  obtain ⟨front, back, rfl, hfront, -⟩ := forall₂_append_left_iff.1 hnames
  exact ⟨front, back, hfront.length_eq.symm, rfl⟩

/-- Nothing is written under a word exactly if no entry has the word. -/
theorem forall_decoded_ne_iff
    (hnamed : entries? words ⟨.object entries stop, room + 1⟩ = some named) :
    (∀ entry ∈ entries, entry.1.decoded ≠ .ok word) ↔ word ∉ named.map (·.1) := by
  obtain ⟨-, hnames, -⟩ := entries?_object_eq_some_iff.1 hnamed
  constructor
  · intro habsent hword
    obtain ⟨entry, hentry, rfl⟩ := List.mem_map.1 hword
    obtain ⟨written, hwritten, hname⟩ := exists_mem_of_forall₂ hnames.flip hentry
    exact habsent written hwritten hname.1
  · intro hword written hwritten hdecoded
    obtain ⟨entry, hentry, hname, -⟩ := exists_mem_of_forall₂ hnames hwritten
    obtain rfl : entry.1 = word := Except.ok.inj (hname.symm.trans hdecoded)
    exact hword (List.mem_map_of_mem hentry)

end Entries

/-! ## Records of an edited object -/

section Records

variable {Draft Result : Type} {shape : Shape Place Fault Draft Result}
  {before after entries entries' : List (StringText × Node)} {key : StringText} {value : Node}
  {word : String} {stop : ObjectStop} {room : Nat} {slot : Slot Place Fault Draft} {result : Result}

/-- The order of the entries does not matter. -/
theorem readRecord_perm (hshape : shape.Independent) (hperm : entries.Perm entries')
    (hread : readRecord shape ⟨.object entries stop, room + 1⟩ = .ok result) :
    readRecord shape ⟨.object entries' stop, room + 1⟩ = .ok result := by
  rw [readRecord_eq_ok_iff hshape] at hread ⊢
  obtain ⟨named, draft, hnamed, htakes, hfinish⟩ := hread
  obtain ⟨named', hnamed', hperm'⟩ := exists_entries?_of_perm hperm hnamed
  exact ⟨named', draft, hnamed', htakes.perm hshape hperm', hfinish⟩

/-- An entry of an unknown word only has to be passed over. -/
theorem readRecord_insert_unknown_iff (hshape : shape.Independent) (hkey : key.decoded = .ok word)
    (hword : word ∉ shape.words) :
    readRecord shape ⟨.object (before ++ (key, value) :: after) stop, room + 1⟩ = .ok result ↔
      value.skipFlaw = none ∧
        readRecord shape ⟨.object (before ++ after) stop, room + 1⟩ = .ok result := by
  have hslot : shape.slot? word = none := hshape.slot?_eq_none_iff.2 hword
  have hpass : passable shape.words (word, ⟨value, room⟩) ↔ value.skipFlaw = none := by
    simp [passable, hword]
  simp only [readRecord_eq_ok_iff hshape, entries?_insert_iff hkey, hpass]
  constructor
  · rintro ⟨named, draft, ⟨hskip, front, back, -, rfl, hnamed⟩, htakes, hfinish⟩
    exact ⟨hskip, front ++ back, draft, hnamed,
      (Shape.takesAfter_insert_unknown_iff hslot).1 htakes, hfinish⟩
  · rintro ⟨hskip, named, draft, hnamed, htakes, hfinish⟩
    obtain ⟨front, back, hlength, rfl⟩ := exists_append_of_entries? hnamed
    exact ⟨_, draft, ⟨hskip, front, back, hlength, rfl, hnamed⟩,
      (Shape.takesAfter_insert_unknown_iff hslot).2 htakes, hfinish⟩

/-- An entry of a known word can be passed over in any case. -/
theorem passable_of_slot (hshape : shape.Independent) (hslot : shape.slot? word = some slot)
    (place : Place) : passable shape.words (word, place) := by
  obtain ⟨hmem, rfl⟩ := hshape.word_eq hslot
  have hword : slot.word ∈ shape.words := List.mem_map_of_mem hmem
  simp [passable, hword]

/-- What stands under a known word fills in the slot of the word. -/
theorem exists_fill_of_readRecord (hshape : shape.Independent) (hkey : key.decoded = .ok word)
    (hslot : shape.slot? word = some slot)
    (hread : readRecord shape ⟨.object (before ++ (key, value) :: after) stop, room + 1⟩ =
      .ok result) : ∃ change, slot.fill ⟨value, room⟩ = .ok change := by
  obtain ⟨named, draft, hnamed, htakes, -⟩ := (readRecord_eq_ok_iff hshape).1 hread
  obtain ⟨-, front, back, -, rfl, -⟩ := (entries?_insert_iff hkey).1 hnamed
  obtain ⟨-, base, change, -, hfill, -⟩ := (Shape.takes_insert_iff hshape hslot).1 htakes
  exact ⟨change, hfill⟩

/-- An entry that leaves the blank draft as it is only has to be the one of its word. -/
theorem readRecord_insert_default_iff (hshape : shape.Independent) (hkey : key.decoded = .ok word)
    (hslot : shape.slot? word = some slot) {change : Draft → Draft}
    (hfill : slot.fill ⟨value, room⟩ = .ok change) (hblank : change shape.blank = shape.blank) :
    readRecord shape ⟨.object (before ++ (key, value) :: after) stop, room + 1⟩ = .ok result ↔
      (∀ entry ∈ before ++ after, entry.1.decoded ≠ .ok word) ∧
        readRecord shape ⟨.object (before ++ after) stop, room + 1⟩ = .ok result := by
  simp only [readRecord_eq_ok_iff hshape, entries?_insert_iff hkey]
  constructor
  · rintro ⟨named, draft, ⟨-, front, back, -, rfl, hnamed⟩, htakes, hfinish⟩
    obtain ⟨habsent, hrest⟩ := (Shape.takes_insert_default_iff hshape hslot hfill hblank).1 htakes
    exact ⟨(forall_decoded_ne_iff hnamed).2 habsent, front ++ back, draft, hnamed, hrest, hfinish⟩
  · rintro ⟨habsent, named, draft, hnamed, htakes, hfinish⟩
    obtain ⟨front, back, hlength, rfl⟩ := exists_append_of_entries? hnamed
    rw [forall_decoded_ne_iff hnamed] at habsent
    exact ⟨_, draft, ⟨passable_of_slot hshape hslot _, front, back, hlength, rfl, hnamed⟩,
      (Shape.takes_insert_default_iff hshape hslot hfill hblank).2 ⟨habsent, htakes⟩, hfinish⟩

/-- Where the value of a known word is another, the two objects differ in that part. -/
theorem partReplaced_of_readRecord (hshape : shape.Independent) (hkey : key.decoded = .ok word)
    (hslot : shape.slot? word = some slot) {value' : Node} {R : Place → Place → Prop}
    (hR : R ⟨value, room⟩ ⟨value', room⟩)
    (hread : readRecord shape ⟨.object (before ++ (key, value) :: after) stop, room + 1⟩ =
      .ok result) :
    entryFormat.PartReplaced shape.words word R
      ⟨.object (before ++ (key, value) :: after) stop, room + 1⟩
      ⟨.object (before ++ (key, value') :: after) stop, room + 1⟩ := by
  obtain ⟨named, draft, hnamed, -⟩ := (readRecord_eq_ok_iff hshape).1 hread
  obtain ⟨-, front, back, hlength, rfl, hrest⟩ := (entries?_insert_iff hkey).1 hnamed
  refine ⟨front, _, _, back, hnamed, ?_, hR⟩
  exact (entries?_insert_iff hkey).2
    ⟨passable_of_slot hshape hslot _, front, back, hlength, rfl, hrest⟩

end Records

/-! ## Defaults -/

/-- At any depth nothing but the value is read from the node, and it is read if the node is not
nested too deep. -/
structure Gives {Value : Type} (read : Place → Except Fault Value) (node : Node) (value : Value) :
    Prop where
  only {room : Nat} {found : Value} (h : read ⟨node, room⟩ = .ok found) : found = value
  reads {room : Nat} (h : node.readFlaw room ≠ some .tooDeep) : read ⟨node, room⟩ = .ok value

section Gives

variable {Value : Type} {read : Place → Except Fault Value} {node : Node} {value : Value}

/-- What is read at any depth. -/
theorem gives_of_read_eq (h : ∀ room, read ⟨node, room⟩ = .ok value) : Gives read node value where
  only {room found} hfound := by
    rw [h] at hfound
    exact (Except.ok.inj hfound).symm
  reads {room} _ := h room

/-- What is read wherever an array or object may be opened. -/
theorem gives_of_opened (hdeep : ∀ found, read ⟨node, 0⟩ ≠ .ok found)
    (hflaw : node.readFlaw 0 = some .tooDeep)
    (h : ∀ room, read ⟨node, room + 1⟩ = .ok value) : Gives read node value where
  only {room found} hfound := by
    cases room with
    | zero => exact absurd hfound (hdeep found)
    | succ room =>
      rw [h] at hfound
      exact (Except.ok.inj hfound).symm
  reads {room} hroom := by
    cases room with
    | zero => exact absurd hflaw hroom
    | succ room => exact h room

theorem gives_boolean (value : Bool) : Gives readBoolean (.boolean value) value :=
  gives_of_read_eq fun _ => rfl

theorem gives_optionalString : Gives readOptionalString .null none :=
  gives_of_read_eq fun _ => rfl

theorem gives_any : Gives readAny .null none := by
  apply gives_of_read_eq
  intro room
  cases room with
  | zero => rfl
  | succ room => rfl

theorem gives_list (read : Place → Except Fault Value) :
    Gives (readList read) (.array [] .closed) [] :=
  gives_of_opened (fun _ h => by cases h) rfl fun _ => rfl

theorem gives_table : Gives readTable (.object [] .closed) [] :=
  gives_of_opened (fun _ h => by cases h) rfl fun _ => rfl

end Gives

/-- Under the word the node fills in what the blank draft has already. -/
def LeavesBlank {Draft Result : Type} (shape : Shape Place Fault Draft Result) (word : String)
    (node : Node) : Prop :=
  ∃ slot, shape.slot? word = some slot ∧
    (∀ room change, slot.fill ⟨node, room⟩ = .ok change → change shape.blank = shape.blank) ∧
    ∀ room, node.readFlaw room ≠ some .tooDeep → ∃ change, slot.fill ⟨node, room⟩ = .ok change

/-- Under the word the right place fills in what makes the same result as the left one does. -/
def FillsAlike {Draft Result : Type} (shape : Shape Place Fault Draft Result)
    (Same : Result → Result → Prop) (word : String) (left right : Place) : Prop :=
  ∃ slot, shape.slot? word = some slot ∧
    ∀ change, slot.fill left = .ok change → ∃ change', slot.fill right = .ok change' ∧
      ∀ base result, shape.finish (change base) = .ok result →
        ∃ result', shape.finish (change' base) = .ok result' ∧ Same result' result

section Slots

variable {Draft Result Value : Type} {shape : Shape Place Fault Draft Result}
  {Same : Result → Result → Prop} {read : Place → Except Fault Value} {put : Draft → Value → Draft}
  {word : String} {left right : Place}

/-- What a reader gives leaves the draft blank if putting it there does. -/
theorem Gives.leavesBlank {node : Node} {value : Value} (h : Gives read node value)
    (hslot : shape.slot? word = some (.ofReader word read put))
    (hblank : put shape.blank value = shape.blank) : LeavesBlank shape word node := by
  refine ⟨_, hslot, ?_, ?_⟩
  · intro room change hfill
    obtain ⟨found, hfound, rfl⟩ := Slot.fill_ofReader_eq_ok_iff.1 hfill
    rw [h.only hfound]
    exact hblank
  · intro room hroom
    exact ⟨_, Slot.fill_ofReader_eq_ok_iff.2 ⟨value, h.reads hroom, rfl⟩⟩

/-- What is read of both places has to make the same result. -/
theorem fillsAlike_of_read (hslot : shape.slot? word = some (.ofReader word read put))
    (h : ∀ value, read left = .ok value → ∃ value', read right = .ok value' ∧
      ∀ base result, shape.finish (put base value) = .ok result →
        ∃ result', shape.finish (put base value') = .ok result' ∧ Same result' result) :
    FillsAlike shape Same word left right := by
  refine ⟨_, hslot, ?_⟩
  intro change hfill
  obtain ⟨value, hvalue, rfl⟩ := Slot.fill_ofReader_eq_ok_iff.1 hfill
  obtain ⟨value', hvalue', hsame⟩ := h value hvalue
  exact ⟨_, Slot.fill_ofReader_eq_ok_iff.2 ⟨value', hvalue', rfl⟩, hsame⟩

/-- Of both places the same is read. -/
theorem fillsAlike_of_read_eq (hrefl : ∀ result, Same result result)
    (hslot : shape.slot? word = some (.ofReader word read put))
    (h : ∀ value, read left = .ok value → read right = .ok value) :
    FillsAlike shape Same word left right := by
  apply fillsAlike_of_read hslot
  intro value hvalue
  exact ⟨value, h value hvalue, fun base result hfinish => ⟨result, hfinish, hrefl result⟩⟩

end Slots

/-- After one change in its object a record is still read. What is made of it is the same if it is
the same after a change of what stands under a word. -/
theorem RecordEdit.exists_readRecord {Draft Result : Type} {shape : Shape Place Fault Draft Result}
    (hshape : shape.Independent) {Same : Result → Result → Prop}
    (hrefl : ∀ result, Same result result) {Default : String → Node → Prop}
    (hdefaults : ∀ word value, Default word value → LeavesBlank shape word value)
    {Inner : String → Place → Place → Prop}
    (hinner : ∀ word left right, Inner word left right → FillsAlike shape Same word left right)
    {left right : Place} {result : Result} (h : RecordEdit shape.words Default Inner left right)
    (hread : readRecord shape left = .ok result) :
    ∃ result', readRecord shape right = .ok result' ∧ Same result' result := by
  cases h with
  | reorder hperm => exact ⟨result, readRecord_perm hshape hperm hread, hrefl _⟩
  | addUnknown before after key value hkey hword hvalue =>
    exact ⟨result, (readRecord_insert_unknown_iff hshape hkey hword).2 ⟨hvalue, hread⟩, hrefl _⟩
  | addDefault before after key value hkey hdefault habsent hroom =>
    obtain ⟨slot, hslot, hblank, hfills⟩ := hdefaults _ _ hdefault
    obtain ⟨change, hfill⟩ := hfills _ hroom
    exact ⟨result, (readRecord_insert_default_iff hshape hkey hslot hfill
      (hblank _ _ hfill)).2 ⟨habsent, hread⟩, hrefl _⟩
  | removeDefault before after hkey hdefault =>
    obtain ⟨slot, hslot, hblank, -⟩ := hdefaults _ _ hdefault
    obtain ⟨change, hfill⟩ := exists_fill_of_readRecord hshape hkey hslot hread
    exact ⟨result, ((readRecord_insert_default_iff hshape hkey hslot hfill
      (hblank _ _ hfill)).1 hread).2, hrefl _⟩
  | inner before after hkey hinside =>
    obtain ⟨slot, hslot, hfills⟩ := hinner _ _ _ hinside
    obtain ⟨value, value', base, change, hparts, hfill, hfinish, hright⟩ :=
      (partReplaced_of_readRecord hshape hkey hslot hinside hread).exists_readRecord hshape hslot
        hread
    obtain ⟨slot', hslot', hfills'⟩ := hinner _ _ _ hparts
    obtain rfl : slot = slot' := Option.some.inj (hslot.symm.trans hslot')
    obtain ⟨change', hfill', hsame⟩ := hfills' change hfill
    obtain ⟨result', hfinish', hresult⟩ := hsame base result hfinish
    exact ⟨result', hright change' result' hfill' hfinish', hresult⟩

/-! ## Lists of an edited array -/

section Lists

variable {Value : Type} {read : Place → Except Fault Value} {values : List Value}

/-- A list is read from the items of an array that is closed. -/
theorem readList_array_eq_ok_iff {nodes : List Node} {stop : ArrayStop} {room : Nat} :
    readList read ⟨.array nodes stop, room + 1⟩ = .ok values ↔
      Node.arrayReadFlaw stop = none ∧
        List.Forall₂ (fun node value => read ⟨node, room⟩ = .ok value) nodes values := by
  rw [readList_eq_ok_iff, items?]
  simp only [Option.isNone_iff_eq_none]
  by_cases hstop : Node.arrayReadFlaw stop = none
  · simp only [hstop, if_true, Option.some.injEq, exists_eq_left', mapM_eq_ok_iff,
      List.forall₂_map_left_iff, true_and]
  · simp [hstop]

/-- A list of which one item is changed is still read, with another value for that item. -/
theorem ItemEdit.exists_readList {Inner : Place → Place → Prop} {Same : Value → Value → Prop}
    (hrefl : ∀ value, Same value value)
    (hinner : ∀ left right value, Inner left right → read left = .ok value →
      ∃ value', read right = .ok value' ∧ Same value' value)
    {left right : Place} (h : ItemEdit Inner left right) (hread : readList read left = .ok values) :
    ∃ values', readList read right = .ok values' ∧ List.Forall₂ Same values' values := by
  cases h with
  | item before after hinside =>
    obtain ⟨hstop, hnodes⟩ := readList_array_eq_ok_iff.1 hread
    obtain ⟨front, rest, rfl, hfront, hrest⟩ := forall₂_append_left_iff.1 hnodes
    obtain ⟨value, back, hvalue, hback, rfl⟩ := List.forall₂_cons_left_iff.1 hrest
    obtain ⟨value', hvalue', hsame⟩ := hinner _ _ value hinside hvalue
    refine ⟨front ++ value' :: back, readList_array_eq_ok_iff.2 ⟨hstop, ?_⟩, ?_⟩
    · exact forall₂_append_left_iff.2 ⟨front, _, rfl, hfront, .cons hvalue' hback⟩
    · have hsames (values : List Value) : List.Forall₂ Same values values :=
        List.forall₂_same.2 fun value _ => hrefl value
      exact List.rel_append (hsames front) (.cons hsame (hsames back))

end Lists

/-! ## Tables and tagged values -/

/-- A table is read from the entries of an object that is closed. -/
theorem readTable_object_eq_ok_iff {entries : List (StringText × Node)} {stop : ObjectStop}
    {room : Nat} {table : List (String × Option String)} :
    readTable ⟨.object entries stop, room + 1⟩ = .ok table ↔
      Node.objectReadFlaw stop = none ∧
        List.Forall₂ (fun entry read => entry.1.decoded = .ok read.1 ∧
          readAny ⟨entry.2, room⟩ = .ok read.2) entries table := by
  simp only [readTable, opened, bind_eq_ok_iff, mapM_eq_ok_iff, StringText.read?_eq_ok_iff]
  constructor
  · rintro ⟨inside, hinside, read, hread, done, hdone, heq⟩
    cases hinside
    cases heq
    refine ⟨Fault.stopAt_eq_ok_iff.1 hdone, hread.imp ?_⟩
    rintro entry read ⟨key, hkey, value, hvalue, heq⟩
    cases heq
    exact ⟨hkey, hvalue⟩
  · rintro ⟨hstop, htable⟩
    refine ⟨room, rfl, table, htable.imp ?_, (), Fault.stopAt_eq_ok_iff.2 hstop, rfl⟩
    rintro entry read ⟨hkey, hvalue⟩
    exact ⟨read.1, hkey, read.2, hvalue, rfl⟩

/-- An object with one key is read as a tagged value if it is closed and the key is a tag. -/
theorem readTagged_object_eq_ok_iff {Tag Value : Type}
    {readTag : String → Except Record.DataFault Tag}
    {readBody : Tag → TagBody → Except Fault Value} {key : StringText} {node : Node}
    {stop : ObjectStop} {room : Nat} {value : Value} :
    readTagged readTag readBody ⟨.object [(key, node)] stop, room + 1⟩ = .ok value ↔
      ∃ word tag, key.decoded = .ok word ∧ readTag word = .ok tag ∧
        readBody tag (.value ⟨node, room⟩) = .ok value ∧ stop = .closed := by
  simp only [readTagged, opened, bind_eq_ok_iff, mapError_eq_ok_iff, StringText.read?_eq_ok_iff]
  constructor
  · rintro ⟨inside, hinside, tag, ⟨word, hword, htag⟩, found, hbody, hrest⟩
    cases hinside
    cases stop with
    | closed =>
      cases hrest
      exact ⟨word, tag, hword, htag, hbody, rfl⟩
    | _ => cases hrest
  · rintro ⟨word, tag, hword, htag, hbody, rfl⟩
    exact ⟨room, rfl, tag, ⟨word, hword, htag⟩, value, hbody, rfl⟩

end ModelFactory.Json.Place
