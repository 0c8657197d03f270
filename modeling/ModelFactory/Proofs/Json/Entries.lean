import ModelFactory.Json.Values
import ModelFactory.Proofs.Record.Entries

/-!
# Entries and items in JSON

`Place.entries?` are the entries that a record finds at a place, in an object by their keys and in an
array by their positions. They are told without reading them: it is enough that the keys can be read,
that what the record does not know can be passed over, and that the object or array is closed. A
record is read from just these entries (`Place.readRecord_eq_ok_iff`).
-/

set_option autoImplicit false

namespace ModelFactory.Json

open Record (EntryFormat Shape Slot)
open Results (bind_eq_ok_iff mapError_eq_ok_iff)

theorem Fault.stopAt_eq_ok_iff {flaw? : Option Flaw} : stopAt flaw? = .ok () ↔ flaw? = none := by
  cases flaw? with
  | none => exact ⟨fun _ => rfl, fun _ => rfl⟩
  | some flaw =>
    constructor
    · intro h
      cases h
    · intro h
      cases h

theorem StringText.read?_eq_ok_iff {text : StringText} {string : String} :
    text.read? = .ok string ↔ text.decoded = .ok string :=
  mapError_eq_ok_iff

namespace Place

/-! ## Entries -/

/-- The entry is written with the word and stands at the place. -/
def Names (room : Nat) (entry : StringText × Node) (named : String × Place) : Prop :=
  entry.1.decoded = .ok named.1 ∧ named.2 = ⟨entry.2, room⟩

/-- The entries of an object by their keys, each in the room inside. -/
def named? (room : Nat) : List (StringText × Node) → Option (List (String × Place))
  | [] => some []
  | (key, value) :: rest =>
    match key.decoded with
    | .ok word => (named? room rest).map fun named => (word, ⟨value, room⟩) :: named
    | .error _ => none

/-- A record with these words knows the entry, or can pass it over. -/
def passable (words : List String) (entry : String × Place) : Bool :=
  words.contains entry.1 || entry.2.node.skipFlaw.isNone

/-- The entries of a record with these words: those of an object, or the elements of an array that is
not too long. -/
def entries? (words : List String) (place : Place) : Option (List (String × Place)) :=
  match place.node, place.room with
  | .object entries stop, room + 1 =>
    if (Node.objectReadFlaw stop).isNone then
      (named? room entries).filter fun named => named.all (passable words)
    else none
  | .array items stop, room + 1 =>
    if items.length ≤ words.length ∧ (Node.arrayReadFlaw stop).isNone then
      some (words.zip (items.map fun item => ⟨item, room⟩))
    else none
  | _, _ => none

/-- The items of an array. -/
def items? (place : Place) : Option (List Place) :=
  match place.node, place.room with
  | .array items stop, room + 1 =>
    if (Node.arrayReadFlaw stop).isNone then some (items.map fun item => ⟨item, room⟩) else none
  | _, _ => none

variable {room : Nat} {entries : List (StringText × Node)} {named : List (String × Place)}

theorem named?_eq_some_iff :
    named? room entries = some named ↔ List.Forall₂ (Names room) entries named := by
  induction entries generalizing named with
  | nil => simp [named?, eq_comm]
  | cons entry entries ih =>
    obtain ⟨key, value⟩ := entry
    rw [named?, List.forall₂_cons_left_iff]
    cases hkey : key.decoded with
    | error flaw =>
      constructor
      · intro h
        cases h
      · rintro ⟨first, rest, ⟨hfirst, -⟩, -⟩
        rw [hkey] at hfirst
        cases hfirst
    | ok word =>
      dsimp only
      rw [Option.map_eq_some_iff]
      constructor
      · rintro ⟨rest, hrest, rfl⟩
        exact ⟨_, rest, ⟨hkey, rfl⟩, ih.1 hrest, rfl⟩
      · rintro ⟨⟨word', place⟩, rest, ⟨hfirst, rfl⟩, hrest, rfl⟩
        rw [hkey] at hfirst
        cases hfirst
        exact ⟨rest, ih.2 hrest, rfl⟩

/-- The entries of an object that is closed. -/
theorem entries?_object_eq_some_iff {words : List String} {stop : ObjectStop} :
    entries? words ⟨.object entries stop, room + 1⟩ = some named ↔
      Node.objectReadFlaw stop = none ∧ List.Forall₂ (Names room) entries named ∧
        ∀ entry ∈ named, passable words entry := by
  simp only [entries?, Option.isNone_iff_eq_none]
  by_cases hstop : Node.objectReadFlaw stop = none
  · rw [if_pos hstop, Option.filter_eq_some_iff, named?_eq_some_iff, List.all_eq_true]
    exact ⟨fun h => ⟨hstop, h⟩, fun h => h.2⟩
  · rw [if_neg hstop]
    constructor
    · intro h
      cases h
    · rintro ⟨hclosed, -⟩
      exact absurd hclosed hstop

/-! ## Reading a record -/

section Records

variable {Draft Result : Type} {shape : Shape Place Fault Draft Result}

/-- An entry of an unknown word is passed over. -/
theorem readEntry_of_unknown {entry : StringText × Node} {word : String}
    (hkey : entry.1.decoded = .ok word) (hslot : shape.slot? word = none)
    (progress after : Progress Draft) :
    readEntry shape room progress entry = .ok after ↔
      entry.2.skipFlaw = none ∧ progress = after := by
  simp only [readEntry, nextSlot?, bind_eq_ok_iff, StringText.read?_eq_ok_iff, hkey]
  constructor
  · rintro ⟨found, ⟨word', hword, hfound⟩, hrest⟩
    cases hword
    rw [hslot] at hfound
    cases hfound
    obtain ⟨done, hdone, hafter⟩ := bind_eq_ok_iff.1 hrest
    exact ⟨Fault.stopAt_eq_ok_iff.1 hdone, Except.ok.inj hafter⟩
  · rintro ⟨hskip, rfl⟩
    refine ⟨none, ⟨word, rfl, ?_⟩, ?_⟩
    · rw [hslot]
      rfl
    · rw [hskip]
      rfl

/-- An entry of a known word fills its slot in, if it is the first of that word. -/
theorem readEntry_of_known {entry : StringText × Node} {word : String}
    {slot : Slot Place Fault Draft} (hkey : entry.1.decoded = .ok word)
    (hslot : shape.slot? word = some slot) (progress after : Progress Draft) :
    readEntry shape room progress entry = .ok after ↔
      slot.word ∉ progress.words ∧ ∃ change, slot.fill ⟨entry.2, room⟩ = .ok change ∧
        after = ⟨change progress.draft, slot.word :: progress.words⟩ := by
  have hnext : nextSlot? shape progress entry.1 =
      if slot.word ∈ progress.words then .error (.data (.repeatedEntry slot.word))
      else .ok (some slot) := by
    simp only [nextSlot?, StringText.read?, hkey, Except.mapError, bind, Except.bind, hslot,
      List.contains_iff_mem]
    split
    · rfl
    · rfl
  rw [readEntry, hnext]
  by_cases hused : slot.word ∈ progress.words
  · rw [if_pos hused]
    constructor
    · intro h
      cases h
    · rintro ⟨hfresh, -⟩
      exact absurd hused hfresh
  · rw [if_neg hused]
    cases hfill : slot.fill ⟨entry.2, room⟩ with
    | error fault =>
      simp only [bind, Except.bind, hfill]
      constructor
      · intro h
        cases h
      · rintro ⟨-, change, hchange, -⟩
        cases hchange
    | ok change =>
      simp only [bind, Except.bind, hfill, pure, Except.pure]
      constructor
      · intro h
        cases h
        exact ⟨hused, change, rfl, rfl⟩
      · rintro ⟨-, change', hchange, rfl⟩
        cases hchange
        rfl

/-- What the entries of an object make of a record that is being read. -/
theorem exists_foldlM_readEntry_iff (hshape : shape.Independent) (progress : Progress Draft)
    {final : Draft} :
    (∃ words, entries.foldlM (readEntry shape room) progress = .ok ⟨final, words⟩) ↔
      ∃ named, List.Forall₂ (Names room) entries named ∧
        (∀ entry ∈ named, passable shape.words entry) ∧
        shape.TakesAfter progress.words progress.draft named final := by
  induction entries generalizing progress with
  | nil =>
    constructor
    · rintro ⟨words, h⟩
      cases h
      exact ⟨[], .nil, by simp, Shape.takesAfter_nil_iff.2 rfl⟩
    · rintro ⟨named, hnames, -, htakes⟩
      cases hnames
      rw [Shape.takesAfter_nil_iff] at htakes
      exact ⟨progress.words, by rw [← htakes]; rfl⟩
  | cons entry entries ih =>
    simp only [List.foldlM_cons, bind_eq_ok_iff, List.forall₂_cons_left_iff]
    cases hkey : entry.1.decoded with
    | error flaw =>
      -- A key that cannot be read stops the reader and is no word.
      constructor
      · rintro ⟨words, middle, hmiddle, -⟩
        simp only [readEntry, nextSlot?, StringText.read?, hkey, Except.mapError, bind,
          Except.bind] at hmiddle
        cases hmiddle
      · rintro ⟨named, ⟨first, rest, ⟨hfirst, -⟩, -⟩, -⟩
        rw [hkey] at hfirst
        cases hfirst
    | ok word =>
      have hnames {first : String × Place} (h : Names room entry first) :
          first = (word, ⟨entry.2, room⟩) := by
        obtain ⟨word', place⟩ := first
        obtain ⟨hword, rfl⟩ := h
        rw [hkey] at hword
        cases hword
        rfl
      cases hslot : shape.slot? word with
      | none =>
        have hunknown : word ∉ shape.words := hshape.slot?_eq_none_iff.1 hslot
        simp only [readEntry_of_unknown hkey hslot]
        constructor
        · rintro ⟨words, middle, ⟨hskip, rfl⟩, hrest⟩
          obtain ⟨named, hnamed, hpass, htakes⟩ := (ih _).1 ⟨words, hrest⟩
          refine ⟨_, ⟨(word, ⟨entry.2, room⟩), named, ⟨hkey, rfl⟩, hnamed, rfl⟩, ?_,
            (Shape.takesAfter_cons_unknown_iff hslot).2 htakes⟩
          rw [List.forall_mem_cons]
          exact ⟨by simp [passable, hskip], hpass⟩
        · rintro ⟨_, ⟨first, named, hfirst, hnamed, rfl⟩, hpass, htakes⟩
          obtain rfl := hnames hfirst
          rw [List.forall_mem_cons] at hpass
          have htakes := (Shape.takesAfter_cons_unknown_iff hslot).1 htakes
          obtain ⟨words, hrest⟩ := (ih _).2 ⟨named, hnamed, hpass.2, htakes⟩
          exact ⟨words, progress, ⟨by simpa [passable, hunknown] using hpass.1, rfl⟩, hrest⟩
      | some slot =>
        obtain ⟨hmem, rfl⟩ := hshape.word_eq hslot
        have hknown : slot.word ∈ shape.words := List.mem_map_of_mem hmem
        simp only [readEntry_of_known hkey hslot]
        constructor
        · rintro ⟨words, middle, ⟨hfresh, change, hfill, rfl⟩, hrest⟩
          obtain ⟨named, hnamed, hpass, htakes⟩ := (ih _).1 ⟨words, hrest⟩
          refine ⟨_, ⟨(slot.word, ⟨entry.2, room⟩), named, ⟨hkey, rfl⟩, hnamed, rfl⟩, ?_,
            (Shape.takesAfter_cons_iff hslot).2 ⟨hfresh, change, hfill, htakes⟩⟩
          rw [List.forall_mem_cons]
          exact ⟨by simp [passable, hknown], hpass⟩
        · rintro ⟨_, ⟨first, named, hfirst, hnamed, rfl⟩, hpass, htakes⟩
          obtain rfl := hnames hfirst
          rw [List.forall_mem_cons] at hpass
          obtain ⟨hfresh, change, hfill, hothers⟩ := (Shape.takesAfter_cons_iff hslot).1 htakes
          have hprogress : shape.TakesAfter (slot.word :: progress.words) (change progress.draft)
              named final := hothers
          obtain ⟨words, hrest⟩ := (ih ⟨change progress.draft, _⟩).2
            ⟨named, hnamed, hpass.2, hprogress⟩
          exact ⟨words, _, ⟨hfresh, change, hfill, rfl⟩, hrest⟩

/-- The reader stops after the entries unless the object is closed. -/
theorem stopEntries_eq_ok_iff {progress : Progress Draft} {stop : ObjectStop} :
    stopEntries shape progress stop = .ok () ↔ Node.objectReadFlaw stop = none := by
  cases stop with
  | noColon key ended =>
    have hflaw : Node.objectReadFlaw (.noColon key ended) ≠ none := by
      simp [Node.objectReadFlaw]
    constructor
    · intro h
      obtain ⟨slot, -, hstop⟩ := bind_eq_ok_iff.1 h
      exact Fault.stopAt_eq_ok_iff.1 hstop
    · intro h
      exact absurd h hflaw
  | _ => simp only [stopEntries, Fault.stopAt_eq_ok_iff]

/-- A reader who has taken all that it wants is not stopped if nothing is left and the array is
closed. -/
theorem arraySurplusFlaw_eq_none_iff {left : Nat} {stop : ArrayStop} :
    Node.arraySurplusFlaw left stop = none ↔ left = 0 ∧ Node.arrayReadFlaw stop = none := by
  cases left with
  | zero => cases stop <;> simp [Node.arraySurplusFlaw, Node.arrayReadFlaw]
  | succ left => simp [Node.arraySurplusFlaw]

/-- A record is read from an array that is not too long and is closed. -/
theorem readListed_eq_ok_iff (hshape : shape.Independent) {items : List Node} {stop : ArrayStop}
    {result : Result} :
    readListed shape room items stop = .ok result ↔
      (items.length ≤ shape.words.length ∧ Node.arrayReadFlaw stop = none) ∧
        ∃ draft, shape.Takes (shape.words.zip (items.map fun item => ⟨item, room⟩)) draft ∧
          shape.finish draft = .ok result := by
  have hlength : shape.words.length = shape.slots.length := List.length_map _
  have hstop {finished : Except Fault Result} :
      (if items.length < shape.slots.length then do
          Fault.stopAt (Node.arrayReadFlaw stop)
          finished
        else do
          Fault.stopAt (Node.arraySurplusFlaw (items.length - shape.slots.length) stop)
          finished) = .ok result ↔
        (items.length ≤ shape.words.length ∧ Node.arrayReadFlaw stop = none) ∧
          finished = .ok result := by
    by_cases hshort : items.length < shape.slots.length
    · rw [if_pos hshort, bind_eq_ok_iff]
      constructor
      · rintro ⟨done, hdone, hfinished⟩
        exact ⟨⟨by omega, Fault.stopAt_eq_ok_iff.1 hdone⟩, hfinished⟩
      · rintro ⟨⟨-, hclosed⟩, hfinished⟩
        exact ⟨(), Fault.stopAt_eq_ok_iff.2 hclosed, hfinished⟩
    · rw [if_neg hshort, bind_eq_ok_iff]
      constructor
      · rintro ⟨done, hdone, hfinished⟩
        obtain ⟨hleft, hclosed⟩ := arraySurplusFlaw_eq_none_iff.1 (Fault.stopAt_eq_ok_iff.1 hdone)
        exact ⟨⟨by omega, hclosed⟩, hfinished⟩
      · rintro ⟨⟨hle, hclosed⟩, hfinished⟩
        have hleft : items.length - shape.slots.length = 0 := by omega
        exact ⟨(), Fault.stopAt_eq_ok_iff.2 (arraySurplusFlaw_eq_none_iff.2 ⟨hleft, hclosed⟩),
          hfinished⟩
  have htakes (draft : Draft) :
      shape.Takes (shape.words.zip (items.map fun item => ⟨item, room⟩)) draft ↔
        (shape.slots.zip items).foldlM (fun draft given => do
          return (← given.1.fill ⟨given.2, room⟩) draft) shape.blank = .ok draft := by
    rw [Shape.takes_zip_iff hshape, List.zip_map_right, List.foldlM_map]
    rfl
  rw [readListed, bind_eq_ok_iff]
  simp only [hstop, mapError_eq_ok_iff, Shape.finishListed, htakes]
  constructor
  · rintro ⟨draft, hdraft, hclosed, hfinish⟩
    exact ⟨hclosed, draft, hdraft, hfinish⟩
  · rintro ⟨hclosed, draft, hdraft, hfinish⟩
    exact ⟨draft, hdraft, hclosed, hfinish⟩

/-- A record is read from the entries of an object that is closed. -/
theorem readNamed_eq_ok_iff (hshape : shape.Independent) {stop : ObjectStop} {result : Result} :
    readNamed shape room entries stop = .ok result ↔
      ∃ named draft, entries? shape.words ⟨.object entries stop, room + 1⟩ = some named ∧
        shape.Takes named draft ∧ shape.finish draft = .ok result := by
  simp only [readNamed, bind_eq_ok_iff, mapError_eq_ok_iff, Shape.finishNamed,
    entries?_object_eq_some_iff]
  constructor
  · rintro ⟨⟨draft, words⟩, hfold, done, hdone, hfinish⟩
    obtain ⟨named, hnames, hpass, htakes⟩ :=
      (exists_foldlM_readEntry_iff hshape ⟨shape.blank, []⟩).1 ⟨words, hfold⟩
    exact ⟨named, draft, ⟨stopEntries_eq_ok_iff.1 hdone, hnames, hpass⟩, htakes, hfinish⟩
  · rintro ⟨named, draft, ⟨hstop, hnames, hpass⟩, htakes, hfinish⟩
    obtain ⟨words, hfold⟩ :=
      (exists_foldlM_readEntry_iff hshape ⟨shape.blank, []⟩).2
        ⟨named, hnames, hpass, htakes⟩
    exact ⟨_, hfold, (), stopEntries_eq_ok_iff.2 hstop, hfinish⟩

/-- A record is read from the entries that it finds. -/
theorem readRecord_eq_ok_iff (hshape : shape.Independent) {place : Place} {result : Result} :
    readRecord shape place = .ok result ↔
      ∃ named draft, entries? shape.words place = some named ∧ shape.Takes named draft ∧
        shape.finish draft = .ok result := by
  obtain ⟨node, room⟩ := place
  have hnone (hread : ∀ result, readRecord shape ⟨node, room⟩ ≠ .ok result)
      (hentries : entries? shape.words ⟨node, room⟩ = none) :
      readRecord shape ⟨node, room⟩ = .ok result ↔
        ∃ named draft, entries? shape.words ⟨node, room⟩ = some named ∧ shape.Takes named draft ∧
          shape.finish draft = .ok result := by
    simp [hread, hentries]
  cases node with
  | object entries stop =>
    cases room with
    | zero => exact hnone (fun result h => by cases h) rfl
    | succ room => exact readNamed_eq_ok_iff hshape
  | array items stop =>
    cases room with
    | zero => exact hnone (fun result h => by cases h) rfl
    | succ room =>
      refine (readListed_eq_ok_iff hshape).trans ?_
      simp only [entries?, Option.isNone_iff_eq_none]
      constructor
      · rintro ⟨hclosed, draft, htakes, hfinish⟩
        exact ⟨_, draft, if_pos hclosed, htakes, hfinish⟩
      · rintro ⟨named, draft, hnamed, htakes, hfinish⟩
        obtain ⟨hclosed, heq⟩ := Option.ite_none_right_eq_some.1 hnamed
        cases heq
        exact ⟨hclosed, draft, htakes, hfinish⟩
  | _ => exact hnone (fun result h => by cases h) rfl

end Records

/-- A list is read item by item, if it is closed. -/
theorem readList_eq_ok_iff {Value : Type} {read : Place → Except Fault Value} {place : Place}
    {values : List Value} :
    readList read place = .ok values ↔
      ∃ items, items? place = some items ∧ items.mapM read = .ok values := by
  obtain ⟨node, room⟩ := place
  have hnone (hread : ∀ values, readList read ⟨node, room⟩ ≠ .ok values)
      (hitems : items? ⟨node, room⟩ = none) :
      readList read ⟨node, room⟩ = .ok values ↔
        ∃ items, items? ⟨node, room⟩ = some items ∧ items.mapM read = .ok values := by
    simp [hread, hitems]
  cases node with
  | array items stop =>
    cases room with
    | zero => exact hnone (fun values h => by cases h) rfl
    | succ room =>
      have hread : readList read ⟨.array items stop, room + 1⟩ = (do
          let values ← items.mapM fun item => read ⟨item, room⟩
          Fault.stopAt (Node.arrayReadFlaw stop)
          return values) := rfl
      rw [hread]
      simp only [items?, Option.isNone_iff_eq_none, bind_eq_ok_iff]
      constructor
      · rintro ⟨read, hmapM, done, hdone, heq⟩
        cases heq
        refine ⟨_, if_pos (Fault.stopAt_eq_ok_iff.1 hdone), ?_⟩
        rw [List.mapM_map]
        exact hmapM
      · rintro ⟨found, hfound, hmapM⟩
        obtain ⟨hclosed, heq⟩ := Option.ite_none_right_eq_some.1 hfound
        cases heq
        rw [List.mapM_map] at hmapM
        exact ⟨values, hmapM, (), Fault.stopAt_eq_ok_iff.2 hclosed, rfl⟩
  | _ => exact hnone (fun values h => by cases h) rfl

/-- JSON tells entries and items apart from reading them. -/
def entryFormat : EntryFormat Place Fault where
  entries? := entries?
  items? := items?
  readRecord := readRecord
  readList := readList
  readRecord_eq_ok_iff hshape := readRecord_eq_ok_iff hshape
  readList_eq_ok_iff := readList_eq_ok_iff

end Place

end ModelFactory.Json
