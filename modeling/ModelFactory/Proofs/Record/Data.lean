import Mathlib.Data.List.Forall2
import Mathlib.Data.List.Nodup
import Mathlib.Data.List.Pairwise
import ModelFactory.Proofs.Results
import ModelFactory.Record.Shape

/-!
# Data in any format

`Data` are the values that several formats can write. The entries of a table stand in no order: a
format may write them in any, and a record that is read from them is the same
(`Shape.foldlM_take_perm`), since its slots change different parts of the draft
(`Shape.Independent`).

A `DataFormat` says which data a value of the format stands for, and that lists and records are read
from the values that stand for their parts.
-/

set_option autoImplicit false

namespace ModelFactory.Record

open Results (exists_of_bind_eq_ok)

/-- A value that several formats can write. -/
inductive Data where
  | string (text : String)
  | integer (value : Int)
  | binary (value : Float)
  | boolean (value : Bool)
  | array (items : List Data)
  | table (entries : List (String × Data))

namespace Data

/-- The text that the value is, if it is text. -/
def text? : Data → Option String
  | string text => some text
  | _ => none

/-- At most so many arrays and tables stand in each other. -/
def Within : (room : Nat) → Data → Prop
  | 0, array _ | 0, table _ => False
  | room + 1, array items => ∀ item ∈ items, item.Within room
  | room + 1, table entries => ∀ entry ∈ entries, entry.2.Within room
  | _, _ => True

variable {room : Nat}

@[simp] theorem within_string {text : String} : (string text).Within room := by
  cases room with
  | _ => exact trivial

@[simp] theorem within_boolean {value : Bool} : (boolean value).Within room := by
  cases room with
  | _ => exact trivial

@[simp] theorem within_array {items : List Data} :
    (array items).Within (room + 1) ↔ ∀ item ∈ items, item.Within room := Iff.rfl

theorem within_table {entries : List (String × Data)} :
    (table entries).Within (room + 1) ↔ ∀ entry ∈ entries, entry.2.Within room := Iff.rfl

theorem within_tagged {word : String} {data : Data} :
    (table [(word, data)]).Within (room + 1) ↔ data.Within room := by
  rw [within_table, List.forall_mem_singleton]

end Data

/-! ## Entries that may be missing -/

section Entries

variable {α β : Type}

/-- The entry of a value, if there is one. -/
def optionalEntry (word : String) (value : Option α) : List (String × α) :=
  (value.map fun value => (word, value)).toList

/-- The entries that have a value. -/
def presentEntries (entries : List (String × Option α)) : List (String × α) :=
  entries.flatMap fun entry => optionalEntry entry.1 entry.2

/-- The words of the entries that have a value are among the words of all entries. -/
theorem words_presentEntries (entries : List (String × Option α)) :
    ((presentEntries entries).map (·.1)).Sublist (entries.map (·.1)) := by
  induction entries with
  | nil => exact .slnil
  | cons entry entries ih =>
    obtain ⟨word, value⟩ := entry
    cases value with
    | none => exact ih.cons word
    | some value => exact ih.cons_cons word

/-- What holds of every entry that has a value. -/
theorem forall_mem_presentEntries {entries : List (String × Option α)} {P : String × α → Prop} :
    (∀ entry ∈ presentEntries entries, P entry) ↔
      ∀ entry ∈ entries, ∀ value ∈ entry.2, P (entry.1, value) := by
  simp only [presentEntries, optionalEntry, List.mem_flatMap, Option.mem_toList,
    Option.map_eq_some_iff, Option.mem_def]
  constructor
  · intro h entry hentry value hvalue
    exact h _ ⟨entry, hentry, value, hvalue, rfl⟩
  · rintro h _ ⟨entry, hentry, value, hvalue, rfl⟩
    exact h entry hentry value hvalue

/-- Of a table the entries that have a value count. -/
theorem Data.within_presentEntries {entries : List (String × Option Data)} {room : Nat} :
    (table (presentEntries entries)).Within (room + 1) ↔
      ∀ entry ∈ entries, ∀ data ∈ entry.2, data.Within room :=
  forall_mem_presentEntries

/-- The entry has the word of the other and a value that stands for its value. -/
def EntryRel (R : β → α → Prop) (given : String × β) (entry : String × α) : Prop :=
  given.1 = entry.1 ∧ R given.2 entry.2

/-- Where entries stand for entries, those with a value stand for those with a value. -/
theorem forall₂_presentEntries {R : β → α → Prop} {givens : List (String × Option β)}
    {entries : List (String × Option α)}
    (h : List.Forall₂ (EntryRel (Option.Rel R)) givens entries) :
    List.Forall₂ (EntryRel R) (presentEntries givens) (presentEntries entries) := by
  induction h with
  | nil => exact .nil
  | @cons given entry givens entries hfirst hrest ih =>
    obtain ⟨word, value⟩ := given
    obtain ⟨word', value'⟩ := entry
    obtain ⟨rfl, hvalue⟩ := hfirst
    cases hvalue with
    | none => exact ih
    | some hvalue => exact .cons ⟨rfl, hvalue⟩ ih

end Entries

/-! ## Slots that change different parts -/

section Shapes

variable {Source Fault Draft Result : Type}

/-- It does not matter which of the two slots is filled in first. -/
def Slot.Commutes (first second : Slot Source Fault Draft) : Prop :=
  ∀ ⦃source other : Source⦄ ⦃change change' : Draft → Draft⦄, first.fill source = .ok change →
    second.fill other = .ok change' → ∀ draft, change (change' draft) = change' (change draft)

instance : Std.Symm (@Slot.Commutes Source Fault Draft) where
  symm _ _ h _ _ _ _ hsecond hfirst draft := (h hfirst hsecond draft).symm

theorem Slot.fill_ofReader {Value : Type} {word : String} {read : Source → Except Fault Value}
    {put : Draft → Value → Draft} {source : Source} {value : Value} (h : read source = .ok value) :
    (Slot.ofReader word read put).fill source = .ok fun draft => put draft value := by
  simp only [Slot.ofReader, h, Except.map]

/-- Slots that put values into different parts of the draft. -/
theorem Slot.commutes_ofReader {Value Value' : Type} {word word' : String}
    {read : Source → Except Fault Value} {read' : Source → Except Fault Value'}
    {put : Draft → Value → Draft} {put' : Draft → Value' → Draft}
    (h : ∀ draft value value', put (put' draft value') value = put' (put draft value) value') :
    (Slot.ofReader word read put).Commutes (.ofReader word' read' put') := by
  intro source other change change' hchange hchange' draft
  cases hread : read source with
  | error error =>
    simp only [ofReader, hread, Except.map] at hchange
    cases hchange
  | ok value =>
    cases hread' : read' other with
    | error error =>
      simp only [ofReader, hread', Except.map] at hchange'
      cases hchange'
    | ok value' =>
      rw [fill_ofReader hread] at hchange
      rw [fill_ofReader hread'] at hchange'
      cases hchange
      cases hchange'
      exact h draft value value'

namespace Shape

variable {shape : Shape Source Fault Draft Result}

/-- The slots have one word each, all different, and they change different parts of the draft. -/
structure Independent (shape : Shape Source Fault Draft Result) : Prop where
  oneWord : ∀ slot ∈ shape.slots, slot.otherWords = []
  distinct : shape.words.Nodup
  commute : shape.slots.Pairwise Slot.Commutes

/-- A slot is found by its own word. -/
theorem Independent.word_eq (h : shape.Independent) {word : String}
    {slot : Slot Source Fault Draft} (hslot : shape.slot? word = some slot) :
    slot ∈ shape.slots ∧ slot.word = word := by
  have hmem := List.mem_of_find?_eq_some hslot
  have hnamed := List.find?_some hslot
  refine ⟨hmem, ?_⟩
  rw [Slot.isNamed, h.oneWord slot hmem] at hnamed
  exact Eq.symm (by simpa using hnamed)

theorem Independent.slot?_word (h : shape.Independent) {slot : Slot Source Fault Draft}
    (hslot : slot ∈ shape.slots) : shape.slot? slot.word = some slot := by
  cases hfound : shape.slot? slot.word with
  | none =>
    have hnamed := List.find?_eq_none.1 hfound slot hslot
    simp [Slot.isNamed] at hnamed
  | some other =>
    obtain ⟨hother, hword⟩ := h.word_eq hfound
    rw [List.inj_on_of_nodup_map h.distinct hother hslot hword]

/-- The draft with one more entry. -/
def take (shape : Shape Source Fault Draft Result) (draft : Draft) (entry : String × Source) :
    Except Fault Draft :=
  match shape.slot? entry.1 with
  | some slot => (slot.fill entry.2).map fun change => change draft
  | none => .ok draft

/-- What an entry that is taken in changes is what its slot reads. -/
theorem exists_fill_of_take {draft after : Draft} {entry : String × Source}
    {slot : Slot Source Fault Draft} (hslot : shape.slot? entry.1 = some slot)
    (h : shape.take draft entry = .ok after) :
    ∃ change : Draft → Draft, slot.fill entry.2 = .ok change ∧ after = change draft := by
  rw [take, hslot] at h
  cases hfill : slot.fill entry.2 with
  | error error =>
    simp only [hfill, Except.map] at h
    cases h
  | ok change =>
    simp only [hfill, Except.map, Except.ok.injEq] at h
    exact ⟨change, rfl, h.symm⟩

/-- An entry that is taken in has a slot that is filled in, or no slot. -/
theorem exists_change_of_take {draft after : Draft} {entry : String × Source}
    (h : shape.take draft entry = .ok after) :
    ∃ change : Draft → Draft, after = change draft ∧
      (∀ other, shape.take other entry = .ok (change other)) ∧
      ((∃ slot, shape.slot? entry.1 = some slot ∧ slot.fill entry.2 = .ok change) ∨
        change = id) := by
  cases hslot : shape.slot? entry.1 with
  | none =>
    rw [take, hslot] at h
    cases h
    refine ⟨id, rfl, fun other => ?_, .inr rfl⟩
    rw [take, hslot]
    rfl
  | some slot =>
    obtain ⟨change, hfill, hafter⟩ := exists_fill_of_take hslot h
    refine ⟨change, hafter, fun other => ?_, .inl ⟨slot, rfl, hfill⟩⟩
    simp only [take, hslot, hfill, Except.map]

/-- Two entries with different words may be taken in the other order. -/
theorem take_swap (hshape : shape.Independent) {first second : String × Source}
    (hne : first.1 ≠ second.1) {draft middle after : Draft}
    (hfirst : shape.take draft first = .ok middle)
    (hsecond : shape.take middle second = .ok after) :
    ∃ other, shape.take draft second = .ok other ∧ shape.take other first = .ok after := by
  obtain ⟨change, rfl, htake, hchange⟩ := exists_change_of_take hfirst
  obtain ⟨change', rfl, htake', hchange'⟩ := exists_change_of_take hsecond
  refine ⟨change' draft, htake' draft, ?_⟩
  rw [htake]
  congr 1
  rcases hchange with ⟨slot, hslot, hfill⟩ | rfl
  · rcases hchange' with ⟨slot', hslot', hfill'⟩ | rfl
    · obtain ⟨hmem, hword⟩ := hshape.word_eq hslot
      obtain ⟨hmem', hword'⟩ := hshape.word_eq hslot'
      -- Slots with different words are different slots.
      have hslots : slot ≠ slot' := by
        rintro rfl
        exact hne (hword.symm.trans hword')
      have hcommutes : slot.Commutes slot' :=
        hshape.commute.forall hmem hmem' hslots
      exact hcommutes hfill hfill' draft
    · rfl
  · rfl

/-- Entries with different words give the same draft in any order. -/
theorem foldlM_take_perm (hshape : shape.Independent) {entries others : List (String × Source)}
    (hperm : entries.Perm others) (hwords : (entries.map (·.1)).Nodup) {draft after : Draft}
    (h : entries.foldlM shape.take draft = .ok after) :
    others.foldlM shape.take draft = .ok after := by
  induction hperm generalizing draft with
  | nil => exact h
  | cons entry hperm ih =>
    rw [List.map_cons, List.nodup_cons] at hwords
    rw [List.foldlM_cons] at h ⊢
    obtain ⟨middle, hmiddle, hrest⟩ := exists_of_bind_eq_ok h
    rw [hmiddle]
    exact ih hwords.2 hrest
  | swap second first rest =>
    rw [List.map_cons, List.map_cons, List.nodup_cons, List.mem_cons, not_or] at hwords
    rw [List.foldlM_cons] at h
    obtain ⟨middle, hmiddle, h⟩ := exists_of_bind_eq_ok h
    rw [List.foldlM_cons] at h
    obtain ⟨last, hlast, h⟩ := exists_of_bind_eq_ok h
    obtain ⟨other, hother, hlast'⟩ := take_swap hshape hwords.1.1 hmiddle hlast
    rw [List.foldlM_cons, hother]
    show List.foldlM shape.take other (_ :: rest) = .ok after
    rw [List.foldlM_cons, hlast']
    exact h
  | trans hfirst hsecond ihfirst ihsecond =>
    apply ihsecond _ (ihfirst hwords h)
    exact (hfirst.map _).nodup_iff.1 hwords

/-! ### Slots one after the other -/

/-- Slots that are filled in from values in their order, as far as there are values. -/
def fillAll : List (Slot Source Fault Draft) → List (Option Source) → Draft → Except Fault Draft
  | slot :: slots, some source :: givens, draft => do
    fillAll slots givens ((← slot.fill source) draft)
  | _ :: slots, none :: givens, draft => fillAll slots givens draft
  | _, _, draft => .ok draft

/-- A slot whose value can be read puts what is read into the draft, if there is a value. -/
theorem exists_fillAll_ofReader {Content Value : Type} {R : Source → Data → Prop}
    (encode : Content → Data) (content : Option Content) {data : Option Data}
    (hdata : content.map encode = data) {rest : List (Option Data)} {givens : List (Option Source)}
    (hgivens : List.Forall₂ (Option.Rel R) givens (data :: rest))
    {read : Source → Except Fault Value} {Q : Content → Value → Prop}
    (hread : ∀ source content, R source (encode content) →
      ∃ value, read source = .ok value ∧ Q content value) :
    ∃ value others, Option.Rel Q content value ∧ List.Forall₂ (Option.Rel R) others rest ∧
      ∀ (word : String) (put : Draft → Value → Draft) (slots : List (Slot Source Fault Draft))
        (draft : Draft), fillAll (.ofReader word read put :: slots) givens draft =
          fillAll slots others (value.elim draft (put draft)) := by
  subst hdata
  obtain ⟨given, others, hgiven, hothers, rfl⟩ := List.forall₂_cons_right_iff.1 hgivens
  cases content with
  | none =>
    cases hgiven
    exact ⟨none, others, .none, hothers, fun _ _ _ _ => rfl⟩
  | some content =>
    cases hgiven with
    | some hholds =>
      obtain ⟨value, hvalue, hQ⟩ := hread _ content hholds
      refine ⟨some value, others, .some hQ, hothers, fun word put slots draft => ?_⟩
      rw [fillAll, Slot.fill_ofReader hvalue]
      rfl

/-- The same where the value that is read is known. -/
theorem fillAll_ofReader {Content Value : Type} {R : Source → Data → Prop}
    (encode : Content → Data) (content : Option Content) {data : Option Data}
    (hdata : content.map encode = data) {rest : List (Option Data)} {givens : List (Option Source)}
    (hgivens : List.Forall₂ (Option.Rel R) givens (data :: rest))
    {read : Source → Except Fault Value} {say : Content → Value}
    (hread : ∀ source content, R source (encode content) → read source = .ok (say content)) :
    ∃ others, List.Forall₂ (Option.Rel R) others rest ∧
      ∀ (word : String) (put : Draft → Value → Draft) (slots : List (Slot Source Fault Draft))
        (draft : Draft), fillAll (.ofReader word read put :: slots) givens draft =
          fillAll slots others ((content.map say).elim draft (put draft)) := by
  obtain ⟨value, others, hvalue, hothers, hfill⟩ := exists_fillAll_ofReader encode content hdata
    hgivens (Q := fun content value => say content = value)
    fun source content hholds => ⟨say content, hread source content hholds, rfl⟩
  have hsame : content.map say = value := by
    cases hvalue with
    | none => rfl
    | some hsaid => rw [Option.map_some, hsaid]
  rw [hsame]
  exact ⟨others, hothers, hfill⟩

/-- What stands for the entries of slots gives each slot its value, and taking in the entries fills
in the slots in their order. -/
theorem exists_fillAll {R : Source → Data → Prop} {slots : List (Slot Source Fault Draft)}
    (hslots : ∀ slot ∈ slots, shape.slot? slot.word = some slot)
    {entries : List (String × Option Data)} (hwords : entries.map (·.1) = slots.map (·.word))
    {named : List (String × Source)}
    (h : List.Forall₂ (EntryRel R) named (presentEntries entries)) :
    ∃ givens, List.Forall₂ (Option.Rel R) givens (entries.map (·.2)) ∧
      ∀ draft, named.foldlM shape.take draft = fillAll slots givens draft := by
  induction slots generalizing entries named with
  | nil =>
    obtain rfl := List.map_eq_nil_iff.1 hwords
    cases h
    exact ⟨[], .nil, fun _ => rfl⟩
  | cons slot slots ih =>
    obtain ⟨entry, entries, rfl, hword, hrest⟩ := List.map_eq_cons_iff.1 hwords
    obtain ⟨word, value⟩ := entry
    have hothers : ∀ other ∈ slots, shape.slot? other.word = some other :=
      fun other hother => hslots other (List.mem_cons_of_mem _ hother)
    cases value with
    | none =>
      obtain ⟨givens, hgivens, hfold⟩ := ih hothers hrest h
      exact ⟨none :: givens, .cons .none hgivens, hfold⟩
    | some value =>
      obtain ⟨first, others, ⟨hfirst, hvalue⟩, hnamed, rfl⟩ := List.forall₂_cons_right_iff.1 h
      obtain ⟨givens, hgivens, hfold⟩ := ih hothers hrest hnamed
      refine ⟨some first.2 :: givens, .cons (.some hvalue) hgivens, fun draft => ?_⟩
      have hslot : shape.slot? first.1 = some slot := by
        rw [hfirst]
        exact hword ▸ hslots slot List.mem_cons_self
      rw [List.foldlM_cons, take, hslot, fillAll]
      dsimp only
      cases slot.fill first.2 with
      | error fault => rfl
      | ok change => exact hfold (change draft)

end Shape

end Shapes

/-! ## Formats -/

/-- A format: which data a value stands for, and how lists and records are read. -/
structure DataFormat (Source Fault : Type) where
  /-- The value stands for the data. -/
  Holds : Source → Data → Prop
  readList : {Value : Type} → (Source → Except Fault Value) → Source → Except Fault (List Value)
  readRecord : {Draft Result : Type} → Shape Source Fault Draft Result → Source →
    Except Fault Result
  /-- A list is read from values that stand for its items. -/
  readList_eq {source : Source} {items : List Data} (h : Holds source (.array items)) :
    ∃ sources, List.Forall₂ Holds sources items ∧
      ∀ {Value : Type} (read : Source → Except Fault Value),
        readList read source = sources.mapM read
  /-- A record is read from values that stand for its entries, in any order. -/
  readRecord_eq {source : Source} {entries : List (String × Data)}
    (h : Holds source (.table entries)) (hwords : (entries.map (·.1)).Nodup) :
    ∃ named, List.Forall₂ (EntryRel Holds) named entries ∧
      ∀ {Draft Result : Type} (shape : Shape Source Fault Draft Result) {draft : Draft}
        {result : Result}, shape.Independent → (∀ entry ∈ entries, (shape.slot? entry.1).isSome) →
        named.foldlM shape.take shape.blank = .ok draft → shape.finish draft = .ok result →
        readRecord shape source = .ok result

/-- A record whose entries are those of its slots is read by filling in the slots in their order. -/
theorem DataFormat.readRecord_present {Source Fault Draft Result : Type}
    (format : DataFormat Source Fault) {shape : Shape Source Fault Draft Result}
    (hshape : shape.Independent) {entries : List (String × Option Data)}
    (hwords : entries.map (·.1) = shape.words) {source : Source}
    (h : format.Holds source (.table (presentEntries entries))) :
    ∃ givens, List.Forall₂ (Option.Rel format.Holds) givens (entries.map (·.2)) ∧
      ∀ {draft : Draft} {result : Result},
        Shape.fillAll shape.slots givens shape.blank = .ok draft →
        shape.finish draft = .ok result → format.readRecord shape source = .ok result := by
  have hsublist := words_presentEntries entries
  rw [hwords] at hsublist
  obtain ⟨named, hnamed, hread⟩ := format.readRecord_eq h (hsublist.nodup hshape.distinct)
  obtain ⟨givens, hgivens, hfold⟩ :=
    Shape.exists_fillAll (fun slot hslot => hshape.slot?_word hslot) hwords hnamed
  refine ⟨givens, hgivens, fun hdraft hresult => ?_⟩
  apply hread shape hshape _ ((hfold _).trans hdraft) hresult
  intro entry hentry
  obtain ⟨slot, hslot, hword⟩ := List.mem_map.1 (hsublist.mem (List.mem_map_of_mem hentry))
  rw [← hword, hshape.slot?_word hslot]
  rfl

end ModelFactory.Record
