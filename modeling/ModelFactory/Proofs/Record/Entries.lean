import ModelFactory.Proofs.Record.Data

/-!
# Records and their entries

A record is read from named entries (`Shape.Takes`): each word that the record knows stands at most
once, and the entries fill the draft in. What the entries make does not depend on their order, on
entries of unknown words or on entries that leave the blank draft as it is, and any one entry may be
taken last, after all the others (`Shape.takes_insert_iff`). So the draft is what the slots make of
what stands under their words, one slot after the other (`Shape.Takes.fillAll_eq`).

An `EntryFormat` is a format that tells the entries of a record and the items of a list apart from
reading them.
-/

set_option autoImplicit false

namespace ModelFactory.Record

open Results (exists_mem_of_forall₂ exists_of_bind_eq_ok map_eq_map_of_forall₂)

variable {Source Fault Draft Result : Type}

/-- What a slot that reads a value changes. -/
theorem Slot.fill_ofReader_eq_ok_iff {Value : Type} {word : String}
    {read : Source → Except Fault Value} {put : Draft → Value → Draft} {source : Source}
    {change : Draft → Draft} :
    (Slot.ofReader word read put).fill source = .ok change ↔
      ∃ value, read source = .ok value ∧ change = fun draft => put draft value := by
  cases hread : read source with
  | error fault =>
    simp only [ofReader, hread, Except.map]
    constructor
    · intro h
      cases h
    · rintro ⟨value, hvalue, -⟩
      cases hvalue
  | ok value =>
    rw [fill_ofReader hread]
    constructor
    · intro h
      exact ⟨value, rfl, (Except.ok.inj h).symm⟩
    · rintro ⟨value', hvalue, rfl⟩
      cases hvalue
      rfl

namespace Shape

variable {shape : Shape Source Fault Draft Result}

/-! ## Words -/

theorem Independent.slot?_eq_none_iff (h : shape.Independent) {word : String} :
    shape.slot? word = none ↔ word ∉ shape.words := by
  constructor
  · intro hnone hword
    obtain ⟨slot, hslot, rfl⟩ := List.mem_map.1 hword
    rw [h.slot?_word hslot] at hnone
    cases hnone
  · intro hword
    cases hfound : shape.slot? word with
    | none => rfl
    | some slot =>
      obtain ⟨hslot, rfl⟩ := h.word_eq hfound
      exact absurd (List.mem_map_of_mem hslot) hword

theorem Independent.exists_slot? (h : shape.Independent) {word : String}
    (hword : word ∈ shape.words) : ∃ slot, shape.slot? word = some slot := by
  rw [← Option.isSome_iff_exists, Option.isSome_iff_ne_none]
  exact fun hnone => h.slot?_eq_none_iff.1 hnone hword

/-! ## Entries that a record takes -/

/-- The entries of words that the record knows. -/
def known (shape : Shape Source Fault Draft Result) (entries : List (String × Source)) :
    List (String × Source) :=
  entries.filter fun entry => (shape.slot? entry.1).isSome

/-- The record takes the entries after those of the words used up: no word that it knows stands
twice, and the entries make the draft from the one so far. -/
structure TakesAfter (shape : Shape Source Fault Draft Result) (used : List String) (draft : Draft)
    (entries : List (String × Source)) (after : Draft) : Prop where
  distinct : ((shape.known entries).map (·.1)).Nodup
  fresh : ∀ word ∈ (shape.known entries).map (·.1), word ∉ used
  taken : (shape.known entries).foldlM shape.take draft = .ok after

/-- The record takes the entries, and they make the draft. -/
def Takes (shape : Shape Source Fault Draft Result) (entries : List (String × Source))
    (draft : Draft) : Prop :=
  shape.TakesAfter [] shape.blank entries draft

variable {before after entries others : List (String × Source)} {word : String} {source : Source}
  {slot : Slot Source Fault Draft} {draft final : Draft} {used : List String}

theorem known_insert_of_none (h : shape.slot? word = none) (before after : List (String × Source))
    (source : Source) :
    shape.known (before ++ (word, source) :: after) = shape.known (before ++ after) := by
  simp [known, h]

theorem known_cons (h : shape.slot? word = some slot) :
    shape.known ((word, source) :: entries) = (word, source) :: shape.known entries :=
  List.filter_cons_of_pos (by simp [h])

/-- A known word stands among the known entries exactly if it stands at all. -/
theorem mem_words_known_iff (h : shape.slot? word = some slot) :
    word ∈ (shape.known entries).map (·.1) ↔ word ∈ entries.map (·.1) := by
  simp only [known, List.mem_map, List.mem_filter]
  constructor
  · rintro ⟨entry, ⟨hentry, -⟩, rfl⟩
    exact ⟨entry, hentry, rfl⟩
  · rintro ⟨entry, hentry, rfl⟩
    exact ⟨entry, ⟨hentry, by simp [h]⟩, rfl⟩

/-- Nothing is made of no entries. -/
theorem takesAfter_nil_iff : shape.TakesAfter used draft [] final ↔ draft = final := by
  constructor
  · intro h
    exact Except.ok.inj h.taken
  · rintro rfl
    exact ⟨List.nodup_nil, by simp [known], rfl⟩

/-- An entry of an unknown word does not matter. -/
theorem takesAfter_insert_unknown_iff (h : shape.slot? word = none) :
    shape.TakesAfter used draft (before ++ (word, source) :: after) final ↔
      shape.TakesAfter used draft (before ++ after) final := by
  have hknown := known_insert_of_none h before after source
  constructor
  · rintro ⟨hdistinct, hfresh, htaken⟩
    rw [hknown] at hdistinct hfresh htaken
    exact ⟨hdistinct, hfresh, htaken⟩
  · rintro ⟨hdistinct, hfresh, htaken⟩
    rw [← hknown] at hdistinct hfresh htaken
    exact ⟨hdistinct, hfresh, htaken⟩

theorem takesAfter_cons_unknown_iff (h : shape.slot? word = none) :
    shape.TakesAfter used draft ((word, source) :: entries) final ↔
      shape.TakesAfter used draft entries final := by
  rw [← List.nil_append ((word, source) :: entries), takesAfter_insert_unknown_iff h,
    List.nil_append]

/-- An entry of a known word fills its slot in and uses up the word. -/
theorem takesAfter_cons_iff (h : shape.slot? word = some slot) :
    shape.TakesAfter used draft ((word, source) :: entries) final ↔
      word ∉ used ∧ ∃ change, slot.fill source = .ok change ∧
        shape.TakesAfter (word :: used) (change draft) entries final := by
  constructor
  · rintro ⟨hdistinct, hfresh, htaken⟩
    rw [known_cons h] at hdistinct hfresh htaken
    rw [List.map_cons, List.nodup_cons] at hdistinct
    rw [List.map_cons, List.forall_mem_cons] at hfresh
    rw [List.foldlM_cons] at htaken
    obtain ⟨middle, hmiddle, hrest⟩ := exists_of_bind_eq_ok htaken
    obtain ⟨change, hfill, rfl⟩ := exists_fill_of_take h hmiddle
    refine ⟨hfresh.1, change, hfill, hdistinct.2, ?_, hrest⟩
    intro other hother hused
    -- A later word is neither this one nor one before it.
    rcases List.mem_cons.1 hused with rfl | hused
    · exact hdistinct.1 hother
    · exact hfresh.2 other hother hused
  · rintro ⟨hused, change, hfill, hdistinct, hfresh, htaken⟩
    have hword : word ∉ (shape.known entries).map (·.1) := fun hword =>
      hfresh word hword List.mem_cons_self
    refine ⟨?_, ?_, ?_⟩
    · rw [known_cons h, List.map_cons, List.nodup_cons]
      exact ⟨hword, hdistinct⟩
    · rw [known_cons h, List.map_cons, List.forall_mem_cons]
      exact ⟨hused, fun other hother hmem => hfresh other hother (List.mem_cons_of_mem _ hmem)⟩
    · rw [known_cons h, List.foldlM_cons, take, h]
      simp only [hfill, Except.map, bind, Except.bind]
      exact htaken

/-- The order of the entries does not matter. -/
theorem Takes.perm (hshape : shape.Independent) (h : shape.Takes entries draft)
    (hperm : entries.Perm others) : shape.Takes others draft where
  distinct := ((hperm.filter _).map _).nodup_iff.1 h.distinct
  fresh _ _ := List.not_mem_nil
  taken := foldlM_take_perm hshape (hperm.filter _) h.distinct h.taken

theorem takes_perm_iff (hshape : shape.Independent) (hperm : entries.Perm others) :
    shape.Takes entries draft ↔ shape.Takes others draft :=
  ⟨fun h => h.perm hshape hperm, fun h => h.perm hshape hperm.symm⟩

/-- One more entry fills its slot in after all the others. -/
theorem takes_concat_iff (h : shape.slot? word = some slot) :
    shape.Takes (entries ++ [(word, source)]) final ↔
      word ∉ entries.map (·.1) ∧ ∃ base change, shape.Takes entries base ∧
        slot.fill source = .ok change ∧ final = change base := by
  have hknown : shape.known (entries ++ [(word, source)]) =
      shape.known entries ++ [(word, source)] := by
    simp [known, h]
  have hdistinct : ((shape.known (entries ++ [(word, source)])).map (·.1)).Nodup ↔
      word ∉ entries.map (·.1) ∧ ((shape.known entries).map (·.1)).Nodup := by
    rw [hknown, List.map_append, List.map_singleton, List.nodup_append_comm,
      List.singleton_append, List.nodup_cons, mem_words_known_iff h]
  constructor
  · intro htakes
    have htaken := htakes.taken
    rw [hknown, List.foldlM_append] at htaken
    obtain ⟨base, hbase, hlast⟩ := exists_of_bind_eq_ok htaken
    rw [List.foldlM_cons] at hlast
    obtain ⟨made, hmade, hnil⟩ := exists_of_bind_eq_ok hlast
    cases hnil
    obtain ⟨change, hfill, rfl⟩ := exists_fill_of_take h hmade
    obtain ⟨habsent, hothers⟩ := hdistinct.1 htakes.distinct
    exact ⟨habsent, base, change, ⟨hothers, fun _ _ => List.not_mem_nil, hbase⟩, hfill, rfl⟩
  · rintro ⟨habsent, base, change, htakes, hfill, rfl⟩
    refine ⟨hdistinct.2 ⟨habsent, htakes.distinct⟩, fun _ _ => List.not_mem_nil, ?_⟩
    rw [hknown, List.foldlM_append, htakes.taken]
    show List.foldlM shape.take base [(word, source)] = _
    simp only [List.foldlM_cons, List.foldlM_nil, take, h, hfill, Except.map, bind, Except.bind]
    rfl

/-- Any entry of a known word may be taken last. -/
theorem takes_insert_iff (hshape : shape.Independent) (h : shape.slot? word = some slot) :
    shape.Takes (before ++ (word, source) :: after) final ↔
      word ∉ (before ++ after).map (·.1) ∧ ∃ base change, shape.Takes (before ++ after) base ∧
        slot.fill source = .ok change ∧ final = change base := by
  have hperm : (before ++ (word, source) :: after).Perm (before ++ after ++ [(word, source)]) :=
    List.perm_middle.trans (List.perm_append_singleton _ _).symm
  rw [takes_perm_iff hshape hperm, takes_concat_iff h]

/-- An entry that leaves the blank draft as it is does not matter, since it may be taken first. -/
theorem takes_insert_default_iff (hshape : shape.Independent) (h : shape.slot? word = some slot)
    {change : Draft → Draft} (hfill : slot.fill source = .ok change)
    (hblank : change shape.blank = shape.blank) :
    shape.Takes (before ++ (word, source) :: after) final ↔
      word ∉ (before ++ after).map (·.1) ∧ shape.Takes (before ++ after) final := by
  rw [takes_perm_iff hshape List.perm_middle, Takes, takesAfter_cons_iff h,
    ← mem_words_known_iff h]
  constructor
  · rintro ⟨-, change', hfill', hdistinct, hfresh, htaken⟩
    rw [hfill] at hfill'
    cases hfill'
    rw [hblank] at htaken
    exact ⟨fun hword => hfresh word hword List.mem_cons_self, hdistinct,
      fun _ _ => List.not_mem_nil, htaken⟩
  · rintro ⟨habsent, hdistinct, -, htaken⟩
    refine ⟨List.not_mem_nil, change, hfill, hdistinct, ?_, ?_⟩
    · intro other hother hmem
      rw [List.mem_singleton.1 hmem] at hother
      exact habsent hother
    · rw [hblank]
      exact htaken

/-- What stands under a word the record knows can be told from the draft: the slot has filled it in,
or the draft is as if the word stood there with a value that leaves the blank draft as it is. -/
theorem Takes.exists_of_lookup (hshape : shape.Independent) (htakes : shape.Takes entries draft)
    (h : shape.slot? word = some slot) :
    (∀ found, entries.lookup word = some found →
      ∃ base change, slot.fill found = .ok change ∧ draft = change base) ∧
    (entries.lookup word = none →
      ∀ source change, slot.fill source = .ok change → change shape.blank = shape.blank →
        ∃ base, draft = change base) := by
  constructor
  · intro found hfound
    obtain ⟨before, after, hsplit, -⟩ := List.lookup_eq_some_iff.1 hfound
    rw [hsplit] at htakes
    obtain ⟨-, base, change, -, hfill, hdraft⟩ := (takes_insert_iff hshape h).1 htakes
    exact ⟨base, change, hfill, hdraft⟩
  · intro hnone source change hfill hblank
    have habsent : word ∉ entries.map (·.1) := by
      intro hword
      obtain ⟨entry, hentry, rfl⟩ := List.mem_map.1 hword
      simpa using List.lookup_eq_none_iff.1 hnone entry hentry
    have hdefault : shape.Takes ([] ++ (word, source) :: entries) draft :=
      (takes_insert_default_iff hshape h hfill hblank).2 ⟨habsent, htakes⟩
    obtain ⟨-, base, change', -, hfill', hdraft⟩ := (takes_insert_iff hshape h).1 hdefault
    rw [hfill] at hfill'
    cases hfill'
    exact ⟨base, hdraft⟩

/-- A record takes what stands for entries of data with different words, all of them known. -/
theorem takes_of_forall₂ {R : Source → Data → Prop} {datas : List (String × Data)}
    (hnamed : List.Forall₂ (EntryRel R) entries datas) (hwords : (datas.map (·.1)).Nodup)
    (hknown : ∀ entry ∈ datas, (shape.slot? entry.1).isSome)
    (htaken : entries.foldlM shape.take shape.blank = .ok draft) : shape.Takes entries draft := by
  have hall : shape.known entries = entries := by
    rw [known, List.filter_eq_self]
    intro entry hentry
    obtain ⟨data, hdata, hrel⟩ := exists_mem_of_forall₂ hnamed hentry
    rw [hrel.1]
    exact hknown data hdata
  refine ⟨?_, fun _ _ => List.not_mem_nil, ?_⟩
  · rw [hall, map_eq_map_of_forall₂ (hnamed.imp fun _ _ h => h.1)]
    exact hwords
  · rw [hall]
    exact htaken

/-! ## Slots in their order -/

/-- Filling in the slots in their order takes in an entry for each slot that has a value. -/
theorem foldlM_take_presentEntries {slots : List (Slot Source Fault Draft)}
    (hslots : ∀ slot ∈ slots, shape.slot? slot.word = some slot) (given : String → Option Source)
    (draft : Draft) :
    (presentEntries (slots.map fun slot => (slot.word, given slot.word))).foldlM shape.take draft =
      fillAll slots (slots.map fun slot => given slot.word) draft := by
  induction slots generalizing draft with
  | nil => rfl
  | cons slot slots ih =>
    have hslot := hslots slot List.mem_cons_self
    have hothers : ∀ other ∈ slots, shape.slot? other.word = some other :=
      fun other hother => hslots other (List.mem_cons_of_mem _ hother)
    rw [List.map_cons, List.map_cons]
    cases hgiven : given slot.word with
    | none => exact ih hothers draft
    | some source =>
      show List.foldlM shape.take draft ((slot.word, source) :: presentEntries _) = _
      rw [List.foldlM_cons, take, hslot, fillAll]
      dsimp only
      cases slot.fill source with
      | error fault => rfl
      | ok change => exact ih hothers (change draft)

/-- Of the entries that a record takes, those it knows are what stands under its words. -/
theorem Takes.mem_known_iff (htakes : shape.Takes entries draft) (hshape : shape.Independent) :
    (word, source) ∈ shape.known entries ↔
      word ∈ shape.words ∧ entries.lookup word = some source := by
  constructor
  · intro hknown
    obtain ⟨hentry, hsome⟩ := List.mem_filter.1 hknown
    have hslot : (shape.slot? word).isSome := hsome
    refine ⟨?_, ?_⟩
    · by_contra hword
      simp [hshape.slot?_eq_none_iff.2 hword] at hslot
    · cases hlookup : entries.lookup word with
      | none => simpa using List.lookup_eq_none_iff.1 hlookup _ hentry
      | some found =>
        -- What is found stands under the same word, and no known word stands twice.
        obtain ⟨before, after, rfl, -⟩ := List.lookup_eq_some_iff.1 hlookup
        have hfound : (word, found) ∈ shape.known (before ++ (word, found) :: after) :=
          List.mem_filter.2 ⟨List.mem_append_right _ List.mem_cons_self, hslot⟩
        cases List.inj_on_of_nodup_map htakes.distinct hfound hknown rfl
        rfl
  · rintro ⟨hword, hlookup⟩
    obtain ⟨slot, hslot⟩ := hshape.exists_slot? hword
    obtain ⟨before, after, rfl, -⟩ := List.lookup_eq_some_iff.1 hlookup
    exact List.mem_filter.2 ⟨List.mem_append_right _ List.mem_cons_self, by simp [hslot]⟩

/-- A record fills its slots in with what stands under their words. -/
theorem Takes.fillAll_eq (htakes : shape.Takes entries draft) (hshape : shape.Independent) :
    fillAll shape.slots (shape.words.map (entries.lookup ·)) shape.blank = .ok draft := by
  have hnamed : ((presentEntries (shape.slots.map fun slot =>
      (slot.word, entries.lookup slot.word))).map (·.1)).Nodup := by
    refine (words_presentEntries _).nodup ?_
    rw [List.map_map]
    exact hshape.distinct
  have hperm : (shape.known entries).Perm (presentEntries (shape.slots.map fun slot =>
      (slot.word, entries.lookup slot.word))) := by
    rw [List.perm_ext_iff_of_nodup htakes.distinct.of_map hnamed.of_map]
    rintro ⟨word, source⟩
    rw [htakes.mem_known_iff hshape]
    simp only [presentEntries, optionalEntry, words, List.mem_map, List.mem_flatMap,
      Option.mem_toList, Option.map_eq_some_iff]
    constructor
    · rintro ⟨⟨slot, hslot, rfl⟩, hlookup⟩
      exact ⟨_, ⟨slot, hslot, rfl⟩, source, hlookup, rfl⟩
    · rintro ⟨_, ⟨slot, hslot, rfl⟩, found, hlookup, hsame⟩
      cases hsame
      exact ⟨⟨slot, hslot, rfl⟩, hlookup⟩
  have hslots : ∀ slot ∈ shape.slots, shape.slot? slot.word = some slot :=
    fun slot hslot => hshape.slot?_word hslot
  rw [words, List.map_map, ← foldlM_take_perm hshape hperm htakes.distinct htakes.taken]
  exact (foldlM_take_presentEntries hslots (entries.lookup ·) shape.blank).symm

/-- A slot that reads a value puts into the draft what is read, if there is anything to read. -/
theorem exists_of_fillAll_ofReader {Value : Type} {word : String}
    {read : Source → Except Fault Value} {put : Draft → Value → Draft}
    {slots : List (Slot Source Fault Draft)} {source? : Option Source}
    {givens : List (Option Source)}
    (h : fillAll (.ofReader word read put :: slots) (source? :: givens) draft = .ok final) :
    ∃ value?, Option.Rel (fun source value => read source = .ok value) source? value? ∧
      fillAll slots givens (value?.elim draft (put draft)) = .ok final := by
  cases source? with
  | none => exact ⟨none, .none, h⟩
  | some source =>
    rw [fillAll] at h
    obtain ⟨change, hfill, hrest⟩ := exists_of_bind_eq_ok h
    obtain ⟨value, hvalue, rfl⟩ := Slot.fill_ofReader_eq_ok_iff.1 hfill
    exact ⟨some value, .some hvalue, hrest⟩

/-! ## Entries by position -/

/-- Values by position use up words from the first on. -/
theorem words_zip_sublist (words : List String) (sources : List Source) :
    ((words.zip sources).map (·.1)).Sublist words := by
  induction words generalizing sources with
  | nil => exact .slnil
  | cons word words ih =>
    cases sources with
    | nil => exact List.nil_sublist _
    | cons source sources => exact (ih sources).cons_cons word

/-- Values in the order of the slots are entries of the words of the slots. -/
theorem foldlM_fill_zip (hshape : shape.Independent) {slots : List (Slot Source Fault Draft)}
    (hslots : ∀ slot ∈ slots, slot ∈ shape.slots) (sources : List Source) (draft : Draft) :
    (slots.zip sources).foldlM (fun draft (slot, source) => do
        return (← slot.fill source) draft) draft =
      ((slots.map (·.word)).zip sources).foldlM shape.take draft := by
  induction slots generalizing sources draft with
  | nil => rfl
  | cons slot slots ih =>
    cases sources with
    | nil => rfl
    | cons source sources =>
      have hslot := hshape.slot?_word (hslots slot List.mem_cons_self)
      rw [List.zip_cons_cons, List.foldlM_cons, List.map_cons, List.zip_cons_cons,
        List.foldlM_cons]
      simp only [take, hslot]
      cases slot.fill source with
      | error fault => rfl
      | ok change => exact ih (fun slot hslot => hslots slot (List.mem_cons_of_mem _ hslot)) _ _

/-- A record takes values in the order of its slots if each of them fills its slot in. -/
theorem takes_zip_iff (hshape : shape.Independent) {sources : List Source} :
    shape.Takes (shape.words.zip sources) draft ↔
      (shape.slots.zip sources).foldlM (fun draft (slot, source) => do
        return (← slot.fill source) draft) shape.blank = .ok draft := by
  have hwords := words_zip_sublist shape.words sources
  have hknown : shape.known (shape.words.zip sources) = shape.words.zip sources := by
    rw [known, List.filter_eq_self]
    intro entry hentry
    obtain ⟨slot, hslot⟩ := hshape.exists_slot? (hwords.mem (List.mem_map_of_mem hentry))
    rw [hslot]
    rfl
  rw [foldlM_fill_zip hshape (fun _ h => h)]
  constructor
  · intro h
    have htaken := h.taken
    rw [hknown] at htaken
    exact htaken
  · intro h
    refine ⟨?_, fun _ _ => List.not_mem_nil, ?_⟩
    · rw [hknown]
      exact hwords.nodup hshape.distinct
    · rw [hknown]
      exact h

end Shape

/-! ## Formats -/

/-- A format that tells the entries of a record and the items of a list apart from reading them. -/
structure EntryFormat (Source Fault : Type) where
  /-- The entries of a record with these words, if there can be such a record. -/
  entries? : (words : List String) → Source → Option (List (String × Source))
  /-- The items of a list, if it is one. -/
  items? : Source → Option (List Source)
  readRecord {Draft Result : Type} :
    Shape Source Fault Draft Result → Source → Except Fault Result
  readList {Value : Type} : (Source → Except Fault Value) → Source → Except Fault (List Value)
  readRecord_eq_ok_iff {Draft Result : Type} {shape : Shape Source Fault Draft Result}
    (hshape : shape.Independent) {source : Source} {result : Result} :
    readRecord shape source = .ok result ↔
      ∃ entries draft, entries? shape.words source = some entries ∧ shape.Takes entries draft ∧
        shape.finish draft = .ok result
  readList_eq_ok_iff {Value : Type} {read : Source → Except Fault Value} {source : Source}
    {values : List Value} :
    readList read source = .ok values ↔
      ∃ items, items? source = some items ∧ items.mapM read = .ok values

namespace EntryFormat

variable {format : EntryFormat Source Fault} {shape : Shape Source Fault Draft Result}
  {left right : Source} {R : Source → Source → Prop}

/-- What stands under a word that the record knows has filled its slot in. Where nothing stands
there, the draft is as if something did that leaves the blank draft as it is. -/
theorem exists_of_readRecord (hshape : shape.Independent) {word : String}
    {slot : Slot Source Fault Draft} (hslot : shape.slot? word = some slot) {source : Source}
    {result : Result} (hread : format.readRecord shape source = .ok result) :
    ∃ entries draft, format.entries? shape.words source = some entries ∧
      shape.finish draft = .ok result ∧
      (∀ found, entries.lookup word = some found →
        ∃ base change, slot.fill found = .ok change ∧ draft = change base) ∧
      (entries.lookup word = none →
        ∀ source change, slot.fill source = .ok change → change shape.blank = shape.blank →
          ∃ base, draft = change base) := by
  obtain ⟨entries, draft, hentries, htakes, hfinish⟩ := (format.readRecord_eq_ok_iff hshape).1 hread
  obtain ⟨hfound, hnone⟩ := htakes.exists_of_lookup hshape hslot
  exact ⟨entries, draft, hentries, hfinish, hfound, hnone⟩

/-- What stands under a word in a record with these words. -/
def valueAt? (format : EntryFormat Source Fault) (words : List String) (word : String)
    (source : Source) : Option Source :=
  (format.entries? words source).bind (·.lookup word)

/-- A record that is read has filled its slots in with what stands under their words. -/
theorem exists_fillAll_of_readRecord (hshape : shape.Independent) {source : Source}
    {result : Result} (hread : format.readRecord shape source = .ok result) :
    ∃ draft, shape.finish draft = .ok result ∧
      Shape.fillAll shape.slots (shape.words.map (format.valueAt? shape.words · source))
        shape.blank = .ok draft := by
  obtain ⟨entries, draft, hentries, htakes, hfinish⟩ := (format.readRecord_eq_ok_iff hshape).1 hread
  refine ⟨draft, hfinish, ?_⟩
  simp only [valueAt?, hentries, Option.bind_some]
  exact htakes.fillAll_eq hshape

/-- The two are records with the same entries, but for what stands under one word. -/
def PartReplaced (format : EntryFormat Source Fault) (words : List String) (word : String)
    (R : Source → Source → Prop) (left right : Source) : Prop :=
  ∃ before value value' after, format.entries? words left = some (before ++ (word, value) :: after) ∧
    format.entries? words right = some (before ++ (word, value') :: after) ∧ R value value'

/-- The two are lists with the same items, but for one. -/
def ItemReplaced (format : EntryFormat Source Fault) (index : Nat) (R : Source → Source → Prop)
    (left right : Source) : Prop :=
  ∃ before item item' after, before.length = index ∧
    format.items? left = some (before ++ item :: after) ∧
    format.items? right = some (before ++ item' :: after) ∧ R item item'

/-- Where one part of a record is replaced, only the slot of its word is filled in otherwise. -/
theorem PartReplaced.exists_readRecord (hshape : shape.Independent) {word : String}
    {slot : Slot Source Fault Draft} (hslot : shape.slot? word = some slot)
    (h : format.PartReplaced shape.words word R left right) {result : Result}
    (hread : format.readRecord shape left = .ok result) :
    ∃ value value' base change, R value value' ∧ slot.fill value = .ok change ∧
      shape.finish (change base) = .ok result ∧
      ∀ change' result', slot.fill value' = .ok change' →
        shape.finish (change' base) = .ok result' → format.readRecord shape right = .ok result' := by
  obtain ⟨before, value, value', after, hleft, hright, hR⟩ := h
  obtain ⟨entries, draft, hentries, htakes, hfinish⟩ := (format.readRecord_eq_ok_iff hshape).1 hread
  rw [hleft] at hentries
  cases hentries
  -- The replaced entry is taken last, so the others make the same draft before it.
  obtain ⟨habsent, base, change, hbase, hfill, rfl⟩ := (Shape.takes_insert_iff hshape hslot).1 htakes
  refine ⟨value, value', base, change, hR, hfill, hfinish, ?_⟩
  intro change' result' hfill' hfinish'
  have htakes' : shape.Takes (before ++ (word, value') :: after) (change' base) :=
    (Shape.takes_insert_iff hshape hslot).2 ⟨habsent, base, change', hbase, hfill', rfl⟩
  exact (format.readRecord_eq_ok_iff hshape).2 ⟨_, _, hright, htakes', hfinish'⟩

/-- Where one item of a list is replaced, only what is read of it is another. -/
theorem ItemReplaced.exists_readList {index : Nat} (h : format.ItemReplaced index R left right)
    {Value : Type} {read : Source → Except Fault Value} {values : List Value}
    (hread : format.readList read left = .ok values) :
    ∃ item item' value, R item item' ∧ read item = .ok value ∧ values[index]? = some value ∧
      ∀ value', read item' = .ok value' →
        format.readList read right = .ok (values.set index value') := by
  obtain ⟨before, item, item', after, rfl, hleft, hright, hR⟩ := h
  obtain ⟨items, hitems, hvalues⟩ := format.readList_eq_ok_iff.1 hread
  rw [hleft] at hitems
  cases hitems
  rw [List.mapM_append, List.mapM_cons] at hvalues
  obtain ⟨front, hfront, hvalues⟩ := exists_of_bind_eq_ok hvalues
  obtain ⟨rest, hrest, heq⟩ := exists_of_bind_eq_ok hvalues
  cases heq
  obtain ⟨value, hvalue, hrest⟩ := exists_of_bind_eq_ok hrest
  obtain ⟨back, hback, heq⟩ := exists_of_bind_eq_ok hrest
  cases heq
  have hlength : before.length = front.length :=
    (Results.mapM_eq_ok_iff.1 hfront).length_eq
  refine ⟨item, item', value, hR, hvalue, by simp [hlength], ?_⟩
  intro value' hvalue'
  refine format.readList_eq_ok_iff.2 ⟨_, hright, ?_⟩
  rw [hlength, List.set_append_right _ _ (Nat.le_refl _), Nat.sub_self, List.set_cons_zero,
    List.mapM_append, List.mapM_cons, hfront, hvalue', hback]
  rfl

end EntryFormat

end ModelFactory.Record
