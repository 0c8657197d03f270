import Mathlib.Data.List.Induction
import ModelFactory.Descriptor.Data

/-!
# Reading override tables

A table made of entries one after the other answers with the last entry of a key
(`OverrideTable.getElem?_ofEntries`), and of two tables laid over each other the upper one answers
first (`OverrideTable.getElem?_layeredOver`). Where an entry without text takes away what was there
before, the last entry of a key still decides, and answers only if it is text
(`Descriptor.getElem?_overridesOf`). With keys that are pairwise distinct every entry is answered
(`OverrideTable.getElem?_ofEntries_filterMap`).
-/

set_option autoImplicit false

namespace ModelFactory

namespace OverrideTable

/-- Entries that are put over a table one after the other: the last entry of a key answers, and the
table below where there is none. -/
theorem getElem?_foldl_insert (entries : List (String × String)) (lower : OverrideTable)
    (key : String) :
    (entries.foldl (fun table entry => table.insert entry.1 entry.2) lower)[key]? =
      (entries.reverse.lookup key).or lower[key]? := by
  -- From the right, since the entry put in last is the one that answers.
  induction entries using List.reverseRecOn with
  | nil => rfl
  | append_singleton front last ih =>
    obtain ⟨lastKey, expression⟩ := last
    rw [List.foldl_append, List.foldl_cons, List.foldl_nil, Std.ExtTreeMap.getElem?_insert, ih,
      List.reverse_append]
    by_cases h : lastKey = key
    · subst h
      simp
    · have hkey : (key == lastKey) = false := by simpa using Ne.symm h
      simp [List.lookup_cons, hkey, h]

theorem ofEntries_concat (entries : List (String × String)) (entry : String × String) :
    ofEntries (entries ++ [entry]) = (ofEntries entries).insert entry.1 entry.2 := by
  simp only [ofEntries, List.foldl_append, List.foldl_cons, List.foldl_nil]

/-- A table answers with the last entry of a key. -/
theorem getElem?_ofEntries (entries : List (String × String)) (key : String) :
    (ofEntries entries)[key]? = entries.reverse.lookup key := by
  rw [ofEntries, getElem?_foldl_insert, Std.ExtTreeMap.getElem?_empty, Option.or_none]

/-- What a table answers is the text of one of its entries. -/
theorem mem_of_getElem?_ofEntries {entries : List (String × String)} {key text : String}
    (h : (ofEntries entries)[key]? = some text) : (key, text) ∈ entries := by
  rw [getElem?_ofEntries] at h
  obtain ⟨before, after, hsplit, -⟩ := List.lookup_eq_some_iff.1 h
  rw [← List.mem_reverse, hsplit]
  exact List.mem_append_right _ List.mem_cons_self

/-- A key that no entry has is not answered. -/
theorem getElem?_ofEntries_eq_none {entries : List (String × String)} {key : String}
    (h : ∀ entry ∈ entries, entry.1 ≠ key) : (ofEntries entries)[key]? = none := by
  rw [getElem?_ofEntries, List.lookup_eq_none_iff]
  intro entry hentry
  have hne : entry.1 ≠ key := h entry (List.mem_reverse.1 hentry)
  simpa using Ne.symm hne

/-- A table is made of any entries that are just its keys with their texts. -/
theorem ofEntries_eq {entries : List (String × String)} {table : OverrideTable}
    (h : ∀ key text, (key, text) ∈ entries ↔ table[key]? = some text) :
    ofEntries entries = table := by
  apply Std.ExtTreeMap.ext_getElem?
  intro key
  rw [getElem?_ofEntries]
  -- The last entry of the key answers, and any entry of the key says what the table says.
  cases hfind : entries.reverse.lookup key with
  | none =>
    symm
    rw [Option.eq_none_iff_forall_ne_some]
    intro text htext
    have hne := List.lookup_eq_none_iff.1 hfind (key, text) (List.mem_reverse.2 ((h _ _).2 htext))
    simp at hne
  | some text =>
    rw [← getElem?_ofEntries] at hfind
    exact ((h key text).1 (mem_of_getElem?_ofEntries hfind)).symm

theorem ofEntries_toList (table : OverrideTable) : ofEntries table.toList = table :=
  ofEntries_eq fun _ _ => Std.ExtTreeMap.mem_toList_iff_getElem?_eq_some

/-- Of two tables the upper one answers, and the lower one where that has no entry. -/
theorem getElem?_layeredOver (upper lower : OverrideTable) (key : String) :
    (upper.layeredOver lower)[key]? = upper[key]?.or lower[key]? := by
  have hupper : upper[key]? = upper.toList.reverse.lookup key := by
    rw [← getElem?_ofEntries, ofEntries_toList]
  rw [layeredOver, Std.ExtTreeMap.foldl_eq_foldl_toList, getElem?_foldl_insert, hupper]

/-- A table is made of the texts that it has for some names, where each of its keys is such a
name. -/
theorem ofEntries_filterMap_names {table : OverrideTable} {names : List String}
    (h : ∀ key ∈ table, key ∈ names) :
    ofEntries (names.filterMap fun name => table[name]?.map fun text => (name, text)) = table := by
  apply ofEntries_eq
  intro key text
  rw [List.mem_filterMap]
  constructor
  · rintro ⟨name, -, hname⟩
    obtain ⟨found, hfound, hpair⟩ := Option.map_eq_some_iff.1 hname
    cases hpair
    exact hfound
  · intro htext
    have hkey : key ∈ table := by
      rw [Std.ExtTreeMap.mem_iff_isSome_getElem?, htext]
      rfl
    refine ⟨key, h key hkey, ?_⟩
    rw [htext]
    rfl

variable {Item : Type}

/-- Where items have pairwise distinct keys and give at most one text each, a table of their texts
answers with the text of the item that has the key. -/
theorem getElem?_ofEntries_filterMap (key : Item → String) (text : Item → Option String)
    {items : List Item} (hkeys : (items.map key).Nodup) {item : Item} (hitem : item ∈ items) :
    (ofEntries (items.filterMap fun item => (text item).map fun text => (key item, text)))[
      key item]? = text item := by
  induction items using List.reverseRecOn with
  | nil => simp at hitem
  | append_singleton front last ih =>
    rw [List.map_append, List.nodup_append] at hkeys
    obtain ⟨hfront, -, hlast⟩ := hkeys
    -- No item before the last one has its key, so the last entry hides nothing.
    have hne : ∀ other ∈ front, key other ≠ key last := by
      intro other hother
      exact hlast _ (List.mem_map_of_mem hother) _ (by simp)
    rw [List.filterMap_append]
    rcases List.mem_append.1 hitem with hin | hin
    · cases htext : text last with
      | none => simpa [htext] using ih hfront hin
      | some expression =>
        have hfind := ih hfront hin
        simp only [List.filterMap_cons, List.filterMap_nil, htext, Option.map_some]
        rw [ofEntries_concat, Std.ExtTreeMap.getElem?_insert, hfind]
        simp [Ne.symm (hne item hin)]
    · obtain rfl : item = last := by simpa using hin
      cases htext : text item with
      | none =>
        simp only [List.filterMap_cons, List.filterMap_nil, htext, Option.map_none,
          List.append_nil]
        refine getElem?_ofEntries_eq_none ?_
        intro entry hentry
        obtain ⟨other, hother, hentry⟩ := List.mem_filterMap.1 hentry
        obtain ⟨text, -, rfl⟩ := Option.map_eq_some_iff.1 hentry
        exact hne other hother
      | some expression =>
        simp only [List.filterMap_cons, List.filterMap_nil, htext, Option.map_some]
        rw [ofEntries_concat, Std.ExtTreeMap.getElem?_insert]
        simp

end OverrideTable

namespace Descriptor

/-- The text that entries give a key: that of the last entry of the key, if it is text. -/
def lastText? (entries : List (String × Option String)) (key : String) : Option String :=
  (entries.reverse.lookup key).join

/-- A table made of entries with and without text answers with the text of the last entry of a
key. -/
theorem getElem?_overridesOf (entries : List (String × Option String)) (key : String) :
    (overridesOf entries)[key]? = lastText? entries key := by
  induction entries using List.reverseRecOn with
  | nil => simp [overridesOf, lastText?]
  | append_singleton front last ih =>
    have hstep : overridesOf (front ++ [last]) = putOverride (overridesOf front) last := by
      simp only [overridesOf, List.foldl_append, List.foldl_cons, List.foldl_nil]
    obtain ⟨lastKey, text⟩ := last
    rw [hstep]
    unfold lastText? at ih ⊢
    rw [List.reverse_append]
    by_cases h : lastKey = key
    · subst h
      cases text <;> simp [putOverride]
    · have hkey : (key == lastKey) = false := by simpa using Ne.symm h
      cases text with
      | none => simp [putOverride, Std.ExtTreeMap.getElem?_erase, List.lookup_cons, hkey, h, ih]
      | some expression =>
        simp [putOverride, Std.ExtTreeMap.getElem?_insert, List.lookup_cons, hkey, h, ih]

end Descriptor

end ModelFactory
