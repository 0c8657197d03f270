import Mathlib.Data.List.Basic
import ModelFactory.Toml.Values

/-!
# Keys of TOML tables

No table of a TOML text has two entries with one key (`documentOf_keysDiffer`). Every entry is put
where no entry of its key is, or in place of the one that is there, so each way to build a table
keeps its keys apart: following a path (`changeAt_keysDiffer`), the tables between braces
(`inlineTable?_keysDiffer`), and the headers and lines of a draft (`Draft.KeysDiffer`). The reader
of values only puts such values together (`readValue_keysDiffer`).
-/

set_option autoImplicit false

namespace ModelFactory.Toml

/-! ## Values whose keys differ -/

/-- No table in the value has two entries with one key. -/
inductive Value.KeysDiffer : Value → Prop where
  | string (text : String) : KeysDiffer (.string text)
  | integer (value : Int) : KeysDiffer (.integer value)
  | binary (value : Float) : KeysDiffer (.binary value)
  | boolean (value : Bool) : KeysDiffer (.boolean value)
  | moment (text : String) : KeysDiffer (.moment text)
  | array {items : List Value} (h : ∀ item ∈ items, KeysDiffer item) : KeysDiffer (.array items)
  | table {form : TableForm} {entries : Entries} (hkeys : (entries.map (·.1)).Nodup)
    (h : ∀ entry ∈ entries, KeysDiffer entry.2) : KeysDiffer (.table form entries)
  | tables {rows : List Entries} (hkeys : ∀ row ∈ rows, (row.map (·.1)).Nodup)
    (h : ∀ row ∈ rows, ∀ entry ∈ row, KeysDiffer entry.2) : KeysDiffer (.tables rows)

/-- The entries have different keys, and so have the entries of every table in them. -/
structure Entries.KeysDiffer (entries : Entries) : Prop where
  keys : (entries.map (·.1)).Nodup
  values : ∀ entry ∈ entries, entry.2.KeysDiffer

theorem Value.keysDiffer_table_iff {form : TableForm} {entries : Entries} :
    (Value.table form entries).KeysDiffer ↔ entries.KeysDiffer := by
  constructor
  · intro h
    cases h with
    | table hkeys h => exact ⟨hkeys, h⟩
  · intro h
    exact .table h.keys h.values

theorem Value.keysDiffer_tables_iff {rows : List Entries} :
    (Value.tables rows).KeysDiffer ↔ ∀ row ∈ rows, Entries.KeysDiffer row := by
  constructor
  · intro h row hrow
    cases h with
    | tables hkeys h => exact ⟨hkeys row hrow, h row hrow⟩
  · intro h
    exact .tables (fun row hrow => (h row hrow).keys) fun row hrow => (h row hrow).values

namespace Entries

variable {entries : Entries} {key : String} {value : Value}

theorem mem_of_lookup (h : entries.lookup key = some value) : (key, value) ∈ entries := by
  obtain ⟨before, after, rfl, -⟩ := List.lookup_eq_some_iff.1 h
  exact List.mem_append_right _ List.mem_cons_self

theorem keys_replace (key : String) (value : Value) (entries : Entries) :
    (entries.replace key value).map (·.1) = entries.map (·.1) := by
  induction entries with
  | nil => rfl
  | cons entry rest ih =>
    unfold replace
    split
    · rename_i hkey
      rw [List.map_cons, List.map_cons, hkey]
    · rw [List.map_cons, List.map_cons, ih]

theorem mem_replace {entry : String × Value} (h : entry ∈ entries.replace key value) :
    entry = (key, value) ∨ entry ∈ entries := by
  induction entries with
  | nil => cases h
  | cons first rest ih =>
    unfold replace at h
    split at h
    · exact (List.mem_cons.1 h).imp_right (List.mem_cons_of_mem first)
    · rcases List.mem_cons.1 h with rfl | hrest
      · exact .inr List.mem_cons_self
      · exact (ih hrest).imp_right (List.mem_cons_of_mem first)

namespace KeysDiffer

theorem nil : KeysDiffer [] := ⟨List.nodup_nil, fun _ hentry => absurd hentry List.not_mem_nil⟩

theorem of_lookup (h : entries.KeysDiffer) (hlookup : entries.lookup key = some value) :
    value.KeysDiffer :=
  h.values (key, value) (mem_of_lookup hlookup)

/-- An entry of a new key is added. -/
theorem concat (h : entries.KeysDiffer) (hnew : entries.lookup key = none)
    (hvalue : value.KeysDiffer) : KeysDiffer (entries ++ [(key, value)]) := by
  have hkey : key ∉ entries.map (·.1) := by
    rw [List.lookup_eq_none_iff] at hnew
    rintro hmem
    obtain ⟨entry, hentry, rfl⟩ := List.mem_map.1 hmem
    simpa using hnew entry hentry
  constructor
  · rw [List.map_append, List.nodup_append]
    refine ⟨h.keys, List.pairwise_singleton _ _, ?_⟩
    rintro other hother last hlast rfl
    rw [List.map_singleton, List.mem_singleton] at hlast
    rw [hlast] at hother
    exact hkey hother
  · intro entry hentry
    rcases List.mem_append.1 hentry with hin | hlast
    · exact h.values entry hin
    · rw [List.mem_singleton.1 hlast]
      exact hvalue

/-- Another value is put under a key. -/
theorem replace (h : entries.KeysDiffer) (hvalue : value.KeysDiffer) :
    KeysDiffer (entries.replace key value) := by
  constructor
  · rw [keys_replace]
    exact h.keys
  · intro entry hentry
    rcases mem_replace hentry with rfl | hin
    · exact hvalue
    · exact h.values entry hin

theorem without (h : entries.KeysDiffer) (key : String) : KeysDiffer (entries.without key) :=
  ⟨h.keys.sublist (List.filter_sublist.map _),
    fun entry hentry => h.values entry (List.mem_of_mem_filter hentry)⟩

end KeysDiffer

end Entries

namespace Value.KeysDiffer

variable {value : Value}

/-- The keys of a map differ. The one entry of a date is no exception. -/
theorem entries (h : value.KeysDiffer) {given : Entries} (hgiven : value.entries? = some given) :
    given.KeysDiffer := by
  cases h with
  | table hkeys h =>
    cases hgiven
    exact ⟨hkeys, h⟩
  | moment text =>
    cases hgiven
    exact Entries.KeysDiffer.nil.concat rfl (.string text)
  | _ => cases hgiven

theorem items (h : value.KeysDiffer) {given : List Value} (hgiven : value.items? = some given) :
    ∀ item ∈ given, item.KeysDiffer := by
  cases h with
  | array h =>
    cases hgiven
    exact h
  | tables hkeys h =>
    cases hgiven
    intro item hitem
    obtain ⟨row, hrow, rfl⟩ := List.mem_map.1 hitem
    exact .table (hkeys row hrow) (h row hrow)
  | _ => cases hgiven

end Value.KeysDiffer

/-! ## Building tables -/

section Building

variable {kind : PathKind} {path : List String} {form : TableForm} {entries result : Entries}

/-- A change that keeps keys apart does so wherever a path leads to. -/
theorem changeAt_keysDiffer {change : TableForm → Entries → Option Entries}
    (hchange : ∀ (form : TableForm) (entries changed : Entries), entries.KeysDiffer →
      change form entries = some changed → changed.KeysDiffer)
    (h : entries.KeysDiffer) (hresult : changeAt kind change path form entries = some result) :
    result.KeysDiffer := by
  induction path generalizing form entries result with
  | nil => exact hchange form entries result h hresult
  | cons key path ih =>
    unfold changeAt at hresult
    cases hlookup : entries.lookup key with
    | none =>
      rw [hlookup] at hresult
      obtain ⟨inner, hinner, heq⟩ := Option.bind_eq_some_iff.1 hresult
      cases heq
      exact h.concat hlookup (Value.keysDiffer_table_iff.2 (ih .nil hinner))
    | some value =>
      rw [hlookup] at hresult
      have hvalue := h.of_lookup hlookup
      cases value with
      | table form inner =>
        dsimp only at hresult
        split at hresult
        · obtain ⟨changed, hchanged, heq⟩ := Option.bind_eq_some_iff.1 hresult
          cases heq
          exact h.replace (Value.keysDiffer_table_iff.2
            (ih (Value.keysDiffer_table_iff.1 hvalue) hchanged))
        · cases hresult
      | tables rows =>
        dsimp only at hresult
        cases hrows : rows.reverse with
        | nil => rw [hrows] at hresult; cases hresult
        | cons last others =>
          rw [hrows] at hresult
          obtain ⟨changed, hchanged, heq⟩ := Option.bind_eq_some_iff.1 hresult
          cases heq
          -- The last table is changed, and the ones before it stay.
          have hall : ∀ row ∈ last :: others, Entries.KeysDiffer row := by
            intro row hrow
            rw [← hrows, List.mem_reverse] at hrow
            exact Value.keysDiffer_tables_iff.1 hvalue row hrow
          apply h.replace
          rw [Value.keysDiffer_tables_iff]
          intro row hrow
          rcases List.mem_append.1 hrow with hbefore | hlast
          · exact hall row (List.mem_cons_of_mem last (List.mem_reverse.1 hbefore))
          · rw [List.mem_singleton.1 hlast]
            exact ih (hall last List.mem_cons_self) hchanged
      | _ => cases hresult

theorem addEntry_keysDiffer {key : String} {value : Value} (hvalue : value.KeysDiffer)
    (h : entries.KeysDiffer) (hresult : addEntry path key value form entries = some result) :
    result.KeysDiffer := by
  unfold addEntry at hresult
  split at hresult
  · cases hresult
  · rename_i hrefused
    cases hresult
    rw [Bool.or_eq_true, not_or, Option.not_isSome_iff_eq_none] at hrefused
    exact h.concat hrefused.2 hvalue

theorem putAt_keysDiffer {target : KeyPath} {value : Value} (hvalue : value.KeysDiffer)
    (h : entries.KeysDiffer) (hresult : putAt kind target value form entries = some result) :
    result.KeysDiffer :=
  changeAt_keysDiffer (fun _ _ _ => addEntry_keysDiffer hvalue) h hresult

theorem inlineTable?_keysDiffer {given : List (KeyPath × Value)} {value : Value}
    (hgiven : ∀ entry ∈ given, entry.2.KeysDiffer) (hresult : inlineTable? given = some value) :
    value.KeysDiffer := by
  obtain ⟨made, hmade, heq⟩ := Option.bind_eq_some_iff.1 hresult
  cases heq
  clear hresult
  rw [Value.keysDiffer_table_iff]
  have hnil := Entries.KeysDiffer.nil
  generalize ([] : Entries) = start at hmade hnil
  induction given generalizing start with
  | nil =>
    cases hmade
    exact hnil
  | cons entry given ih =>
    rw [List.foldlM_cons] at hmade
    obtain ⟨next, hnext, hrest⟩ := Option.bind_eq_some_iff.1 hmade
    refine ih (fun entry hentry => hgiven entry (List.mem_cons_of_mem _ hentry)) next hrest ?_
    exact putAt_keysDiffer (hgiven entry List.mem_cons_self) hnil hnext

end Building

/-! ## The text read so far -/

namespace Draft

variable {draft after : Draft} {target : KeyPath}

/-- The tables that are complete and the current one keep their keys apart. -/
structure KeysDiffer (draft : Draft) : Prop where
  root : draft.root.KeysDiffer
  current : draft.current.KeysDiffer

theorem KeysDiffer.addLine (h : draft.KeysDiffer) {value : Value} (hvalue : value.KeysDiffer)
    (hafter : draft.addLine target value = some after) : after.KeysDiffer := by
  obtain ⟨current, hcurrent, rfl⟩ := Option.map_eq_some_iff.1 hafter
  exact ⟨h.root, putAt_keysDiffer hvalue h.current hcurrent⟩

theorem addRow_keysDiffer {key : String} {row entries result : Entries} (hrow : row.KeysDiffer)
    (h : entries.KeysDiffer) (hresult : addRow key row entries = some result) :
    result.KeysDiffer := by
  unfold addRow at hresult
  cases hlookup : entries.lookup key with
  | none =>
    rw [hlookup] at hresult
    cases hresult
    apply h.concat hlookup
    rw [Value.keysDiffer_tables_iff]
    intro other hother
    rw [List.mem_singleton.1 hother]
    exact hrow
  | some value =>
    rw [hlookup] at hresult
    cases value with
    | tables rows =>
      cases hresult
      apply h.replace
      have hrows := Value.keysDiffer_tables_iff.1 (h.of_lookup hlookup)
      rw [Value.keysDiffer_tables_iff]
      intro other hother
      rcases List.mem_append.1 hother with hin | hlast
      · exact hrows other hin
      · rw [List.mem_singleton.1 hlast]
        exact hrow
    | _ => cases hresult

theorem KeysDiffer.closed (h : draft.KeysDiffer) {entries : Entries}
    (hclosed : draft.closed = some entries) : entries.KeysDiffer := by
  unfold Draft.closed at hclosed
  split at hclosed
  · cases hclosed
    exact h.current
  · refine changeAt_keysDiffer ?_ h.root hclosed
    intro form entries changed hentries hchanged
    split at hchanged
    · cases hchanged
    · rename_i hnew
      cases hchanged
      rw [Option.not_isSome_iff_eq_none] at hnew
      exact hentries.concat hnew (Value.keysDiffer_table_iff.2 h.current)
  · exact changeAt_keysDiffer (fun _ _ _ => addRow_keysDiffer h.current) h.root hclosed

theorem tableAt?_keysDiffer {path : List String} {entries inner : Entries}
    (h : entries.KeysDiffer) (hinner : tableAt? path entries = some inner) : inner.KeysDiffer := by
  induction path generalizing entries with
  | nil =>
    cases hinner
    exact h
  | cons key path ih =>
    unfold tableAt? at hinner
    cases hlookup : entries.lookup key with
    | none => rw [hlookup] at hinner; cases hinner
    | some value =>
      rw [hlookup] at hinner
      have hvalue := h.of_lookup hlookup
      cases value with
      | table form next => exact ih (Value.keysDiffer_table_iff.1 hvalue) hinner
      | tables rows =>
        obtain ⟨row, hrow, hnext⟩ := Option.bind_eq_some_iff.1 hinner
        exact ih (Value.keysDiffer_tables_iff.1 hvalue row (List.mem_of_getLast? hrow)) hnext
      | _ => cases hinner

theorem KeysDiffer.openTable (h : draft.KeysDiffer) (hafter : draft.openTable target = some after) :
    after.KeysDiffer := by
  obtain ⟨closed, hclosed, hafter⟩ := Option.bind_eq_some_iff.1 hafter
  obtain ⟨root, hroot, hafter⟩ := Option.bind_eq_some_iff.1 hafter
  have hkeys : root.KeysDiffer := by
    refine changeAt_keysDiffer ?_ (h.closed hclosed) hroot
    intro form entries changed hentries hchanged
    cases hchanged
    exact hentries
  split at hafter
  · cases hafter
    exact ⟨hkeys, .nil⟩
  · -- The entries of an implied table move from the complete tables to the current one.
    rename_i entries hfound
    obtain ⟨inner, hinner, hlookup⟩ := Option.bind_eq_some_iff.1 hfound
    obtain ⟨rest, hrest, hafter⟩ := Option.bind_eq_some_iff.1 hafter
    cases hafter
    refine ⟨?_, Value.keysDiffer_table_iff.1
      ((tableAt?_keysDiffer hkeys hinner).of_lookup hlookup)⟩
    refine changeAt_keysDiffer ?_ hkeys hrest
    intro form entries changed hentries hchanged
    cases hchanged
    exact hentries.without _
  · cases hafter

theorem KeysDiffer.openRow (h : draft.KeysDiffer) (hafter : draft.openRow target = some after) :
    after.KeysDiffer := by
  obtain ⟨closed, hclosed, hafter⟩ := Option.bind_eq_some_iff.1 hafter
  obtain ⟨root, hroot, hafter⟩ := Option.bind_eq_some_iff.1 hafter
  cases hafter
  refine ⟨?_, .nil⟩
  refine changeAt_keysDiffer ?_ (h.closed hclosed) hroot
  intro form entries changed hentries hchanged
  split at hchanged
  · rename_i hlookup
    cases hchanged
    apply hentries.concat hlookup
    rw [Value.keysDiffer_tables_iff]
    exact fun _ hrow => absurd hrow List.not_mem_nil
  · cases hchanged
    exact hentries
  · cases hchanged

end Draft

/-! ## Reading -/

/-- The reader gives values whose keys differ. -/
def ValueReader.KeysDiffer (read : ValueReader) : Prop :=
  ∀ (chars : List Char) (value : Value) (rest : List Char), read chars = some (value, rest) →
    value.KeysDiffer

section Reading

variable {read : ValueReader} {chars rest : List Char} {value : Value}

theorem integer?_keysDiffer {number : Int} (h : integer? number = some value) :
    value.KeysDiffer := by
  unfold integer? at h
  split at h
  · cases h
    exact .integer number
  · cases h

theorem binary?_keysDiffer {negative : Bool} {digits : Nat} {exponent : Int}
    (h : binary? negative digits exponent = some value) : value.KeysDiffer := by
  unfold binary? at h
  dsimp only at h
  split at h
  · cases h
  · cases h
    exact .binary _

theorem readDecimal_keysDiffer : ValueReader.KeysDiffer readDecimal := by
  intro chars value rest h
  unfold readDecimal at h
  dsimp only at h
  obtain ⟨⟨whole, _⟩, -, h⟩ := Option.bind_eq_some_iff.1 h
  obtain ⟨⟨fraction, _⟩, -, h⟩ := Option.bind_eq_some_iff.1 h
  obtain ⟨⟨exponent, _⟩, -, h⟩ := Option.bind_eq_some_iff.1 h
  split at h
  · obtain ⟨number, hnumber, h⟩ := Option.bind_eq_some_iff.1 h
    cases h
    exact integer?_keysDiffer hnumber
  · obtain ⟨number, hnumber, h⟩ := Option.bind_eq_some_iff.1 h
    cases h
    exact binary?_keysDiffer hnumber

theorem readNumber_keysDiffer : ValueReader.KeysDiffer readNumber := by
  intro chars value rest h
  unfold readNumber at h
  dsimp only at h
  split at h
  · cases h
    exact .binary _
  · split at h
    · split at h
      · obtain ⟨⟨digits, _⟩, -, h⟩ := Option.bind_eq_some_iff.1 h
        obtain ⟨number, hnumber, h⟩ := Option.bind_eq_some_iff.1 h
        cases h
        exact integer?_keysDiffer hnumber
      · exact readDecimal_keysDiffer _ _ _ h
    · exact readDecimal_keysDiffer _ _ _ h

theorem readScalar_keysDiffer : ValueReader.KeysDiffer readScalar := by
  intro chars value rest h
  unfold readScalar at h
  split at h
  · obtain ⟨text, -, heq⟩ := Option.map_eq_some_iff.1 h
    cases heq
    exact .string _
  · obtain ⟨text, -, heq⟩ := Option.map_eq_some_iff.1 h
    cases heq
    exact .string _
  · cases h
    exact .boolean true
  · cases h
    exact .boolean false
  · split at h
    · cases h
      exact .moment _
    · exact readNumber_keysDiffer _ _ _ h

theorem readEntry_keysDiffer (hread : read.KeysDiffer) {entry : KeyPath × Value}
    (h : readEntry read chars = some (entry, rest)) : entry.2.KeysDiffer := by
  obtain ⟨⟨target, chars⟩, -, h⟩ := Option.bind_eq_some_iff.1 h
  dsimp only at h
  split at h
  · obtain ⟨⟨value, after⟩, hvalue, h⟩ := Option.bind_eq_some_iff.1 h
    cases h
    exact hread _ _ _ hvalue
  · cases h

theorem readItems_keysDiffer (hread : read.KeysDiffer) {steps : Nat} {items : List Value}
    (h : readItems read steps chars = some (items, rest)) : ∀ item ∈ items, item.KeysDiffer := by
  induction steps generalizing chars items rest with
  | zero => cases h
  | succ steps ih =>
    unfold readItems at h
    split at h
    · cases h
      exact fun _ hitem => absurd hitem List.not_mem_nil
    · obtain ⟨⟨first, chars⟩, hfirst, h⟩ := Option.bind_eq_some_iff.1 h
      dsimp only at h
      split at h
      · cases h
        intro item hitem
        rw [List.mem_singleton.1 hitem]
        exact hread _ _ _ hfirst
      · obtain ⟨⟨others, after⟩, hothers, h⟩ := Option.bind_eq_some_iff.1 h
        cases h
        intro item hitem
        rcases List.mem_cons.1 hitem with rfl | hitem
        · exact hread _ _ _ hfirst
        · exact ih hothers item hitem
      · cases h

theorem readInlineEntries_keysDiffer (hread : read.KeysDiffer) {steps : Nat}
    {entries : List (KeyPath × Value)}
    (h : readInlineEntries read steps chars = some (entries, rest)) :
    ∀ entry ∈ entries, entry.2.KeysDiffer := by
  induction steps generalizing chars entries rest with
  | zero => cases h
  | succ steps ih =>
    obtain ⟨⟨first, chars⟩, hfirst, h⟩ := Option.bind_eq_some_iff.1 h
    dsimp only at h
    split at h
    · cases h
      intro entry hentry
      rw [List.mem_singleton.1 hentry]
      exact readEntry_keysDiffer hread hfirst
    · obtain ⟨⟨others, after⟩, hothers, h⟩ := Option.bind_eq_some_iff.1 h
      cases h
      intro entry hentry
      rcases List.mem_cons.1 hentry with rfl | hentry
      · exact readEntry_keysDiffer hread hfirst
      · exact ih hothers entry hentry
    · cases h

/-- However deep values stand in each other, the keys of every table differ. -/
theorem readValue_keysDiffer (room : Nat) : ValueReader.KeysDiffer (readValue room) := by
  induction room with
  | zero =>
    intro chars value rest h
    unfold readValue at h
    split at h
    · cases h
    · cases h
    · exact readScalar_keysDiffer _ _ _ h
  | succ room ih =>
    intro chars value rest h
    unfold readValue at h
    split at h
    · obtain ⟨⟨items, after⟩, hitems, heq⟩ := Option.map_eq_some_iff.1 h
      cases heq
      exact .array (readItems_keysDiffer ih hitems)
    · split at h
      · cases h
        exact Value.keysDiffer_table_iff.2 .nil
      · obtain ⟨⟨entries, after⟩, hentries, h⟩ := Option.bind_eq_some_iff.1 h
        obtain ⟨table, htable, h⟩ := Option.bind_eq_some_iff.1 h
        cases h
        exact inlineTable?_keysDiffer (readInlineEntries_keysDiffer ih hentries) htable
    · exact readScalar_keysDiffer _ _ _ h

variable {draft after : Draft}

/-- A line keeps the keys of the draft apart. -/
theorem readLine_keysDiffer (hdraft : draft.KeysDiffer)
    (h : readLine draft chars = some (after, rest)) : after.KeysDiffer := by
  unfold readLine at h
  split at h
  · obtain ⟨⟨target, _⟩, -, h⟩ := Option.bind_eq_some_iff.1 h
    obtain ⟨opened, hopened, h⟩ := Option.bind_eq_some_iff.1 h
    cases h
    exact hdraft.openRow hopened
  · obtain ⟨⟨target, _⟩, -, h⟩ := Option.bind_eq_some_iff.1 h
    obtain ⟨opened, hopened, h⟩ := Option.bind_eq_some_iff.1 h
    cases h
    exact hdraft.openTable hopened
  · obtain ⟨⟨⟨target, value⟩, _⟩, hentry, h⟩ := Option.bind_eq_some_iff.1 h
    obtain ⟨_, -, h⟩ := Option.bind_eq_some_iff.1 h
    obtain ⟨added, hadded, h⟩ := Option.bind_eq_some_iff.1 h
    cases h
    exact hdraft.addLine (readEntry_keysDiffer (readValue_keysDiffer deepest) hentry) hadded

theorem readLines_keysDiffer {steps : Nat} (hdraft : draft.KeysDiffer)
    (h : readLines steps draft chars = some after) : after.KeysDiffer := by
  induction steps generalizing draft chars with
  | zero => cases h
  | succ steps ih =>
    unfold readLines at h
    split at h
    · cases h
      exact hdraft
    · split at h
      · cases h
        exact hdraft
      · cases h
    · obtain ⟨⟨next, rest⟩, hnext, h⟩ := Option.bind_eq_some_iff.1 h
      exact ih (readLine_keysDiffer hdraft hnext) h

end Reading

/-- No table of a text has two entries with one key. -/
theorem documentOf_keysDiffer {text : String} {entries : Entries}
    (h : documentOf text = some entries) : entries.KeysDiffer := by
  obtain ⟨draft, hdraft, hclosed⟩ := Option.bind_eq_some_iff.1 h
  exact (readLines_keysDiffer ⟨.nil, .nil⟩ hdraft).closed hclosed

end ModelFactory.Toml
