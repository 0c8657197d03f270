import Mathlib.Data.List.TakeWhile
import ModelFactory.Unicode.Blank

/-!
# Texts without the blanks around them

`Unicode.TrimsTo` says what is left of a text without the blanks around it, by where they stand. Every
text trims to one text, and `Unicode.trimmed` is that text (`Unicode.trimmed_eq_iff`). Nothing is left
of a text of blanks alone, and of no other (`Unicode.trimmed_eq_empty_iff`).
-/

set_option autoImplicit false

namespace ModelFactory.Unicode

/-- The characters neither start nor end with a blank. -/
structure BareEnds (chars : List Char) : Prop where
  first : ∀ char ∈ chars.head?, ¬ isBlank char
  last : ∀ char ∈ chars.getLast?, ¬ isBlank char

instance (chars : List Char) : Decidable (BareEnds chars) :=
  decidable_of_iff ((chars.head?.all fun char => !isBlank char) ∧
      chars.getLast?.all fun char => !isBlank char)
    ⟨fun h => ⟨by simpa [Option.all_eq_true] using h.1, by simpa [Option.all_eq_true] using h.2⟩,
      fun h => ⟨by simpa [Option.all_eq_true] using h.first,
        by simpa [Option.all_eq_true] using h.last⟩⟩

/-- What is written is the text with nothing but blanks around it, and the text has none at its
ends. -/
def TrimsTo (written text : String) : Prop :=
  ∃ before after : List Char, written.toList = before ++ text.toList ++ after ∧
    (∀ char ∈ before, isBlank char) ∧ (∀ char ∈ after, isBlank char) ∧ BareEnds text.toList

/-! ## One end -/

/-- What stands after the blanks is left, if it does not start with one. -/
theorem trimmedStart_append {before chars : List Char} (h : ∀ char ∈ before, isBlank char)
    (hfirst : ∀ char ∈ chars.head?, ¬ isBlank char) : trimmedStart (before ++ chars) = chars := by
  rw [trimmedStart, List.dropWhile_append_of_pos h]
  cases chars with
  | nil => rfl
  | cons first rest => exact List.dropWhile_cons_of_neg (hfirst first rfl)

/-- Only blanks are taken off, and what is left does not start with one. -/
theorem exists_blanks_trimmedStart (chars : List Char) :
    ∃ before, chars = before ++ trimmedStart chars ∧ (∀ char ∈ before, isBlank char) ∧
      ∀ char ∈ (trimmedStart chars).head?, ¬ isBlank char := by
  refine ⟨chars.takeWhile isBlank, List.takeWhile_append_dropWhile.symm, ?_, ?_⟩
  · intro char hchar
    exact List.mem_takeWhile_imp hchar
  · intro char hchar
    have hfirst := List.head?_dropWhile_not isBlank chars
    rw [show (chars.dropWhile isBlank).head? = some char from hchar] at hfirst
    simpa using hfirst

/-! ## Both ends -/

/-- A text trims to what is left without the blanks at its ends, and to nothing else. -/
theorem trimmed_eq_iff {written text : String} : trimmed written = text ↔ TrimsTo written text := by
  constructor
  · rintro rfl
    obtain ⟨before, hbefore, hblank, hfirst⟩ := exists_blanks_trimmedStart written.toList
    obtain ⟨after, hafter, hblank', hlast⟩ :=
      exists_blanks_trimmedStart (trimmedStart written.toList).reverse
    -- Reversed, the blanks at the end are again blanks at the start.
    have hleft : trimmedStart written.toList = (trimmed written).toList ++ after.reverse := by
      rw [trimmed, String.toList_ofList, ← List.reverse_append, ← hafter, List.reverse_reverse]
    refine ⟨before, after.reverse, ?_, hblank, ?_, ?_, ?_⟩
    · rw [List.append_assoc, ← hleft]
      exact hbefore
    · intro char hchar
      exact hblank' char (List.mem_reverse.1 hchar)
    · intro char hchar
      refine hfirst char ?_
      rw [hleft, List.head?_append, hchar]
      rfl
    · intro char hchar
      rw [trimmed, String.toList_ofList, List.getLast?_reverse] at hchar
      exact hlast char hchar
  · rintro ⟨before, after, hwritten, hblank, hblank', hfirst, hlast⟩
    have hreversed : ∀ char ∈ after.reverse, isBlank char := fun char hchar =>
      hblank' char (List.mem_reverse.1 hchar)
    have hend : ∀ char ∈ text.toList.reverse.head?, ¬ isBlank char := by
      rw [List.head?_reverse]
      exact hlast
    apply String.toList_inj.1
    rw [trimmed, String.toList_ofList, hwritten]
    -- The text stops the search for blanks unless it is empty, and then all there is is blank.
    cases htext : text.toList with
    | nil =>
      have hall : ∀ char ∈ before ++ after, isBlank char := fun char hchar =>
        (List.mem_append.1 hchar).elim (hblank char) (hblank' char)
      have hnone : trimmedStart (before ++ after) = [] := List.dropWhile_eq_nil_iff.2 hall
      rw [List.append_nil, hnone]
      rfl
    | cons char rest =>
      rw [htext] at hfirst hend
      have hbare : ∀ first ∈ (char :: rest ++ after).head?, ¬ isBlank first := hfirst
      rw [List.append_assoc, trimmedStart_append hblank hbare, List.reverse_append,
        trimmedStart_append hreversed hend, List.reverse_reverse]

/-- A text trims to one text. -/
theorem TrimsTo.unique {written text other : String} (h : TrimsTo written text)
    (h' : TrimsTo written other) : text = other :=
  (trimmed_eq_iff.2 h).symm.trans (trimmed_eq_iff.2 h')

/-- Nothing is left of a text of blanks. -/
theorem trimmed_eq_empty_iff {written : String} :
    trimmed written = "" ↔ ∀ char ∈ written.toList, isBlank char := by
  rw [trimmed_eq_iff]
  constructor
  · rintro ⟨before, after, hwritten, hblank, hblank', -⟩ char hchar
    rw [hwritten] at hchar
    rcases List.mem_append.1 hchar with hchar | hchar
    · rcases List.mem_append.1 hchar with hchar | hchar
      · exact hblank char hchar
      · cases hchar
    · exact hblank' char hchar
  · intro h
    exact ⟨written.toList, [], by simp, h, by simp, ⟨by simp, by simp⟩⟩

/-- A text without blanks at its ends stays as it is. -/
theorem trimsTo_self {text : String} (h : BareEnds text.toList) : TrimsTo text text :=
  ⟨[], [], by simp, by simp, by simp, h⟩

end ModelFactory.Unicode
