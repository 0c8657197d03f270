import Mathlib.Data.List.Induction
import ModelFactory.Command.Outcome

/-!
# Lines and blocks

`Command.lined` writes lines one after the other, each with its end, and `Text.lines` reads them
back as long as no line holds a newline itself (`Text.lines_lined`).

A blank line separates blocks. `Text.blocks` takes a text apart at its blank lines, and texts of
lines that are not blank, joined with one newline between neighbours, are blocks of the whole
(`Text.blocks_joined`).
-/

set_option autoImplicit false

namespace ModelFactory

/-! ## Written lines -/

/-- Lines of text are their characters, each line with its end. -/
theorem Command.toList_lined (lines : List String) :
    (lined lines).toList = lines.flatMap fun line => line.toList ++ ['\n'] := by
  -- The lines are added at the end of the text.
  induction lines using List.reverseRecOn with
  | nil => rfl
  | append_singleton lines last ih =>
    rw [lined, List.foldl_append, List.foldl_cons, List.foldl_nil, List.flatMap_append, ← ih]
    simp [lined]

open Command (lined toList_lined)

@[simp] theorem Command.lined_nil : lined [] = "" := rfl

theorem Command.lined_cons (line : String) (rest : List String) :
    lined (line :: rest) = line ++ "\n" ++ lined rest := by
  apply String.toList_inj.1
  simp [toList_lined]

theorem Command.lined_append (lines others : List String) :
    lined (lines ++ others) = lined lines ++ lined others := by
  apply String.toList_inj.1
  simp [toList_lined]

namespace Text

/-- Joined lines with a newline behind them are the lines each with its end. -/
theorem joined_append_newline {lines : List String} (h : lines ≠ []) :
    joined "\n" lines ++ "\n" = lined lines := by
  induction lines with
  | nil => exact absurd rfl h
  | cons line rest ih =>
    cases rest with
    | nil => rfl
    | cons next rest =>
      rw [joined_cons_cons, Command.lined_cons, ← ih (by simp)]
      simp only [String.append_assoc]

/-! ## Lines of a text -/

/-- The text is written on one line. -/
def OneLine (text : String) : Prop := '\n' ∉ text.toList

instance (text : String) : Decidable (OneLine text) :=
  inferInstanceAs (Decidable ('\n' ∉ text.toList))

theorem oneLine_append {text other : String} :
    OneLine (text ++ other) ↔ OneLine text ∧ OneLine other := by
  simp [OneLine]

/-- The lines of a text: what stands in front of each newline, and what stands behind the last one
unless that is nothing. -/
def lines (text : String) : List String :=
  let parts := (text.toList.splitOn '\n').map String.ofList
  if parts.getLast? = some "" then parts.dropLast else parts

/-- Between the newlines of written lines there are the lines, and nothing is behind the last. -/
theorem splitOn_lined {lines : List String} (h : ∀ line ∈ lines, OneLine line) :
    (lined lines).toList.splitOn '\n' = lines.map String.toList ++ [[]] := by
  induction lines with
  | nil => rfl
  | cons line rest ih =>
    have hline : '\n' ∉ line.toList := h line List.mem_cons_self
    have hrest := ih fun other hother => h other (List.mem_cons_of_mem _ hother)
    -- The line holds no newline, so the first one in the text is its end.
    rw [toList_lined] at hrest
    rw [toList_lined, List.flatMap_cons, List.append_assoc, List.singleton_append,
      List.splitOn_append_cons_self_of_not_mem hline, hrest, List.map_cons, List.cons_append]

/-- Written lines are read back. -/
theorem lines_lined {lines : List String} (h : ∀ line ∈ lines, OneLine line) :
    Text.lines (lined lines) = lines := by
  -- The last line has its end as well, so one empty part is left behind it.
  have hparts : ((lined lines).toList.splitOn '\n').map String.ofList = lines ++ [""] := by
    rw [splitOn_lined h, List.map_append, List.map_map]
    simp [Function.comp_def]
  simp only [Text.lines, hparts]
  simp

/-! ## Blocks of a text -/

/-- The stretches of a text between its blank lines, each with the ends of its lines. A text without
lines has none. -/
def blocks (text : String) : List String :=
  if lines text = [] then [] else ((lines text).splitOn "").map lined

/-- Texts of lines with one newline between neighbours are the lines with a blank one between
neighbours. -/
theorem joined_lined (texts : List (List String)) :
    joined "\n" (texts.map lined) = lined ([""].intercalate texts) := by
  induction texts with
  | nil => rfl
  | cons first rest ih =>
    cases rest with
    | nil => simp
    | cons next rest =>
      rw [List.map_cons, List.map_cons, joined_cons_cons, ← List.map_cons, ih,
        List.intercalate_cons_cons, Command.lined_append, Command.lined_append]
      rfl

/-- The lines of joined texts are theirs and the blank ones between them. -/
theorem mem_intercalate_blank {texts : List (List String)} {line : String}
    (h : line ∈ [""].intercalate texts) : line = "" ∨ ∃ lines ∈ texts, line ∈ lines := by
  induction texts with
  | nil => cases h
  | cons first rest ih =>
    cases rest with
    | nil =>
      rw [List.intercalate_singleton] at h
      exact .inr ⟨first, List.mem_cons_self, h⟩
    | cons next rest =>
      rw [List.intercalate_cons_cons, List.mem_append, List.mem_append, List.mem_singleton] at h
      rcases h with (hfirst | hblank) | hrest
      · exact .inr ⟨first, List.mem_cons_self, hfirst⟩
      · exact .inl hblank
      · rcases ih hrest with hblank | ⟨lines, hlines, hline⟩
        · exact .inl hblank
        · exact .inr ⟨lines, List.mem_cons_of_mem _ hlines, hline⟩

/-- Texts of lines that are not blank are the blocks of what they are joined to. -/
theorem blocks_joined {texts : List (List String)} (hne : ∀ lines ∈ texts, lines ≠ [])
    (h : ∀ lines ∈ texts, ∀ line ∈ lines, OneLine line ∧ line ≠ "") :
    blocks (joined "\n" (texts.map lined)) = texts.map lined := by
  have hlines : ∀ line ∈ [""].intercalate texts, OneLine line := by
    intro line hline
    rcases mem_intercalate_blank hline with rfl | ⟨lines, hlines, hline⟩
    · decide
    · exact (h lines hlines line hline).1
  rw [joined_lined, blocks, lines_lined hlines]
  cases texts with
  | nil => rfl
  | cons first rest =>
    have hsplit : ([""].intercalate (first :: rest)).splitOn "" = first :: rest :=
      List.splitOn_intercalate "" (fun lines hlines hblank => (h lines hlines "" hblank).2 rfl)
        (List.cons_ne_nil first rest)
    -- The first text has a line, so the whole has one.
    have hfirst : first ≠ [] := hne first List.mem_cons_self
    have hsome : [""].intercalate (first :: rest) ≠ [] := by
      cases rest with
      | nil => simpa using hfirst
      | cons next rest => simp [List.intercalate_cons_cons]
    rw [if_neg hsome, hsplit]

end Text

end ModelFactory
