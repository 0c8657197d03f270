import ModelFactory.Table.Text

/-!
# The characters of a table

A table is made of the texts of its cells and titles, blanks, strokes and line feeds. Cutting a word
loses nothing (`Table.cutWord_append`), so the lines that words are filled into have the characters
of the words and blanks (`Table.fill_each`). What holds of all these characters holds of every
character of the table (`Table.tableText_each`).
-/

set_option autoImplicit false

namespace ModelFactory

variable {P : Char → Prop}

/-- The property holds of every character of every part. -/
def Text.EachChar (P : Char → Prop) (parts : List (List Char)) : Prop :=
  ∀ part ∈ parts, ∀ char ∈ part, P char

namespace Text

variable {parts : List (List Char)} {separator : Char}

theorem EachChar.withSeparator (hseparator : P separator) (h : EachChar P parts) :
    ∀ char ∈ withSeparator separator parts, P char := by
  induction parts with
  | nil =>
    intro char hchar
    cases hchar
  | cons part rest ih =>
    have hpart := h part List.mem_cons_self
    have hrest := ih fun other hother => h other (List.mem_cons_of_mem part hother)
    cases rest with
    | nil => exact hpart
    | cons next rest =>
      intro char hchar
      rw [withSeparator_cons_cons, List.mem_append, List.mem_cons] at hchar
      rcases hchar with hchar | rfl | hchar
      · exact hpart char hchar
      · exact hseparator
      · exact hrest char hchar

/-- The parts are in the text that they make up. -/
theorem EachChar.of_withSeparator (h : ∀ char ∈ Text.withSeparator separator parts, P char) :
    EachChar P parts := by
  induction parts with
  | nil =>
    intro part hpart
    cases hpart
  | cons part rest ih =>
    cases rest with
    | nil =>
      intro other hother
      rw [List.mem_singleton.1 hother]
      exact h
    | cons next rest =>
      rw [withSeparator_cons_cons] at h
      intro other hother
      rcases List.mem_cons.1 hother with rfl | hother
      · exact fun char hchar => h char (List.mem_append_left _ hchar)
      · exact ih (fun char hchar => h char (List.mem_append_right _ (List.mem_cons_of_mem _ hchar)))
          other hother

theorem eachChar_partsBetween {chars : List Char} (h : ∀ char ∈ chars, P char) :
    EachChar P (partsBetween separator chars) := by
  apply EachChar.of_withSeparator
  rw [withSeparator_partsBetween]
  exact h

/-- Taking a text apart loses nothing but separators. -/
theorem eachChar_partsBetween_iff (hseparator : P separator) {chars : List Char} :
    EachChar P (partsBetween separator chars) ↔ ∀ char ∈ chars, P char := by
  refine ⟨fun h => ?_, eachChar_partsBetween⟩
  have hchars := h.withSeparator hseparator
  rwa [withSeparator_partsBetween] at hchars

end Text

namespace Table

open Text (EachChar)

/-! ## Wrapped lines -/

/-- What fits and what is left make up the clusters. -/
theorem takeFitting_append (room : Nat) (clusters : List (List Char)) :
    (takeFitting room clusters).1 ++ (takeFitting room clusters).2 = clusters.flatten := by
  induction clusters generalizing room with
  | nil => rfl
  | cons cluster rest ih =>
    unfold takeFitting
    dsimp only
    split
    · rw [List.append_assoc, ih, List.flatten_cons]
    · rfl

/-- The pieces of a word make up the word. -/
theorem cutWord_append (room : Nat) (fresh : Bool) (word : List Char) :
    (cutWord room fresh word).1 ++ (cutWord room fresh word).2 = word := by
  have hcut := takeFitting_append room (Unicode.clusters word)
  rw [Unicode.flatten_clusters] at hcut
  unfold cutWord
  split
  · rename_i heq
    rw [heq] at hcut
    exact hcut
  · exact hcut

variable {width : Nat}

theorem withWord_each (hblank : P ' ') {line word : List Char} (hline : ∀ char ∈ line, P char)
    (hword : ∀ char ∈ word, P char) : ∀ char ∈ withWord line word, P char := by
  unfold withWord
  split
  · exact hword
  · intro char hchar
    rcases List.mem_append.1 hchar with hchar | hchar
    · exact hline char hchar
    · rcases List.mem_cons.1 hchar with rfl | hchar
      · exact hblank
      · exact hword char hchar

/-- The lines have the characters of the words, and blanks between them. -/
theorem fill_each (hblank : P ' ') (steps : Nat) {line : List Char} {words : List (List Char)}
    (hline : ∀ char ∈ line, P char) (hwords : EachChar P words) :
    EachChar P (fill width steps line words) := by
  have hnil : ∀ char ∈ ([] : List Char), P char := fun char hchar => by cases hchar
  have hcons {first : List Char} {lines : List (List Char)} (hfirst : ∀ char ∈ first, P char)
      (hlines : EachChar P lines) : EachChar P (first :: lines) :=
    List.forall_mem_cons.2 ⟨hfirst, hlines⟩
  -- A step takes a word or ends a line, so both change along the steps.
  induction steps generalizing line words with
  | zero => exact hcons hline fun _ hpart => by cases hpart
  | succ steps ih =>
    cases words with
    | nil =>
      unfold fill
      split
      · exact fun _ hpart => by cases hpart
      · exact hcons hline fun _ hpart => by cases hpart
    | cons word words =>
      obtain ⟨hword, hrest⟩ := List.forall_mem_cons.1 hwords
      have hjoined := withWord_each hblank hline hword
      unfold fill
      dsimp only
      generalize (if line.isEmpty = true then 0 else 1) = space
      split
      · split
        · exact hcons hjoined (ih hnil hrest)
        · exact ih hjoined hrest
      · split
        · exact hcons hline (ih hnil hwords)
        · split
          · -- The word is cut: its first piece ends the line, and the other is left for the next.
            have hpieces := cutWord_append (width - widthOf line - space) line.isEmpty word
            rw [← hpieces, List.forall_mem_append] at hword
            exact hcons (withWord_each hblank hline hword.1) (ih hnil (hcons hword.2 hrest))
          · split
            · exact hcons hline (hcons hword (ih hnil hrest))
            · exact hcons hline (ih hword hrest)

/-- The lines of a cell have the characters of its text. -/
theorem cellLines_each (hblank : P ' ') {lines : List (List Char)} (h : EachChar P lines) :
    EachChar P (cellLines lines width) := by
  intro piece hpiece
  obtain ⟨line, hline, hpiece⟩ := List.mem_flatMap.1 hpiece
  have hchars := h line hline
  unfold wrapped at hpiece
  split at hpiece
  · rw [List.mem_singleton.1 hpiece]
    exact hchars
  · exact fill_each hblank _ (fun char hchar => by cases hchar)
      (Text.eachChar_partsBetween hchars) piece hpiece

/-! ## Rows -/

theorem repeated_each {char : Char} (h : P char) (count : Nat) :
    ∀ other ∈ repeated char count, P other := by
  intro other hother
  rw [(List.mem_replicate.1 hother).2]
  exact h

theorem paddedLine_each (hblank : P ' ') (rightAligned : Bool) (width : Nat) {line : List Char}
    (h : ∀ char ∈ line, P char) : ∀ char ∈ paddedLine rightAligned width line, P char := by
  have hblanks (count : Nat) := repeated_each hblank count
  unfold paddedLine
  simp only [List.forall_mem_append]
  refine ⟨⟨hblanks _, ?_⟩, hblanks _⟩
  split
  · exact List.forall_mem_append.2 ⟨hblanks _, h⟩
  · exact List.forall_mem_append.2 ⟨h, hblanks _⟩

/-- The lines of a row have the characters of its cells. -/
theorem rowLines_each (hblank : P ' ') {cells : List Cell}
    (h : ∀ cell ∈ cells, EachChar P cell.lines) : EachChar P (rowLines cells) := by
  intro line hline
  obtain ⟨number, -, rfl⟩ := List.mem_map.1 hline
  apply EachChar.withSeparator hblank
  intro part hpart
  obtain ⟨cell, hcell, rfl⟩ := List.mem_map.1 hpart
  apply paddedLine_each hblank
  cases hfound : cell.lines[number]? with
  | none =>
    rw [List.getD_eq_getElem?_getD, hfound]
    exact fun char hchar => by cases hchar
  | some found =>
    rw [List.getD_eq_getElem?_getD, hfound]
    exact h cell hcell found (List.mem_of_getElem? hfound)

/-! ## Tables -/

theorem joined_each {separator : String} (hseparator : ∀ char ∈ separator.toList, P char)
    {parts : List String} (h : ∀ part ∈ parts, ∀ char ∈ part.toList, P char) :
    ∀ char ∈ (Text.joined separator parts).toList, P char := by
  induction parts with
  | nil => exact fun char hchar => by cases hchar
  | cons part rest ih =>
    obtain ⟨hpart, hothers⟩ := List.forall_mem_cons.1 h
    cases rest with
    | nil => exact hpart
    | cons next rest =>
      simp only [Text.joined_cons_cons, String.toList_append, List.forall_mem_append]
      exact ⟨⟨hpart, hseparator⟩, ih hothers⟩

/-- What holds of blanks, strokes and line feeds and of the characters of all titles and cells holds
of the characters of the table. -/
theorem tableText_each (hblank : P ' ') (hstroke : P stroke) (hline : P '\n') (width : Nat)
    {columns : List Column}
    (h : ∀ column ∈ columns, (∀ char ∈ column.title.toList, P char) ∧
      ∀ cell ∈ column.cells, ∀ char ∈ cell.toList, P char) :
    ∀ char ∈ (tableText width columns).toList, P char := by
  have hstrokes : EachChar P ((columnWidths width columns).map fun width =>
      repeated stroke (width + 2 * padding)) := by
    intro part hpart
    obtain ⟨width, -, rfl⟩ := List.mem_map.1 hpart
    exact repeated_each hstroke _
  have hrule : ∀ char ∈ beside ' ' ((columnWidths width columns).map fun width =>
      repeated stroke (width + 2 * padding)), P char := EachChar.withSeparator hblank hstrokes
  have hunder : ∀ char ∈ beside stroke ((columnWidths width columns).map fun width =>
      repeated stroke (width + 2 * padding)), P char := EachChar.withSeparator hstroke hstrokes
  -- A row is made of cells with a text for each column.
  have hrow (cellOf : Column → Nat → Cell)
      (hcell : ∀ column ∈ columns, ∀ width, EachChar P (cellOf column width).lines) :
      EachChar P (rowLines ((columns.zip (columnWidths width columns)).map
        fun sized => cellOf sized.1 sized.2)) := by
    apply rowLines_each hblank
    intro cell hcellMem
    obtain ⟨sized, hsized, rfl⟩ := List.mem_map.1 hcellMem
    exact hcell sized.1 (List.of_mem_zip hsized).1 sized.2
  have htext (rightAligned : Bool) (width : Nat) {text : String}
      (htext : ∀ char ∈ text.toList, P char) :
      EachChar P (Cell.ofText rightAligned width text).lines :=
    cellLines_each hblank (Text.eachChar_partsBetween htext)
  have hfeed : ∀ char ∈ "\n".toList, P char := by simpa using hline
  unfold tableText
  dsimp only
  apply joined_each hfeed
  intro part hpart
  obtain ⟨line, hlines, rfl⟩ := List.mem_map.1 hpart
  rw [String.toList_ofList]
  simp only [List.mem_append, List.mem_cons, List.mem_flatMap, List.not_mem_nil, or_false] at hlines
  rcases hlines with ((rfl | htitle) | rfl | ⟨row, -, hcells⟩) | rfl
  · exact hrule
  · exact hrow (fun column width => .ofText false width column.title)
      (fun column hcolumn width => htext false width (h column hcolumn).1) line htitle
  · exact hunder
  · refine hrow (fun column width => column.cell row width) ?_ line hcells
    intro column hcolumn width
    apply htext
    intro char hchar
    cases hfound : column.cells[row]? with
    | none =>
      rw [List.getD_eq_getElem?_getD, hfound] at hchar
      cases hchar
    | some cell =>
      rw [List.getD_eq_getElem?_getD, hfound] at hchar
      exact (h column hcolumn).2 cell (List.mem_of_getElem? hfound) char hchar
  · exact hrule

end Table

end ModelFactory
