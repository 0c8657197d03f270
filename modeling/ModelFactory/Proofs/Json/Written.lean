import ModelFactory.Json.Reader
import ModelFactory.Proofs.Json.Data
import ModelFactory.Text.Parts

/-!
# Written JSON

`stringText`, `truthText`, `arrayText` and `objectText` write values without blanks and with the
escapes that JSON requires. `Node.IsReadFrom` says that the reader takes a text to its end and gives
a node, whatever follows; `Spells` adds that the node stands for data. Each way to write a value
spells what its parts spell.
-/

set_option autoImplicit false

namespace ModelFactory.Json

open Record (Data EntryRel)
open ModelFactory.Text (withSeparator withSeparator_cons_cons)

/-! ## Strings -/

/-- The characters that are written with a letter after a backslash. -/
def escapeLetters : List (Char × Char) :=
  [('"', '"'), ('\\', '\\'), ('\x08', 'b'), ('\x0c', 'f'), ('\n', 'n'), ('\r', 'r'), ('\t', 't')]

/-- A control character, written with the digits of its code. -/
def unitText (code : Nat) : List Char :=
  ['\\', 'u', '0', '0', Nat.digitChar (code / 16), Nat.digitChar (code % 16)]

/-- A character between quotes. -/
def escapedChar (char : Char) : List Char :=
  match escapeLetters.lookup char with
  | some letter => ['\\', letter]
  | none => if char.toNat < 0x20 then unitText char.toNat else [char]

/-- A string between quotes. -/
def stringText (text : String) : List Char := '"' :: (text.toList.flatMap escapedChar ++ ['"'])

/-- The piece that the character of a written string is read as. -/
def StringPiece.ofChar (char : Char) : StringPiece :=
  match escapeLetters.lookup char with
  | some _ => .plain char
  | none => if char.toNat < 0x20 then .unit char.toNat else .plain char

/-- A string as `stringText` writes it. -/
def StringText.ofString (text : String) : StringText := ⟨text.toList.map .ofChar, .closed⟩

theorem hexUnit?_digitChar :
    ∀ code < 0x20, hexUnit? '0' '0' (Nat.digitChar (code / 16)) (Nat.digitChar (code % 16)) =
      some code := by
  decide

/-- A character that is written as it is closes no string and starts no escape. -/
theorem ne_of_lookup_escapeLetters {char : Char} (h : escapeLetters.lookup char = none) :
    char ≠ '"' ∧ char ≠ '\\' := by
  constructor
  · rintro rfl
    cases h
  · rintro rfl
    cases h

namespace StringText

/-- A written character is read as one piece. -/
theorem read_escapedChar (char : Char) (rest : List Char) :
    read (escapedChar char ++ rest) = ((read rest).1.cons (.ofChar char), (read rest).2) := by
  unfold escapedChar StringPiece.ofChar
  cases hletter : escapeLetters.lookup char with
  | some letter =>
    -- The reader takes each of the seven letters for its character.
    have hmem : (char, letter) ∈ escapeLetters := by
      obtain ⟨before, after, hsplit, -⟩ := List.lookup_eq_some_iff.1 hletter
      rw [hsplit]
      exact List.mem_append_right _ List.mem_cons_self
    simp only [escapeLetters, List.mem_cons, Prod.mk.injEq, List.not_mem_nil, or_false] at hmem
    rcases hmem with ⟨rfl, rfl⟩ | ⟨rfl, rfl⟩ | ⟨rfl, rfl⟩ | ⟨rfl, rfl⟩ | ⟨rfl, rfl⟩ | ⟨rfl, rfl⟩ |
      ⟨rfl, rfl⟩
    all_goals rfl
  | none =>
    obtain ⟨hquote, hmark⟩ := ne_of_lookup_escapeLetters hletter
    by_cases hcontrol : char.toNat < 0x20
    · simp only [if_pos hcontrol, unitText, List.cons_append, List.nil_append]
      rw [read, hexUnit?_digitChar _ hcontrol]
    · simp only [if_neg hcontrol, List.cons_append, List.nil_append]
      rw [read]
      · rw [if_neg hcontrol]
      all_goals grind

/-- A written string is read to its closing quote. -/
theorem read_written (text : String) (rest : List Char) :
    read (text.toList.flatMap escapedChar ++ '"' :: rest) = (ofString text, some rest) := by
  unfold ofString
  induction text.toList with
  | nil => rfl
  | cons char chars ih =>
    rw [List.flatMap_cons, List.append_assoc, read_escapedChar, ih]
    rfl

/-- A piece stands for its character, and no pair of pieces has to be put together. -/
theorem decodePieces_ofChar (chars : List Char) :
    decodePieces .closed (chars.map .ofChar) = .ok chars := by
  induction chars with
  | nil => rfl
  | cons char chars ih =>
    rw [List.map_cons, StringPiece.ofChar]
    cases escapeLetters.lookup char with
    | some letter =>
      simp only [decodePieces, ih]
      rfl
    | none =>
      by_cases hcontrol : char.toNat < 0x20
      -- The codes of control characters are below all halves of pairs.
      · have hlow : isLowSurrogate char.toNat = false := by
          simp only [isLowSurrogate, Bool.and_eq_false_iff, decide_eq_false_iff_not]
          omega
        have hhigh : isHighSurrogate char.toNat = false := by
          simp only [isHighSurrogate, Bool.and_eq_false_iff, decide_eq_false_iff_not]
          omega
        simp only [if_pos hcontrol]
        rw [decodePieces.eq_def]
        simp only [hlow, hhigh, ih, Char.ofNat_toNat, Bool.false_eq_true, if_false]
        rfl
      · simp only [if_neg hcontrol, decodePieces, ih]
        rfl

theorem decoded_ofString (text : String) : (ofString text).decoded = .ok text := by
  rw [decoded, ofString, decodePieces_ofChar]
  exact congrArg Except.ok String.ofList_toList

end StringText

/-! ## Values that are read to their end -/

/-- The reader takes the text to its end and gives the node, whatever follows. The text starts with
a character of the value. -/
structure Node.IsReadFrom (node : Node) (text : List Char) : Prop where
  starts : ∃ char rest, text = char :: rest ∧ isBlank char = false ∧ char ≠ ']'
  read : ∀ steps rest, 2 * text.length ≤ steps → readValue steps (text ++ rest) = (node, some rest)

/-- The text is read as a value that stands for the data. -/
def Spells (text : List Char) (data : Data) : Prop :=
  ∃ node : Node, node.IsReadFrom text ∧ node.Holds data

theorem skipBlanks_cons {char : Char} (h : isBlank char = false) (rest : List Char) :
    skipBlanks (char :: rest) = char :: rest := by
  rw [skipBlanks, List.dropWhile_cons, h]
  rfl

/-- Reading any value takes a step. -/
theorem Node.IsReadFrom.of_cons {node : Node} {char : Char} {text : List Char}
    (hblank : isBlank char = false) (hclose : char ≠ ']')
    (hread : ∀ steps rest, 2 * text.length + 1 ≤ steps →
      readValue (steps + 1) (char :: (text ++ rest)) = (node, some rest)) :
    node.IsReadFrom (char :: text) where
  starts := ⟨char, text, rfl, hblank, hclose⟩
  read steps rest hsteps := by
    rw [List.length_cons] at hsteps
    obtain ⟨less, rfl⟩ : ∃ less, steps = less + 1 := Nat.exists_eq_add_one_of_ne_zero (by omega)
    exact hread less rest (by omega)

/-- A whole text is read as the value that it consists of. -/
theorem Text.read_ofList {node : Node} {text : List Char} (h : node.IsReadFrom text) :
    Text.read (String.ofList text) = ⟨node, false⟩ := by
  have hread := h.read (2 * text.length + 2) [] (by omega)
  rw [List.append_nil] at hread
  rw [Text.read, String.toList_ofList, hread]
  rfl

/-! ## Single values -/

/-- A truth value. -/
def truthText (value : Bool) : List Char :=
  if value then ['t', 'r', 'u', 'e'] else ['f', 'a', 'l', 's', 'e']

theorem spells_stringText (text : String) : Spells (stringText text) (.string text) := by
  refine ⟨.string (.ofString text), .of_cons rfl (by decide) ?_,
    .string (StringText.decoded_ofString text)⟩
  intro steps rest _
  rw [List.append_assoc, readValue, skipBlanks_cons rfl]
  simp only [List.cons_append, List.nil_append, StringText.read_written]

theorem spells_truthText (value : Bool) : Spells (truthText value) (.boolean value) := by
  refine ⟨.boolean value, ?_, .boolean value⟩
  cases value with
  | false => exact .of_cons rfl (by decide) fun _ _ _ => rfl
  | true => exact .of_cons rfl (by decide) fun _ _ _ => rfl

/-! ## Arrays -/

/-- An array of written values. -/
def arrayText (items : List (List Char)) : List Char := '[' :: (withSeparator ',' items ++ [']'])

/-- A list of written values starts as its first value does. -/
theorem withSeparator_starts {node : Node} {text : List Char} (h : node.IsReadFrom text)
    (texts : List (List Char)) :
    ∃ char rest, withSeparator ',' (text :: texts) = char :: rest ∧ isBlank char = false ∧
      char ≠ ']' := by
  obtain ⟨char, rest, rfl, hblank, hclose⟩ := h.starts
  cases texts with
  | nil => exact ⟨char, rest, rfl, hblank, hclose⟩
  | cons next texts => exact ⟨char, _, rfl, hblank, hclose⟩

/-- The brackets of an array are opened before an element. -/
theorem readValue_array {char : Char} (hblank : isBlank char = false) (hclose : char ≠ ']')
    {steps : Nat} {rest : List Char} {read : List Node × ArrayStop × Option (List Char)}
    (h : readItems steps (char :: rest) = read) :
    readValue (steps + 1) ('[' :: char :: rest) = (.array read.1 read.2.1, read.2.2) := by
  rw [readValue, skipBlanks_cons rfl]
  simp only [skipBlanks_cons hblank]
  split
  · contradiction
  · simp_all
  · rw [h]

/-- The last element stands before the closing bracket. -/
theorem readItems_last {steps : Nat} {chars rest : List Char} {item : Node}
    (h : readValue steps chars = (item, some (']' :: rest))) :
    readItems (steps + 1) chars = ([item], .closed, some rest) := by
  rw [readItems, h]
  simp only [skipBlanks_cons (show isBlank ']' = false from rfl)]

/-- Another element stands before a comma. -/
theorem readItems_next {steps : Nat} {chars rest : List Char} {item : Node} {char : Char}
    (hblank : isBlank char = false) (hclose : char ≠ ']')
    (h : readValue steps chars = (item, some (',' :: char :: rest)))
    {read : List Node × ArrayStop × Option (List Char)}
    (hread : readItems steps (char :: rest) = read) :
    readItems (steps + 1) chars = (item :: read.1, read.2) := by
  rw [readItems, h]
  simp only [skipBlanks_cons (show isBlank ',' = false from rfl), skipBlanks_cons hblank]
  split
  · contradiction
  · simp_all
  · rw [hread]

/-- Written values are read up to the closing bracket: each takes at most two steps for each of its
characters, and one for itself. -/
theorem readItems_written {node : Node} {text : List Char} (hfirst : node.IsReadFrom text)
    {nodes : List Node} {texts : List (List Char)}
    (hrest : List.Forall₂ Node.IsReadFrom nodes texts) (steps : Nat) (rest : List Char)
    (hsteps : 2 * (withSeparator ',' (text :: texts)).length ≤ steps) :
    readItems (steps + 1) (withSeparator ',' (text :: texts) ++ ']' :: rest) =
      (node :: nodes, .closed, some rest) := by
  -- On the values after the first. A step for each comma is paid for by the comma itself.
  induction hrest generalizing node text steps with
  | nil => exact readItems_last (hfirst.read steps _ hsteps)
  | @cons next nextText nodes texts hnext hrest ih =>
    obtain ⟨char, tail, hstart, hblank, hclose⟩ := withSeparator_starts hnext texts
    rw [withSeparator_cons_cons, List.length_append, List.length_cons] at hsteps
    obtain ⟨less, rfl⟩ : ∃ less, steps = less + 1 := Nat.exists_eq_add_one_of_ne_zero (by omega)
    have hread := ih hnext less (by omega)
    have hvalue := hfirst.read (less + 1)
      (',' :: withSeparator ',' (nextText :: texts) ++ ']' :: rest) (by omega)
    rw [withSeparator_cons_cons, List.append_assoc]
    rw [hstart] at hread hvalue ⊢
    exact readItems_next hblank hclose hvalue hread

/-- An array of written values spells what the values spell. -/
theorem spells_arrayText {texts : List (List Char)} {datas : List Data}
    (h : List.Forall₂ Spells texts datas) : Spells (arrayText texts) (.array datas) := by
  obtain ⟨nodes, hread, hholds⟩ : ∃ nodes : List Node,
      List.Forall₂ Node.IsReadFrom nodes texts ∧ List.Forall₂ Node.Holds nodes datas := by
    induction h with
    | nil => exact ⟨[], .nil, .nil⟩
    | cons hfirst hrest ih =>
      obtain ⟨node, hread, hholds⟩ := hfirst
      obtain ⟨nodes, hreads, hholdss⟩ := ih
      exact ⟨node :: nodes, .cons hread hreads, .cons hholds hholdss⟩
  refine ⟨.array nodes .closed, .of_cons rfl (by decide) ?_, .array hholds⟩
  intro steps rest hsteps
  rw [List.length_append, List.length_singleton] at hsteps
  rw [List.append_assoc]
  cases hread with
  | nil => rfl
  | cons hfirst hrest =>
    obtain ⟨char, tail, hstart, hblank, hclose⟩ := withSeparator_starts hfirst _
    obtain ⟨less, rfl⟩ : ∃ less, steps = less + 1 := Nat.exists_eq_add_one_of_ne_zero (by omega)
    have hitems := readItems_written hfirst hrest less rest (by omega)
    rw [hstart] at hitems ⊢
    exact readValue_array hblank hclose hitems

theorem spells_arrayText_map {Item : Type} {write : Item → List Char} {data : Item → Data}
    (h : ∀ item, Spells (write item) (data item)) (items : List Item) :
    Spells (arrayText (items.map write)) (.array (items.map data)) := by
  apply spells_arrayText
  rw [List.forall₂_map_left_iff, List.forall₂_map_right_iff, List.forall₂_same]
  intro item _
  exact h item

/-! ## Objects -/

/-- A key with its written value. -/
def entryText (entry : String × List Char) : List Char := stringText entry.1 ++ ':' :: entry.2

/-- An object of written values. -/
def objectText (entries : List (String × List Char)) : List Char :=
  '\x7b' :: (withSeparator ',' (entries.map entryText) ++ ['\x7d'])

/-- The entry is written with its key and the text of its value. -/
def EntryReadFrom (entry : StringText × Node) (written : String × List Char) : Prop :=
  entry.1 = .ofString written.1 ∧ entry.2.IsReadFrom written.2

/-- The braces of an object are opened before a key. -/
theorem readValue_object {steps : Nat} {rest : List Char}
    {read : List (StringText × Node) × ObjectStop × Option (List Char)}
    (h : readEntries steps ('"' :: rest) = read) :
    readValue (steps + 1) ('\x7b' :: '"' :: rest) = (.object read.1 read.2.1, read.2.2) := by
  subst h
  rw [readValue, skipBlanks_cons rfl]
  rfl

/-- Written entries start with a key. -/
theorem withSeparator_entryText (entry : String × List Char)
    (entries : List (String × List Char)) :
    ∃ rest, withSeparator ',' ((entry :: entries).map entryText) = '"' :: rest := by
  cases entries with
  | nil => exact ⟨_, rfl⟩
  | cons next entries => exact ⟨_, rfl⟩

theorem entryText_append (entry : String × List Char) (rest : List Char) :
    entryText entry ++ rest =
      '"' :: (entry.1.toList.flatMap escapedChar ++ '"' :: ':' :: (entry.2 ++ rest)) := by
  simp only [entryText, stringText, List.cons_append, List.append_assoc, List.nil_append]

variable {entry : StringText × Node} {written : String × List Char}

/-- The last entry stands before the closing brace. -/
theorem readEntries_last (h : EntryReadFrom entry written) {steps : Nat}
    (hsteps : 2 * written.2.length ≤ steps) (rest : List Char) :
    readEntries (steps + 1) (entryText written ++ '\x7d' :: rest) =
      ([entry], .closed, some rest) := by
  obtain ⟨key, value⟩ := entry
  obtain ⟨rfl, hvalue⟩ := h
  rw [entryText_append, readEntries, StringText.read_written]
  simp only [skipBlanks_cons (show isBlank ':' = false from rfl), hvalue.read steps _ hsteps,
    skipBlanks_cons (show isBlank '\x7d' = false from rfl)]

/-- Another entry stands before a comma. -/
theorem readEntries_next (h : EntryReadFrom entry written) {steps : Nat}
    (hsteps : 2 * written.2.length ≤ steps) {rest : List Char}
    {read : List (StringText × Node) × ObjectStop × Option (List Char)}
    (hread : readEntries steps ('"' :: rest) = read) :
    readEntries (steps + 1) (entryText written ++ ',' :: '"' :: rest) =
      (entry :: read.1, read.2) := by
  obtain ⟨key, value⟩ := entry
  obtain ⟨rfl, hvalue⟩ := h
  rw [entryText_append, readEntries, StringText.read_written]
  simp only [skipBlanks_cons (show isBlank ':' = false from rfl), hvalue.read steps _ hsteps,
    skipBlanks_cons (show isBlank ',' = false from rfl),
    skipBlanks_cons (show isBlank '"' = false from rfl)]
  show (_ :: (readEntries steps ('"' :: rest)).1, (readEntries steps ('"' :: rest)).2) = _
  rw [hread]

/-- Written entries are read up to the closing brace. -/
theorem readEntries_written (hfirst : EntryReadFrom entry written)
    {entries : List (StringText × Node)} {texts : List (String × List Char)}
    (hrest : List.Forall₂ EntryReadFrom entries texts) (steps : Nat) (rest : List Char)
    (hsteps : 2 * (withSeparator ',' ((written :: texts).map entryText)).length ≤ steps) :
    readEntries (steps + 1)
        (withSeparator ',' ((written :: texts).map entryText) ++ '\x7d' :: rest) =
      (entry :: entries, .closed, some rest) := by
  -- Only the value of an entry takes steps, and it is shorter than the entry.
  have hlength (written : String × List Char) : written.2.length ≤ (entryText written).length := by
    rw [entryText, List.length_append, List.length_cons]
    omega
  induction hrest generalizing entry written steps with
  | nil =>
    have hvalue := hlength written
    rw [List.map_singleton, withSeparator] at hsteps ⊢
    exact readEntries_last hfirst (by omega) rest
  | @cons next nextText entries texts hnext hrest ih =>
    obtain ⟨tail, hstart⟩ := withSeparator_entryText nextText texts
    have hvalue := hlength written
    rw [List.map_cons, List.map_cons, withSeparator_cons_cons, ← List.map_cons] at hsteps ⊢
    rw [List.length_append, List.length_cons] at hsteps
    obtain ⟨less, rfl⟩ : ∃ less, steps = less + 1 := Nat.exists_eq_add_one_of_ne_zero (by omega)
    have hread := ih hnext less (by omega)
    rw [List.append_assoc]
    rw [hstart] at hread ⊢
    exact readEntries_next hfirst (by omega) hread

/-- An object of written values spells a table of what the values spell. -/
theorem spells_objectText {texts : List (String × List Char)} {datas : List (String × Data)}
    (h : List.Forall₂ (EntryRel Spells) texts datas) :
    Spells (objectText texts) (.table datas) := by
  obtain ⟨entries, hread, hkeys, hholds⟩ : ∃ entries : List (StringText × Node),
      List.Forall₂ EntryReadFrom entries texts ∧
      List.Forall₂ (fun entry data => entry.1.decoded = .ok data.1) entries datas ∧
      List.Forall₂ Node.Holds (entries.map (·.2)) (datas.map (·.2)) := by
    induction h with
    | nil => exact ⟨[], .nil, .nil, .nil⟩
    | @cons written data texts datas hfirst hrest ih =>
      obtain ⟨hkey, node, hread, hholds⟩ := hfirst
      obtain ⟨entries, hreads, hkeys, hholdss⟩ := ih
      refine ⟨(.ofString written.1, node) :: entries, .cons ⟨rfl, hread⟩ hreads,
        .cons ?_ hkeys, .cons hholds hholdss⟩
      rw [← hkey]
      exact StringText.decoded_ofString written.1
  refine ⟨.object entries .closed, .of_cons rfl (by decide) ?_, .table (.refl _) hkeys hholds⟩
  intro steps rest hsteps
  rw [List.length_append, List.length_singleton] at hsteps
  rw [List.append_assoc]
  cases hread with
  | nil => rfl
  | @cons entry written entries texts hfirst hrest =>
    obtain ⟨tail, hstart⟩ := withSeparator_entryText written texts
    obtain ⟨less, rfl⟩ : ∃ less, steps = less + 1 := Nat.exists_eq_add_one_of_ne_zero (by omega)
    have hentries := readEntries_written hfirst hrest less rest (by omega)
    rw [hstart] at hentries ⊢
    exact readValue_object hentries

end ModelFactory.Json
