import ModelFactory.Text.Joined

/-!
# Nested brackets

`Text.Nested` is the grammar of texts whose brackets are nested: every bracket has its partner, and
pairs stand beside each other or in each other. `Text.pending?` reads a text with the closing
brackets that are still to come, and a text is nested exactly if none is to come at its end and none
came too early (`Text.nestedChars_iff`).

What a text opens in one part and closes in another is followed with `Text.pending?`, since a nested
part leaves what is to come as it is (`Text.Nested.pending?_append`).
-/

set_option autoImplicit false

namespace ModelFactory.Text

/-! ## The grammar -/

/-- The brackets: each opening one with the one that closes it. -/
def bracketPairs : List (Char × Char) := [('(', ')'), ('[', ']'), ('\x7b', '\x7d')]

/-- The character is no bracket. -/
def IsPlain (char : Char) : Prop := ∀ pair ∈ bracketPairs, char ≠ pair.1 ∧ char ≠ pair.2

/-- Every bracket has its partner, and pairs stand beside each other or in each other. -/
inductive NestedChars : List Char → Prop
  | nil : NestedChars []
  | plain {char : Char} {rest : List Char} (h : IsPlain char) (hrest : NestedChars rest) :
    NestedChars (char :: rest)
  | pair {opening closing : Char} {inner rest : List Char}
    (h : (opening, closing) ∈ bracketPairs) (hinner : NestedChars inner)
    (hrest : NestedChars rest) : NestedChars (opening :: (inner ++ closing :: rest))

/-- The brackets of the text are nested. -/
def Nested (text : String) : Prop := NestedChars text.toList

/-! ## Reading with the brackets that are to come -/

/-- The closing brackets that are to come after the characters, the next one first, if `pending` are
to come before them. -/
def pending? : (pending : List Char) → List Char → Option (List Char)
  | pending, [] => some pending
  | pending, char :: rest =>
    match bracketPairs.lookup char with
    | some closing => pending? (closing :: pending) rest
    | none =>
      if char ∈ bracketPairs.map (·.2) then
        if pending.head? = some char then pending? pending.tail rest else none
      else pending? pending rest

section Steps

variable {opening closing char : Char}

theorem pending?_opening (h : (opening, closing) ∈ bracketPairs) (pending rest : List Char) :
    pending? pending (opening :: rest) = pending? (closing :: pending) rest := by
  simp only [bracketPairs, List.mem_cons, Prod.mk.injEq, List.not_mem_nil, or_false] at h
  rcases h with ⟨rfl, rfl⟩ | ⟨rfl, rfl⟩ | ⟨rfl, rfl⟩
  all_goals rfl

theorem pending?_closing (h : (opening, closing) ∈ bracketPairs) (pending rest : List Char) :
    pending? (closing :: pending) (closing :: rest) = pending? pending rest := by
  simp only [bracketPairs, List.mem_cons, Prod.mk.injEq, List.not_mem_nil, or_false] at h
  rcases h with ⟨rfl, rfl⟩ | ⟨rfl, rfl⟩ | ⟨rfl, rfl⟩
  all_goals rfl

theorem pending?_plain (h : IsPlain char) (pending rest : List Char) :
    pending? pending (char :: rest) = pending? pending rest := by
  have hopening : bracketPairs.lookup char = none :=
    List.lookup_eq_none_iff.2 fun pair hpair => by simpa using (h pair hpair).1
  have hclosing : char ∉ bracketPairs.map (·.2) := by
    intro hmem
    obtain ⟨pair, hpair, rfl⟩ := List.mem_map.1 hmem
    exact (h pair hpair).2 rfl
  rw [pending?, hopening]
  simp only [hclosing, if_false]

end Steps

/-- A nested part closes what it opens, and nothing else. -/
theorem NestedChars.pending?_append {inner : List Char} (h : NestedChars inner)
    (pending rest : List Char) : pending? pending (inner ++ rest) = pending? pending rest := by
  induction h generalizing pending rest with
  | nil => rfl
  | plain hplain _ ih => rw [List.cons_append, pending?_plain hplain, ih]
  | pair hpair _ _ ihinner ihrest =>
    rw [List.cons_append, List.append_assoc, List.cons_append, pending?_opening hpair, ihinner,
      pending?_closing hpair, ihrest]

theorem Nested.pending?_append {text : String} (h : Nested text) (pending rest : List Char) :
    pending? pending (text.toList ++ rest) = pending? pending rest :=
  NestedChars.pending?_append h pending rest

/-- The characters close the brackets that are to come, one after the other, with nested parts
before and after each. -/
def Closes : (pending : List Char) → List Char → Prop
  | [], chars => NestedChars chars
  | closing :: pending, chars =>
    ∃ inner rest, chars = inner ++ closing :: rest ∧ NestedChars inner ∧ Closes pending rest

/-- A nested beginning makes no difference to what is closed, if it may stand before any nested
part. -/
theorem Closes.prepend (start : List Char)
    (hstart : ∀ inner, NestedChars inner → NestedChars (start ++ inner)) {pending chars : List Char}
    (h : Closes pending chars) : Closes pending (start ++ chars) := by
  cases pending with
  | nil => exact hstart chars h
  | cons closing pending =>
    obtain ⟨inner, rest, rfl, hinner, hrest⟩ := h
    exact ⟨start ++ inner, rest, (List.append_assoc ..).symm, hstart inner hinner, hrest⟩

/-- What leaves nothing to come closes all that was to come before. -/
theorem closes_of_pending? {pending chars : List Char} (h : pending? pending chars = some []) :
    Closes pending chars := by
  induction chars generalizing pending with
  | nil =>
    cases h
    exact .nil
  | cons char rest ih =>
    rw [pending?] at h
    cases hopening : bracketPairs.lookup char with
    | some closing =>
      rw [hopening] at h
      have hpair : (char, closing) ∈ bracketPairs := by
        obtain ⟨before, after, hsplit, -⟩ := List.lookup_eq_some_iff.1 hopening
        rw [hsplit]
        exact List.mem_append_right _ List.mem_cons_self
      -- The pair with what is in it may stand before any nested part.
      obtain ⟨inner, after, rfl, hinner, hafter⟩ := ih h
      have hstart := hafter.prepend (char :: (inner ++ [closing])) fun part hpart => by
        simpa using NestedChars.pair hpair hinner hpart
      simpa using hstart
    | none =>
      rw [hopening] at h
      dsimp only at h
      split at h
      · split at h
        · rename_i hhead
          obtain ⟨pending, rfl⟩ := List.head?_eq_some_iff.1 hhead
          exact ⟨[], rest, rfl, .nil, ih h⟩
        · cases h
      · rename_i hclosing
        have hplain : IsPlain char := by
          intro pair hpair
          refine ⟨?_, fun hsame => hclosing (hsame ▸ List.mem_map_of_mem hpair)⟩
          simpa using List.lookup_eq_none_iff.1 hopening pair hpair
        exact (ih h).prepend [char] fun _ hpart => .plain hplain hpart

/-- Brackets are nested if none is to come at the end and none came too early. -/
theorem nestedChars_iff {chars : List Char} : NestedChars chars ↔ pending? [] chars = some [] := by
  constructor
  · intro h
    have hread := h.pending?_append [] []
    rw [List.append_nil] at hread
    exact hread
  · exact closes_of_pending?

instance (chars : List Char) : Decidable (NestedChars chars) :=
  decidable_of_iff _ nestedChars_iff.symm

instance (text : String) : Decidable (Nested text) :=
  inferInstanceAs (Decidable (NestedChars text.toList))

/-! ## Texts that are put together -/

theorem NestedChars.append {chars others : List Char} (h : NestedChars chars)
    (hothers : NestedChars others) : NestedChars (chars ++ others) := by
  rw [nestedChars_iff] at hothers ⊢
  rw [h.pending?_append, hothers]

theorem Nested.append {text other : String} (h : Nested text) (hother : Nested other) :
    Nested (text ++ other) := by
  rw [Nested, String.toList_append]
  exact NestedChars.append h hother

/-- Nested parts are nested when they are joined. -/
theorem nested_joined {separator : String} (hseparator : Nested separator) {parts : List String}
    (h : ∀ part ∈ parts, Nested part) : Nested (joined separator parts) := by
  induction parts with
  | nil => exact NestedChars.nil
  | cons part parts ih =>
    have hpart : Nested part := h part List.mem_cons_self
    have hrest := ih fun other hother => h other (List.mem_cons_of_mem _ hother)
    cases parts with
    | nil => exact hpart
    | cons next parts =>
      rw [joined_cons_cons]
      exact (hpart.append hseparator).append hrest

end ModelFactory.Text
