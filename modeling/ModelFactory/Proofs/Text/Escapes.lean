import ModelFactory.Proofs.Text.Lines

/-!
# What a reader sees of a printed text

A terminal shows a text without its escape sequences (`Text.unescaped`). An escape character starts
a sequence wherever it stands, also within another one, so a sequence that is written after anything
ends as it does by itself (`Text.IsSequence`).

Two texts that were printed at different times are compared without the times in them
(`Text.masked`). No time goes over the end of a line, so lines are masked one by one. Lines that
show the same once their times are masked (`Text.LineAlike`) make up texts that do
(`Text.shown_lined_append`).
-/

set_option autoImplicit false

namespace ModelFactory.Text

/-! ## Escape sequences -/

/-- How far a terminal has read an escape sequence. -/
inductive EscapeState where
  | outside
  /-- After the escape character. -/
  | begun
  /-- After the bracket of a control sequence. -/
  | control
deriving DecidableEq

/-- The character that starts an escape sequence. -/
def escapeChar : Char := '\x1b'

namespace EscapeState

/-- The state after one more character. What stands from `@` to `~` ends a control sequence. -/
def next (state : EscapeState) (char : Char) : EscapeState :=
  if char = escapeChar then begun
  else
    match state with
    | outside => outside
    | begun => if char = '[' then control else outside
    | control => if 0x40 ≤ char.toNat ∧ char.toNat ≤ 0x7e then outside else control

/-- The character is shown. -/
def shows (state : EscapeState) (char : Char) : Bool := state == outside && char != escapeChar

/-- The state after a text. -/
def after (state : EscapeState) (chars : List Char) : EscapeState := chars.foldl next state

/-- The characters that are shown. -/
def shown (state : EscapeState) : List Char → List Char
  | [] => []
  | char :: rest =>
    if state.shows char then char :: shown (state.next char) rest
    else shown (state.next char) rest

variable {state : EscapeState}

theorem after_append (chars others : List Char) :
    state.after (chars ++ others) = (state.after chars).after others :=
  List.foldl_append

theorem shown_append (chars others : List Char) :
    state.shown (chars ++ others) = state.shown chars ++ (state.after chars).shown others := by
  induction chars generalizing state with
  | nil => rfl
  | cons char rest ih =>
    have hafter : state.after (char :: rest) = (state.next char).after rest := rfl
    rw [List.cons_append, shown, shown, ih, hafter]
    split
    · rfl
    · rfl

/-- A text without the escape character is shown as it is. -/
theorem shown_outside {chars : List Char} (h : escapeChar ∉ chars) :
    outside.shown chars = chars ∧ outside.after chars = outside := by
  induction chars with
  | nil => exact ⟨rfl, rfl⟩
  | cons char rest ih =>
    rw [List.mem_cons, not_or] at h
    have hchar : char ≠ escapeChar := fun heq => h.1 heq.symm
    have hnext : outside.next char = outside := by rw [next, if_neg hchar]
    have hshows : outside.shows char = true := by simp [shows, hchar]
    obtain ⟨hshown, hafter⟩ := ih h.2
    constructor
    · rw [shown, if_pos hshows, hnext, hshown]
    · rw [after, List.foldl_cons, hnext]
      exact hafter

end EscapeState

/-- Nothing of the text is shown, and whatever is in front of it, no sequence goes on behind it. -/
def IsSequence (text : String) : Prop :=
  ∀ state : EscapeState, state.shown text.toList = [] ∧ state.after text.toList = .outside

/-- A text without its escape sequences. -/
def unescaped (text : String) : List Char := EscapeState.outside.shown text.toList

/-! ## Times -/

/-- What stands at each place of a time in brackets. -/
def timeShape : List (Char → Bool) :=
  [(· == '['), Char.isDigit, Char.isDigit, (· == ':'), Char.isDigit, Char.isDigit, (· == ':'),
    Char.isDigit, Char.isDigit, (· == ']')]

/-- The first characters are of the shape. -/
def startsAs : (shape : List (Char → Bool)) → List Char → Bool
  | [], _ => true
  | _ :: _, [] => false
  | fits :: shape, char :: rest => fits char && startsAs shape rest

/-- The text is a time in brackets. -/
structure IsTime (text : String) : Prop where
  length : text.toList.length = timeShape.length
  shape : startsAs timeShape text.toList = true

instance (text : String) : Decidable (IsTime text) :=
  decidable_of_iff
    (text.toList.length = timeShape.length ∧ startsAs timeShape text.toList = true)
    ⟨fun h => ⟨h.1, h.2⟩, fun h => ⟨h.length, h.shape⟩⟩

/-- What stands in place of a time. -/
def timeMask : List Char := "[HH:MM:SS]".toList

/-- A text whose times are masked, without so many characters of a time in front of it. -/
def maskedFrom : (left : Nat) → List Char → List Char
  | _, [] => []
  | left + 1, _ :: rest => maskedFrom left rest
  | 0, char :: rest =>
    if startsAs timeShape (char :: rest) then timeMask ++ maskedFrom (timeShape.length - 1) rest
    else char :: maskedFrom 0 rest

/-- A text whose times are masked. -/
def masked (chars : List Char) : List Char := maskedFrom 0 chars

section Times

variable {shape : List (Char → Bool)} {chars : List Char}

theorem startsAs_append (h : startsAs shape chars = true) (rest : List Char) :
    startsAs shape (chars ++ rest) = true := by
  induction shape generalizing chars with
  | nil => rfl
  | cons fits shape ih =>
    cases chars with
    | nil => cases h
    | cons char chars =>
      rw [startsAs, Bool.and_eq_true] at h
      rw [List.cons_append, startsAs, Bool.and_eq_true]
      exact ⟨h.1, ih h.2⟩

theorem length_le_of_startsAs (h : startsAs shape chars = true) : shape.length ≤ chars.length := by
  induction shape generalizing chars with
  | nil => exact Nat.zero_le _
  | cons fits shape ih =>
    cases chars with
    | nil => cases h
    | cons char chars =>
      rw [startsAs, Bool.and_eq_true] at h
      exact Nat.succ_le_succ (ih h.2)

/-- A character that fits no place of the shape ends what can be of it. -/
theorem startsAs_append_cons {char : Char} (hchar : ∀ fits ∈ shape, fits char = false)
    (chars rest : List Char) :
    startsAs shape (chars ++ char :: rest) = startsAs shape chars := by
  induction shape generalizing chars with
  | nil => cases chars <;> rfl
  | cons fits shape ih =>
    cases chars with
    | nil =>
      show (fits char && startsAs shape rest) = false
      rw [hchar fits List.mem_cons_self, Bool.false_and]
    | cons first chars =>
      rw [List.cons_append, startsAs, startsAs,
        ih fun fits hfits => hchar fits (List.mem_cons_of_mem _ hfits)]

/-- It is not among the characters that are of the shape. -/
theorem notMem_of_startsAs {char : Char} (hchar : ∀ fits ∈ shape, fits char = false)
    (h : startsAs shape chars = true) (hlength : chars.length = shape.length) : char ∉ chars := by
  induction shape generalizing chars with
  | nil =>
    rw [List.length_eq_zero_iff.1 hlength]
    exact List.not_mem_nil
  | cons fits shape ih =>
    cases chars with
    | nil => cases h
    | cons first chars =>
      rw [startsAs, Bool.and_eq_true] at h
      rw [List.mem_cons, not_or]
      constructor
      · rintro rfl
        rw [hchar fits List.mem_cons_self] at h
        exact absurd h.1 Bool.false_ne_true
      · exact ih (fun fits hfits => hchar fits (List.mem_cons_of_mem _ hfits)) h.2
          (Nat.succ_inj.1 hlength)

theorem maskedFrom_append_of_length {left : Nat} (h : chars.length = left) (rest : List Char) :
    maskedFrom left (chars ++ rest) = maskedFrom 0 rest := by
  induction chars generalizing left with
  | nil =>
    subst h
    rfl
  | cons char chars ih =>
    subst h
    exact ih rfl

/-- A time at the start is masked, whichever it is. -/
theorem IsTime.masked {time : String} (h : IsTime time) (rest : List Char) :
    masked (time.toList ++ rest) = timeMask ++ Text.masked rest := by
  have hstarts := startsAs_append h.shape rest
  have hlength := h.length
  cases htime : time.toList with
  | nil =>
    rw [htime] at hlength
    cases hlength
  | cons char chars =>
    rw [htime] at hstarts hlength
    have hrest : maskedFrom (timeShape.length - 1) (chars ++ rest) = Text.masked rest :=
      maskedFrom_append_of_length (Nat.succ_inj.1 hlength) rest
    rw [List.cons_append] at hstarts
    rw [Text.masked, List.cons_append, maskedFrom, if_pos hstarts, hrest]

theorem IsTime.escapeChar_notMem {time : String} (h : IsTime time) : escapeChar ∉ time.toList :=
  notMem_of_startsAs (by decide) h.shape h.length

/-- The end of a line ends whatever could be a time, so what follows is masked by itself. -/
theorem maskedFrom_append_newline {left : Nat} (h : left ≤ chars.length) (rest : List Char) :
    maskedFrom left (chars ++ '\n' :: rest) = maskedFrom left chars ++ '\n' :: masked rest := by
  induction chars generalizing left with
  | nil =>
    obtain rfl := Nat.le_zero.1 h
    rfl
  | cons char chars ih =>
    cases left with
    | succ left => exact ih (Nat.le_of_succ_le_succ h)
    | zero =>
      have hsame : startsAs timeShape (char :: (chars ++ '\n' :: rest)) =
          startsAs timeShape (char :: chars) :=
        startsAs_append_cons (by decide) (char :: chars) rest
      rw [List.cons_append, maskedFrom, maskedFrom, hsame]
      split
      · rename_i hstarts
        have hlength : timeShape.length - 1 ≤ chars.length :=
          Nat.le_of_succ_le_succ (length_le_of_startsAs hstarts)
        rw [ih hlength, List.append_assoc]
      · rw [ih (Nat.zero_le _), List.cons_append]

end Times

/-! ## Printed texts -/

/-- What is seen of a printed text, whenever it was printed. -/
def shown (text : String) : List Char := masked (unescaped text)

/-- Two lines that show the same but for their times, and no escape sequence goes on behind them. -/
structure LineAlike (line other : String) : Prop where
  ends : EscapeState.outside.after line.toList = .outside
  otherEnds : EscapeState.outside.after other.toList = .outside
  shown : masked (unescaped line) = masked (unescaped other)

/-- The first line is shown by itself. -/
theorem shown_line_append {line : String} (h : EscapeState.outside.after line.toList = .outside)
    (rest : String) :
    shown (line ++ ("\n" ++ rest)) = masked (unescaped line) ++ '\n' :: shown rest := by
  have hnewline : EscapeState.outside.shown ('\n' :: rest.toList) = '\n' :: unescaped rest := rfl
  rw [shown, unescaped, String.toList_append, EscapeState.shown_append, h,
    String.toList_append]
  change masked (_ ++ EscapeState.outside.shown ('\n' :: rest.toList)) = _
  rw [hnewline]
  exact maskedFrom_append_newline (Nat.zero_le _) _

/-- Lines that are alike show the same but for their times, with the same text behind them. -/
theorem shown_lined_append {lines others : List String} (h : List.Forall₂ LineAlike lines others)
    (rest : String) :
    shown (Command.lined lines ++ rest) = shown (Command.lined others ++ rest) := by
  induction h with
  | nil => rfl
  | cons hline _ ih =>
    simp only [Command.lined_cons, String.append_assoc]
    rw [shown_line_append hline.ends, shown_line_append hline.otherEnds, ih, hline.shown]

theorem shown_lined {lines others : List String} (h : List.Forall₂ LineAlike lines others) :
    shown (Command.lined lines) = shown (Command.lined others) := by
  have hshown := shown_lined_append h ""
  rwa [String.append_empty, String.append_empty] at hshown

/-- Lines that were painted in two ways at two times. -/
example : shown (Command.lined ["\x1b[38;2;92;62;38m[12:00:07]\x1b[39m \x1b[mDone\x1b[m", "2"]) =
    shown (Command.lined ["[09:30:00] Done", "2"]) := by decide

end ModelFactory.Text
