import ModelFactory.Command.Arguments
import ModelFactory.Proofs.Results

/-!
# Arguments that differ in the style of the output

`--color` and `--theme` say how the output looks. Arguments that differ in the values of these
options alone (`Command.Restyled`) are read in step. Each word leaves readings that differ in
nothing but the style (`Command.readWord_alike`), so reading all of them does
(`Command.readArguments_alike`). Then both ask for the same, or both are refused for the same reason
(`Command.readInvocation_alike`). The same holds of arguments that are read with other values, given
or left out (`Command.OtherStyle`).
-/

set_option autoImplicit false

namespace ModelFactory

/-! ## Results that are alike -/

namespace Results

variable {ε α β γ δ : Type} {R : α → β → Prop} {S : γ → δ → Prop}

/-- Two computations that have related results, or the same error. -/
inductive Alike (R : α → β → Prop) : Except ε α → Except ε β → Prop where
  | ok {result : α} {other : β} (h : R result other) : Alike R (.ok result) (.ok other)
  | error (error : ε) : Alike R (.error error) (.error error)

theorem Alike.bind {first : Except ε α} {other : Except ε β} {next : α → Except ε γ}
    {otherNext : β → Except ε δ} (h : Alike R first other)
    (hnext : ∀ result otherResult, R result otherResult →
      Alike S (next result) (otherNext otherResult)) :
    Alike S (first >>= next) (other >>= otherNext) := by
  cases h with
  | error error => exact .error error
  | ok h => exact hnext _ _ h

/-- The same result, changed in two ways. -/
theorem Alike.map {computed : Except ε α} {change : α → γ} {otherChange : α → δ}
    (h : ∀ result, S (change result) (otherChange result)) :
    Alike S (computed.map change) (computed.map otherChange) := by
  cases computed with
  | error error => exact .error error
  | ok result => exact .ok (h result)

theorem Alike.mapError {ε' : Type} {first : Except ε α} {other : Except ε β} (change : ε → ε')
    (h : Alike R first other) : Alike R (first.mapError change) (other.mapError change) := by
  cases h with
  | error error => exact .error _
  | ok h => exact .ok h

end Results

namespace Command

open Results (Alike)

/-! ## Options of style -/

/-- An option that says how the output looks, with a word that is a value of it. -/
inductive StyleValue : OptionName → String → Prop where
  | color {word : String} {mode : ColorMode} (h : ColorMode.ofWord? word = some mode) :
    StyleValue .color word
  | theme {word : String} {mode : ThemeMode} (h : ThemeMode.ofWord? word = some mode) :
    StyleValue .theme word

/-- Arguments that differ in the values of options of style. Behind two hyphens there are no
options. -/
inductive Restyled : List String → List String → Prop where
  | nil : Restyled [] []
  | ended (rest : List String) : Restyled ("--" :: rest) ("--" :: rest)
  | same {word : String} {rest others : List String} (h : word ≠ "--")
    (hrest : Restyled rest others) : Restyled (word :: rest) (word :: others)
  | apart {option : OptionName} {value other : String} {rest others : List String}
    (hvalue : StyleValue option value) (hother : StyleValue option other)
    (hrest : Restyled rest others) :
    Restyled (("--" ++ option.long) :: value :: rest) (("--" ++ option.long) :: other :: others)
  | joined {option : OptionName} {value other : String} {rest others : List String}
    (hvalue : StyleValue option value) (hother : StyleValue option other)
    (hrest : Restyled rest others) :
    Restyled (("--" ++ option.long ++ "=" ++ value) :: rest)
      (("--" ++ option.long ++ "=" ++ other) :: others)

/-- The values are five words. -/
theorem StyleValue.mem_words {option : OptionName} {word : String} (h : StyleValue option word) :
    word ∈ ["always", "auto", "never", "dark", "light"] := by
  cases h with
  | color h =>
    by_contra hnone
    simp only [List.mem_cons, not_or] at hnone
    obtain ⟨halways, hauto, hnever, -⟩ := hnone
    simp [ColorMode.ofWord?, List.lookup_cons, beq_eq_false_iff_ne.2 halways,
      beq_eq_false_iff_ne.2 hauto, beq_eq_false_iff_ne.2 hnever] at h
  | theme h =>
    by_contra hnone
    simp only [List.mem_cons, not_or] at hnone
    obtain ⟨-, hauto, -, hdark, hlight, -⟩ := hnone
    simp [ThemeMode.ofWord?, List.lookup_cons, beq_eq_false_iff_ne.2 hauto,
      beq_eq_false_iff_ne.2 hdark, beq_eq_false_iff_ne.2 hlight] at h

/-! ## Settling options of style -/

/-- Options that have been given alike, but for the values of style. -/
inductive Given.Alike (given : Given) : Given → Prop where
  | intro {color : Option ColorMode} {theme : Option ThemeMode}
    (hcolor : color.isSome = given.color.isSome) (htheme : theme.isSome = given.theme.isSome) :
    given.Alike { given with color, theme }

namespace Given.Alike

variable {given other : Given} {option : OptionName}

theorem refl (given : Given) : given.Alike given := ⟨rfl, rfl⟩

theorem has_eq (h : given.Alike other) (option : OptionName) :
    other.has option = given.has option := by
  cases h with
  | intro hcolor htheme =>
    cases option with
    | color => exact hcolor
    | theme => exact htheme
    | _ => rfl

/-- Where nothing is given, nothing is given with another style. -/
theorem eq_empty (h : given.Alike other) : (other = {}) = (given = {}) := by
  have hnone {α : Type} {style other : Option α} (hsome : other.isSome = style.isSome) :
      other = none ↔ style = none := by
    rw [← Option.not_isSome_iff_eq_none, ← Option.not_isSome_iff_eq_none, hsome]
  obtain ⟨hcolor, htheme⟩ := h
  simp only [Given.mk.injEq, hnone hcolor, hnone htheme]
  cases given
  simp only [Given.mk.injEq]

/-- One more option with the same value. -/
theorem withValue (h : given.Alike other) (option : OptionName) (value : String) :
    Results.Alike Given.Alike (given.withValue option value) (other.withValue option value) := by
  unfold Given.withValue
  rw [h.has_eq]
  cases given.has option with
  | true => exact .error _
  | false =>
    simp only [Bool.false_eq_true, if_false]
    cases h with
    | intro hcolor htheme =>
      cases option with
      | color => exact .map fun _ => ⟨rfl, htheme⟩
      | theme => exact .map fun _ => ⟨hcolor, rfl⟩
      | mode | input | output | config => exact .map fun _ => ⟨hcolor, htheme⟩
      | _ => exact .ok ⟨hcolor, htheme⟩

/-- One more option of style. -/
theorem withStyle (h : given.Alike other) {value otherValue : String}
    (hvalue : StyleValue option value) (hother : StyleValue option otherValue) :
    Results.Alike Given.Alike (given.withValue option value)
      (other.withValue option otherValue) := by
  unfold Given.withValue
  rw [h.has_eq]
  cases given.has option with
  | true => exact .error _
  | false =>
    simp only [Bool.false_eq_true, if_false]
    cases h with
    | intro hcolor htheme =>
      cases hvalue with
      | color hmode =>
        cases hother with
        | color hotherMode =>
          simp only [choice, hmode, hotherMode]
          exact .ok ⟨rfl, htheme⟩
      | theme hmode =>
        cases hother with
        | theme hotherMode =>
          simp only [choice, hmode, hotherMode]
          exact .ok ⟨hcolor, rfl⟩

theorem withFlag (h : given.Alike other) (option : OptionName) :
    Results.Alike Given.Alike (given.withFlag option) (other.withFlag option) := by
  unfold Given.withFlag
  rw [h.has_eq]
  cases given.has option with
  | true => exact .error _
  | false =>
    simp only [Bool.false_eq_true, if_false]
    cases h with
    | intro hcolor htheme =>
      cases option with
      | _ => exact .ok ⟨hcolor, htheme⟩

end Given.Alike

/-! ## Readings in step -/

/-- The same option is not settled, with values that differ at most in style. -/
inductive UnsettledAlike :
    Option (OptionName × Option String) → Option (OptionName × Option String) → Prop where
  | same (unsettled : Option (OptionName × Option String)) : UnsettledAlike unsettled unsettled
  | style {option : OptionName} {value other : String} (hvalue : StyleValue option value)
    (hother : StyleValue option other) :
    UnsettledAlike (some (option, some value)) (some (option, some other))

/-- Readings that differ in nothing but style. -/
structure Reading.Alike (reading other : Reading) : Prop where
  given : reading.given.Alike other.given
  unsettled : UnsettledAlike reading.unsettled other.unsettled

namespace Reading.Alike

variable {reading other : Reading} {option : OptionName}

theorem refl (reading : Reading) : reading.Alike reading := ⟨.refl _, .same _⟩

theorem waits_eq (h : reading.Alike other) : other.waits = reading.waits := by
  obtain ⟨-, hunsettled⟩ := h
  unfold Reading.waits
  generalize reading.unsettled = unsettled at hunsettled
  generalize other.unsettled = otherUnsettled at hunsettled
  cases hunsettled with
  | same => rfl
  | style => rfl

theorem settled (h : reading.Alike other) :
    Results.Alike Given.Alike reading.settled other.settled := by
  obtain ⟨hgiven, hunsettled⟩ := h
  unfold Reading.settled
  generalize reading.unsettled = unsettled at hunsettled
  generalize other.unsettled = otherUnsettled at hunsettled
  cases hunsettled with
  | same =>
    cases unsettled with
    | none => exact .ok hgiven
    | some last =>
      obtain ⟨option, value?⟩ := last
      cases value? with
      | none => exact .error _
      | some value => exact (hgiven.withValue option value).mapError _
  | style hvalue hother => exact (hgiven.withStyle hvalue hother).mapError _

/-- One more option is settled. -/
theorem addValue (h : reading.Alike other) (option : OptionName) (value : String) :
    Results.Alike Reading.Alike (reading.addValue option value) (other.addValue option value) := by
  apply h.settled.bind
  intro given otherGiven hgiven
  apply ((hgiven.withValue option value).mapError _).bind
  exact fun _ _ hlast => .ok ⟨hlast, .same _⟩

theorem addStyle (h : reading.Alike other) {value otherValue : String}
    (hvalue : StyleValue option value) (hother : StyleValue option otherValue) :
    Results.Alike Reading.Alike (reading.addValue option value)
      (other.addValue option otherValue) := by
  apply h.settled.bind
  intro given otherGiven hgiven
  apply ((hgiven.withStyle hvalue hother).mapError _).bind
  exact fun _ _ hlast => .ok ⟨hlast, .same _⟩

theorem openOption (h : reading.Alike other) (option : OptionName) :
    Results.Alike Reading.Alike (reading.openOption option) (other.openOption option) := by
  apply h.settled.bind
  exact fun _ _ hgiven => .ok ⟨hgiven, .same _⟩

theorem addFlag (h : reading.Alike other) (level : Level) (long : Bool) (option : OptionName) :
    Results.Alike Reading.Alike (reading.addFlag level long option)
      (other.addFlag level long option) := by
  apply h.settled.bind
  intro given otherGiven hgiven
  have hflag (option : OptionName) : Results.Alike Reading.Alike
      (do return ({ given := ← (given.withFlag option).mapError Stop.usage } : Reading))
      (do return ({ given := ← (otherGiven.withFlag option).mapError Stop.usage } : Reading)) := by
    apply ((hgiven.withFlag option).mapError _).bind
    exact fun _ _ hlast => .ok ⟨hlast, .same _⟩
  cases option with
  | help => exact .error _
  | version => exact .error _
  | _ => exact hflag _

theorem fillIn (h : reading.Alike other) (value : String) :
    (reading.fillIn value).Alike (other.fillIn value) := by
  obtain ⟨hgiven, hunsettled⟩ := h
  obtain ⟨given, unsettled⟩ := reading
  obtain ⟨otherGiven, otherUnsettled⟩ := other
  cases hunsettled with
  | style hvalue hother => exact ⟨hgiven, .style hvalue hother⟩
  | same =>
    cases unsettled with
    | none => exact ⟨hgiven, .same _⟩
    | some last =>
      obtain ⟨option, value?⟩ := last
      cases value? with
      | none => exact ⟨hgiven, .same _⟩
      | some value => exact ⟨hgiven, .same _⟩

end Reading.Alike

/-! ## Arguments read in step -/

section Words

variable {reading other : Reading} (level : Level)

theorem readLong_alike (h : reading.Alike other) (chars : List Char) :
    Alike Reading.Alike (readLong level reading chars) (readLong level other chars) := by
  unfold readLong
  generalize splitLong chars = parts
  obtain ⟨spelling, value?⟩ := parts
  dsimp only
  cases level.longOption? spelling with
  | none => exact .error _
  | some option =>
    dsimp only
    cases option.valueName? with
    | none =>
      cases value? with
      | none => exact h.addFlag level true option
      | some value => exact .error _
    | some name =>
      cases value? with
      | none => exact h.openOption option
      | some value => exact h.addValue option value

theorem readShort_alike (chars : List Char) (h : reading.Alike other) :
    Alike Reading.Alike (readShort level reading chars) (readShort level other chars) := by
  induction chars generalizing reading other with
  | nil => exact .ok h
  | cons char rest ih =>
    unfold readShort
    cases level.shortOption? char with
    | none => exact .error _
    | some option =>
      dsimp only
      -- An option with a value takes what is left of the word, and a flag leaves it to the next.
      split
      · split
        · exact h.openOption option
        · exact h.addValue option _
        · exact h.addValue option _
      · apply (h.addFlag level false option).bind
        exact fun _ _ hflag => ih hflag

/-- One word that is neither a command nor two hyphens alone. -/
def readWord (reading : Reading) (word : String) : Except Stop Reading :=
  match word.toList with
  | '-' :: '-' :: chars => readLong level reading chars
  | '-' :: char :: chars => readShort level reading (char :: chars)
  | _ =>
    if reading.waits then .ok (reading.fillIn word)
    else .error (.usage (strayError level false word))

variable {level} {word : String}

theorem readWord_of_long {chars : List Char} (h : word.toList = '-' :: '-' :: chars) :
    readWord level reading word = readLong level reading chars := by
  rw [readWord, h]
  rfl

theorem readWord_of_short {char : Char} {chars : List Char} (hchar : char ≠ '-')
    (h : word.toList = '-' :: char :: chars) :
    readWord level reading word = readShort level reading (char :: chars) := by
  rw [readWord, h]
  split
  · rename_i heq
    cases heq
    exact absurd rfl hchar
  · rename_i heq
    cases heq
    rfl
  · rename_i hshort
    exact (hshort _ _ rfl).elim

theorem readWord_of_value (h : ∀ char chars, word.toList ≠ '-' :: char :: chars) :
    readWord level reading word =
      if reading.waits then .ok (reading.fillIn word)
      else .error (.usage (strayError level false word)) := by
  unfold readWord
  split
  · rename_i heq
    exact absurd heq (h _ _)
  · rename_i heq
    exact absurd heq (h _ _)
  · rfl

variable (level) in
/-- The command that a word stands for where the reading does not wait for a value. -/
def commandAt? (reading : Reading) (word : String) : Option CommandWord :=
  if level = .program ∧ !reading.waits then CommandWord.ofWord? word else none

theorem readArguments_of_command {command : CommandWord}
    (h : commandAt? level reading word = some command) (rest : List String) :
    readArguments level reading (word :: rest) = .ok (reading, some (command, rest)) := by
  unfold commandAt? at h
  unfold readArguments
  rw [h]

theorem readArguments_of_word (hcommand : commandAt? level reading word = none)
    (hword : word ≠ "--") (rest : List String) :
    readArguments level reading (word :: rest) =
      readWord level reading word >>= fun reading => readArguments level reading rest := by
  have hchars : word.toList ≠ ['-', '-'] := by
    intro h
    exact hword (String.toList_inj.1 h)
  unfold commandAt? at hcommand
  rw [readArguments.eq_def level reading (word :: rest)]
  dsimp only
  rw [hcommand]
  dsimp only
  split
  · rename_i heq
    exact absurd heq hchars
  · rename_i heq
    rw [readWord_of_long heq]
  · rename_i hplain heq
    rw [readWord_of_short (fun h => hplain h) heq]
  · rename_i hlong hshort
    rw [readWord_of_value hshort]
    cases reading.waits with
    | true => rfl
    | false => rfl

/-- Words that are read in step leave readings in step. -/
theorem readWord_alike (h : reading.Alike other) (word : String) :
    Alike Reading.Alike (readWord level reading word) (readWord level other word) := by
  unfold readWord
  split
  · exact readLong_alike level h _
  · exact readShort_alike level _ h
  · rw [h.waits_eq]
    cases reading.waits with
    | true => exact .ok (h.fillIn word)
    | false => exact .error _

/-! ## Words of style -/

variable {option : OptionName} {value : String}

/-- An option of style is known everywhere. -/
theorem StyleValue.longOption?_eq (h : StyleValue option value) (level : Level) :
    level.longOption? option.long = some option := by
  cases h with
  | color => cases level <;> decide
  | theme => cases level <;> decide

theorem StyleValue.splitLong_eq (h : StyleValue option value) :
    splitLong option.long.toList = (option.long, none) ∧
      splitLong (option.long.toList ++ '=' :: value.toList) = (option.long, some value) := by
  have hsplit (spelling : String) (hspelling : '=' ∉ spelling.toList) (after : List Char) :
      (spelling.toList ++ after).takeWhile (· != '=') =
          spelling.toList ++ after.takeWhile (· != '=') ∧
        (spelling.toList ++ after).dropWhile (· != '=') = after.dropWhile (· != '=') := by
    have hpos : ∀ char ∈ spelling.toList, (char != '=') = true := by
      intro char hchar
      rw [bne_iff_ne]
      rintro rfl
      exact hspelling hchar
    exact ⟨List.takeWhile_append_of_pos hpos, List.dropWhile_append_of_pos hpos⟩
  have hspelling : '=' ∉ option.long.toList := by
    cases h with
    | color => decide
    | theme => decide
  unfold splitLong
  constructor
  · have hnothing := hsplit option.long hspelling []
    rw [List.append_nil] at hnothing
    rw [hnothing.1, hnothing.2, List.takeWhile_nil, List.append_nil, String.ofList_toList]
    rfl
  · obtain ⟨htake, hdrop⟩ := hsplit option.long hspelling ('=' :: value.toList)
    have htaken : ('=' :: value.toList).takeWhile (· != '=') = [] := rfl
    have hdropped : ('=' :: value.toList).dropWhile (· != '=') = '=' :: value.toList := rfl
    rw [htake, hdrop, htaken, hdropped, List.append_nil, String.ofList_toList]
    dsimp only
    rw [String.ofList_toList]

/-- An option of style waits for its value. -/
theorem StyleValue.readWord_eq (h : StyleValue option value) :
    readWord level reading ("--" ++ option.long) = reading.openOption option := by
  have hchars : ("--" ++ option.long).toList = '-' :: '-' :: option.long.toList := by
    rw [String.toList_append]
    rfl
  rw [readWord_of_long hchars, readLong, h.splitLong_eq.1]
  dsimp only
  rw [h.longOption?_eq level]
  cases h with
  | color => rfl
  | theme => rfl

theorem StyleValue.readWord_joined (h : StyleValue option value) :
    readWord level reading ("--" ++ option.long ++ "=" ++ value) =
      reading.addValue option value := by
  have hchars : ("--" ++ option.long ++ "=" ++ value).toList =
      '-' :: '-' :: (option.long.toList ++ '=' :: value.toList) := by
    simp only [String.toList_append, List.append_assoc]
    rfl
  rw [readWord_of_long hchars, readLong, h.splitLong_eq.2]
  dsimp only
  rw [h.longOption?_eq level]
  cases h with
  | color => rfl
  | theme => rfl

/-- Where a reading waits, a word is no command. -/
theorem commandAt?_of_waits (h : reading.waits = true) (word : String) :
    commandAt? level reading word = none := by
  unfold commandAt?
  rw [h, if_neg (by simp)]

/-- Neither is a word that starts with a hyphen. -/
theorem commandAt?_of_hyphen {chars : List Char} (h : word.toList = '-' :: chars) :
    commandAt? level reading word = none := by
  have hword : word = String.ofList ('-' :: chars) := by rw [← h, String.ofList_toList]
  have hne (command : String) (hcommand : command.toList.head? ≠ some '-') :
      (word == command) = false := by
    rw [beq_eq_false_iff_ne]
    rintro rfl
    rw [h] at hcommand
    exact hcommand rfl
  have hnone : CommandWord.ofWord? word = none := by
    simp only [CommandWord.ofWord?, List.lookup_cons, hne "list" (by decide),
      hne "generate" (by decide), hne "help" (by decide), List.lookup_nil]
  unfold commandAt?
  split
  · exact hnone
  · rfl

/-- An option of style and its value are read as one. -/
theorem StyleValue.readArguments_eq (h : StyleValue option value) (rest : List String) :
    readArguments level reading (("--" ++ option.long) :: value :: rest) =
      reading.settled >>= fun given =>
        readArguments level { given, unsettled := some (option, some value) } rest := by
  have hoption : ("--" ++ option.long).toList = '-' :: '-' :: option.long.toList := by
    rw [String.toList_append]
    rfl
  have hne : "--" ++ option.long ≠ "--" := by
    cases h with
    | color => decide
    | theme => decide
  have hplain : value ≠ "--" ∧ ∀ char chars, value.toList ≠ '-' :: char :: chars := by
    have hwords : ∀ word ∈ ["always", "auto", "never", "dark", "light"],
        word ≠ "--" ∧ word.toList.head? ≠ some '-' := by decide
    obtain ⟨hhyphens, hhead⟩ := hwords value h.mem_words
    refine ⟨hhyphens, ?_⟩
    intro char chars hvalue
    rw [hvalue] at hhead
    exact hhead rfl
  rw [readArguments_of_word (commandAt?_of_hyphen hoption) hne, h.readWord_eq]
  unfold Reading.openOption
  cases reading.settled with
  | error stop => rfl
  | ok given =>
    -- The option waits, so the next word is its value even if it is the name of a command.
    have hwaits : Reading.waits { given, unsettled := some (option, none) } = true := rfl
    show readArguments level { given, unsettled := some (option, none) } (value :: rest) = _
    rw [readArguments_of_word (commandAt?_of_waits hwaits value) hplain.1,
      readWord_of_value hplain.2, hwaits]
    rfl

theorem readArguments_hyphens (rest : List String) :
    readArguments level reading ("--" :: rest) =
      match rest with
      | [] => .ok (reading, none)
      | stray :: _ => .error (.usage (strayError level true stray)) := by
  have hcommand : commandAt? level reading "--" = none := commandAt?_of_hyphen rfl
  unfold commandAt? at hcommand
  rw [readArguments.eq_def level reading ("--" :: rest)]
  dsimp only
  rw [hcommand]
  rfl

end Words

/-! ## Whole command lines -/

/-- The same command follows, with arguments that differ in style. -/
inductive FollowAlike :
    Option (CommandWord × List String) → Option (CommandWord × List String) → Prop where
  | none : FollowAlike none none
  | some (command : CommandWord) {rest others : List String} (h : Restyled rest others) :
    FollowAlike (some (command, rest)) (some (command, others))

/-- Readings that differ in style, with the same command behind them. -/
structure ReadAlike (read other : Reading × Option (CommandWord × List String)) : Prop where
  reading : read.1.Alike other.1
  follow : FollowAlike read.2 other.2

/-- Arguments that differ in style leave readings in step. -/
theorem readArguments_alike {level : Level} {arguments others : List String}
    (h : Restyled arguments others) {reading other : Reading} (hreading : reading.Alike other) :
    Alike ReadAlike (readArguments level reading arguments)
      (readArguments level other others) := by
  -- The reading changes with each word, and what stays is that the two differ in style alone.
  induction h generalizing reading other with
  | nil => exact .ok ⟨hreading, .none⟩
  | ended rest =>
    rw [readArguments_hyphens, readArguments_hyphens]
    cases rest with
    | nil => exact .ok ⟨hreading, .none⟩
    | cons stray rest => exact .error _
  | @same word rest others hword hrest ih =>
    have hcommandAt : commandAt? level other word = commandAt? level reading word := by
      rw [commandAt?, commandAt?, hreading.waits_eq]
    cases hcommand : commandAt? level reading word with
    | some command =>
      rw [readArguments_of_command hcommand, readArguments_of_command (hcommandAt.trans hcommand)]
      exact .ok ⟨hreading, .some command hrest⟩
    | none =>
      rw [readArguments_of_word hcommand hword,
        readArguments_of_word (hcommandAt.trans hcommand) hword]
      apply (readWord_alike hreading word).bind
      exact fun _ _ hnext => ih hnext
  | apart hvalue hother _ ih =>
    rw [hvalue.readArguments_eq, hother.readArguments_eq]
    apply hreading.settled.bind
    exact fun _ _ hgiven => ih ⟨hgiven, .style hvalue hother⟩
  | @joined option value otherValue rest others hvalue hother _ ih =>
    have hhyphen (value : String) : ∃ chars,
        ("--" ++ option.long ++ "=" ++ value).toList = '-' :: chars ∧ chars ≠ ['-'] := by
      refine ⟨'-' :: (option.long.toList ++ '=' :: value.toList), ?_, by simp⟩
      simp only [String.toList_append, List.append_assoc]
      rfl
    have hword (value : String) : "--" ++ option.long ++ "=" ++ value ≠ "--" := by
      obtain ⟨chars, hchars, hne⟩ := hhyphen value
      intro heq
      rw [heq] at hchars
      cases hchars
      exact hne rfl
    obtain ⟨_, hchars, -⟩ := hhyphen value
    obtain ⟨_, hotherChars, -⟩ := hhyphen otherValue
    rw [readArguments_of_word (commandAt?_of_hyphen hchars) (hword value),
      readArguments_of_word (commandAt?_of_hyphen hotherChars) (hword otherValue),
      hvalue.readWord_joined, hother.readWord_joined]
    apply (hreading.addStyle hvalue hother).bind
    exact fun _ _ hnext => ih hnext

/-- The command of a command line that can be read up to it. -/
def commandOf? (arguments : List String) : Option CommandWord :=
  match readArguments .program {} arguments with
  | .ok (_, some (command, _)) => some command
  | _ => none

/-- The arguments of a command ask for the same. -/
theorem readCommand_alike (level : Level) {arguments others : List String}
    (h : Restyled arguments others) :
    Alike (fun command other => command.1.Alike other.1 ∧ other.2 = command.2)
      (readCommand level arguments) (readCommand level others) := by
  unfold readCommand
  apply (readArguments_alike h (.refl {})).bind
  intro read other hread
  apply hread.reading.settled.bind
  intro given otherGiven hgiven
  have hinput : otherGiven.input = given.input := by
    cases hgiven
    rfl
  have hrequest (input : String) :
      requestOf level otherGiven input = requestOf level given input := by
    cases hgiven
    cases level <;> rfl
  rw [hinput]
  cases given.input with
  | none => exact .error _
  | some input => exact .ok ⟨hgiven, hrequest input⟩

/-- Unless they ask for help, command lines that differ in style ask for the same, or they are
refused for the same reason. -/
theorem readInvocation_alike {arguments others : List String} (h : Restyled arguments others)
    (hhelp : commandOf? arguments ≠ some .help) :
    Alike (fun invocation other => other.request = invocation.request)
      (readInvocation arguments) (readInvocation others) := by
  have hread : Alike ReadAlike (readArguments .program {} arguments)
      (readArguments .program {} others) := readArguments_alike h (.refl {})
  unfold commandOf? at hhelp
  unfold readInvocation
  generalize readArguments .program {} arguments = read at hread hhelp
  generalize readArguments .program {} others = otherRead at hread
  -- The command is finished with the options in front of it.
  have hfinish {reading other : Reading} (hreading : reading.Alike other) (level : Level)
      {rest others : List String} (hrest : Restyled rest others) :
      Alike (fun invocation other => other.request = invocation.request)
        (readCommand level rest >>= readInvocation.finish reading)
        (readCommand level others >>= readInvocation.finish other) := by
    apply (readCommand_alike level hrest).bind
    intro command otherCommand hcommand
    apply hreading.settled.bind
    exact fun _ _ _ => .ok hcommand.2
  cases hread with
  | error stop => exact .error _
  | @ok read otherRead hread =>
    obtain ⟨hreading, hfollow⟩ := hread
    obtain ⟨reading, command?⟩ := read
    obtain ⟨other, otherCommand?⟩ := otherRead
    cases hfollow with
    | none =>
      apply hreading.settled.bind
      intro given otherGiven hgiven
      have hempty : (otherGiven = {}) = (given = {}) := hgiven.eq_empty
      simp only [hempty]
      exact .error _
    | some command hrest =>
      cases command with
      | help => exact absurd rfl hhelp
      | list => exact hfinish hreading .list hrest
      | generate => exact hfinish hreading .generate hrest

/-- Command lines that differ in style alone: in the values that are written, or in those that are
read, where one may leave out what the other gives. -/
inductive OtherStyle (arguments others : List String) : Prop where
  | written (h : Restyled arguments others) (hhelp : commandOf? arguments ≠ some .help)
  | read {invocation other : Invocation} (hread : readInvocation arguments = .ok invocation)
    (hother : readInvocation others = .ok other) (hrequest : other.request = invocation.request)

theorem OtherStyle.alike {arguments others : List String} (h : OtherStyle arguments others) :
    Alike (fun invocation other => other.request = invocation.request)
      (readInvocation arguments) (readInvocation others) := by
  cases h with
  | written h hhelp => exact readInvocation_alike h hhelp
  | read hread hother hrequest =>
    rw [hread, hother]
    exact .ok hrequest

end Command

end ModelFactory
