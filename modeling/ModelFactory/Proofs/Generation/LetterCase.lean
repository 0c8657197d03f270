import ModelFactory.Proofs.Generation.Clashes
import ModelFactory.Proofs.Text.SnakeCase
import ModelFactory.Text.Digits

/-!
# File names that differ in more than letter case

A file system may take two names for one when they differ in letter case alone. `Text.lowered`
replaces every character by its small letters, and small letters are their own small letters
(`Unicode.smallLetters_of_mem`). So a name in snake case is lowered already
(`Text.lowered_snakeCase`), the same holds of the number behind it, and lowering a file name changes
its suffix only (`FileNames.lowered_candidate`). As all file names of a run share one suffix, names
that differ differ in front of it, and they still differ when they are lowered
(`generate_fileNames_lowered_nodup`).
-/

set_option autoImplicit false

namespace ModelFactory

/-! ## Small letters of small letters -/

namespace Unicode

/-- The code points whose small letters are others. -/
def capitals : CodeSet := ⟨0x130, 0x130, 1⟩ :: smallLetterRuns.map (·.capitals)

/-- The code points of the small letters of the run. -/
def SmallLetterRun.image (run : SmallLetterRun) : CodeRun :=
  ⟨(run.capitals.first + run.distance).toNat, (run.capitals.last + run.distance).toNat,
    run.capitals.step⟩

theorem CodeRun.has_iff {run : CodeRun} {code : Nat} :
    run.has code = true ↔
      run.first ≤ code ∧ code ≤ run.last ∧ (code - run.first) % run.step = 0 := by
  simp only [has, Bool.and_eq_true, decide_eq_true_eq, beq_iff_eq, and_assoc]

/-- One run ends before the other starts, or their code points alternate. -/
def CodeRun.isApart (run other : CodeRun) : Bool :=
  Nat.blt run.last other.first || Nat.blt other.last run.first ||
    ((run.step == 2 || run.first == run.last) && other.step == 2 &&
      run.first % 2 != other.first % 2)

/-- Runs that lie apart have no code point in common. -/
theorem CodeRun.not_has_of_isApart {run other : CodeRun} (h : run.isApart other = true) {code : Nat}
    (hcode : run.has code = true) : other.has code = false := by
  rw [← Bool.not_eq_true]
  intro hother
  simp only [isApart, Bool.or_eq_true, Bool.and_eq_true, Nat.blt_eq, beq_iff_eq, bne_iff_ne] at h
  obtain ⟨hfirst, hlast, hstep⟩ := has_iff.1 hcode
  obtain ⟨hfirst', hlast', hstep'⟩ := has_iff.1 hother
  rcases h with (hbefore | hbehind) | ⟨⟨hstretch, htwo⟩, hturns⟩
  · omega
  · omega
  · -- Both go by twos, from an even and from an odd start.
    rw [htwo] at hstep'
    rcases hstretch with htwo' | hsingle
    · rw [htwo'] at hstep
      omega
    · omega

theorem SmallLetterRun.image_has (run : SmallLetterRun)
    (hstart : 0 ≤ run.capitals.first + run.distance) {code : Nat}
    (h : run.capitals.has code = true) : run.image.has (code + run.distance).toNat = true := by
  obtain ⟨hfirst, hlast, hstep⟩ := CodeRun.has_iff.1 h
  have hoffset : (code + run.distance).toNat - (run.capitals.first + run.distance).toNat =
      code - run.capitals.first := by omega
  apply CodeRun.has_iff.2
  refine ⟨?_, ?_, ?_⟩
  · show (run.capitals.first + run.distance).toNat ≤ (code + run.distance).toNat
    omega
  · show (code + run.distance).toNat ≤ (run.capitals.last + run.distance).toNat
    omega
  · show ((code + run.distance).toNat - (run.capitals.first + run.distance).toNat) %
      run.capitals.step = 0
    rw [hoffset]
    exact hstep

/-- No small letter in the table is a capital. -/
theorem image_isApart :
    smallLetterRuns.all (fun run => capitals.all run.image.isApart) = true := by
  decide +kernel

theorem capitals_has_iff {code : Nat} :
    capitals.has code = true ↔
      code = 0x130 ∨ ∃ run ∈ smallLetterRuns, run.capitals.has code = true := by
  have hdotted : CodeRun.has ⟨0x130, 0x130, 1⟩ code = true ↔ code = 0x130 := by
    rw [CodeRun.has_iff]
    dsimp only
    omega
  simp [CodeSet.has_iff, capitals, hdotted]

/-- The capitals of ASCII are one run. -/
theorem eq_or_ascii_lt_of_mem_capitals :
    ∀ run ∈ capitals, run = ⟨0x41, 0x5a, 1⟩ ∨ 0x80 ≤ run.first := by
  decide +kernel

/-- The mapping leads to no capital. -/
theorem capitals_has_smallLetterCode {code : Nat} (h : code ≠ 0x130) :
    capitals.has (smallLetterCode code) = false := by
  unfold smallLetterCode
  cases hfind : smallLetterRuns.find? (·.capitals.has code) with
  | none =>
    rw [← Bool.not_eq_true, capitals_has_iff]
    rintro (hdotted | ⟨run, hrun, hhas⟩)
    · exact h hdotted
    · exact List.find?_eq_none.1 hfind run hrun hhas
  | some run =>
    have hrun := List.mem_of_find?_eq_some hfind
    have hcode : run.capitals.has code = true := by simpa using List.find?_some hfind
    -- The small letter is in the image of the run, which lies apart from all capitals.
    have hstart := slash_lt_smallLetter run hrun
    have himage := run.image_has (by omega) hcode
    have hapart := List.all_eq_true.1 image_isApart run hrun
    rw [← Bool.not_eq_true, CodeSet.has_iff]
    rintro ⟨other, hother, hhas⟩
    have hnot := CodeRun.not_has_of_isApart (List.all_eq_true.1 hapart other hother) himage
    rw [hhas] at hnot
    cases hnot

/-- A character that is no capital is its own small letter. -/
theorem smallLetters_of_not_capital {char : Char} (h : capitals.hasChar char = false) :
    smallLetters char = [char] := by
  have hnone : ¬ (char.toNat = 0x130 ∨
      ∃ run ∈ smallLetterRuns, run.capitals.has char.toNat = true) := by
    rw [← capitals_has_iff, Bool.not_eq_true]
    exact h
  rw [not_or] at hnone
  obtain ⟨hdotted, hruns⟩ := hnone
  unfold smallLetters
  by_cases hascii : char.toNat < 0x80
  · -- The capitals of ASCII are the first run of the table.
    rw [if_pos hascii]
    have hall : ∀ code < 0x80, CodeRun.has ⟨0x41, 0x5a, 1⟩ code = false →
        (Char.ofNat code).toLower = Char.ofNat code := by decide
    have hchar := hall char.toNat hascii
    rw [Char.ofNat_toNat] at hchar
    rw [hchar]
    rw [← Bool.not_eq_true]
    exact fun hhas => hruns ⟨⟨⟨0x41, 0x5a, 1⟩, 0x20⟩, List.mem_cons_self, hhas⟩
  · have hfind : smallLetterRuns.find? (·.capitals.has char.toNat) = none := by
      rw [List.find?_eq_none]
      exact fun run hrun hhas => hruns ⟨run, hrun, hhas⟩
    have hcode : smallLetterCode char.toNat = char.toNat := by
      unfold smallLetterCode
      rw [hfind]
    rw [if_neg hascii, if_neg hdotted, hcode, Char.ofNat_toNat]

/-- A digit is its own small letter. -/
theorem smallLetters_of_isDigit {char : Char} (h : char.isDigit = true) :
    smallLetters char = [char] := by
  have hbounds : 48 ≤ char.toNat ∧ char.toNat ≤ 57 := by
    simpa [Char.isDigit, UInt32.le_iff_toNat_le] using h
  have hall : ∀ code < 58, 48 ≤ code → smallLetters (Char.ofNat code) = [Char.ofNat code] := by
    decide
  have hchar := hall char.toNat (by omega) hbounds.1
  rwa [Char.ofNat_toNat] at hchar

/-- The small letters of a character are no capitals. -/
theorem not_capital_of_mem_smallLetters {char small : Char} (h : small ∈ smallLetters char) :
    capitals.hasChar small = false := by
  unfold smallLetters at h
  by_cases hascii : char.toNat < 0x80
  · rw [if_pos hascii, List.mem_singleton] at h
    have hall : ∀ code < 0x80, (Char.ofNat code).toLower.toNat < 0x80 ∧
        CodeRun.has ⟨0x41, 0x5a, 1⟩ (Char.ofNat code).toLower.toNat = false := by decide
    have hchar := hall char.toNat hascii
    rw [Char.ofNat_toNat, ← h] at hchar
    rw [CodeSet.hasChar, ← Bool.not_eq_true, CodeSet.has_iff]
    rintro ⟨run, hrun, hhas⟩
    rcases eq_or_ascii_lt_of_mem_capitals run hrun with rfl | hfirst
    · rw [hhas] at hchar
      cases hchar.2
    · have hle := (CodeRun.has_iff.1 hhas).1
      omega
  · rw [if_neg hascii] at h
    by_cases hdotted : char.toNat = 0x130
    · rw [if_pos hdotted] at h
      have hdotless : capitals.hasChar 'i' = false := by decide +kernel
      have hdot : capitals.hasChar (Char.ofNat 0x307) = false := by decide +kernel
      simp only [List.mem_cons, List.not_mem_nil, or_false] at h
      rcases h with rfl | rfl
      · exact hdotless
      · exact hdot
    · rw [if_neg hdotted, List.mem_singleton] at h
      rw [h, CodeSet.hasChar]
      rcases toNat_ofNat (smallLetterCode char.toNat) with hcode | hzero
      · rw [hcode]
        exact capitals_has_smallLetterCode hdotted
      · rw [hzero]
        decide +kernel

/-- Small letters are their own small letters. -/
theorem smallLetters_of_mem {char small : Char} (h : small ∈ smallLetters char) :
    smallLetters small = [small] :=
  smallLetters_of_not_capital (not_capital_of_mem_smallLetters h)

end Unicode

/-! ## Text in small letters -/

namespace Text

/-- A text with every character replaced by its small letters. -/
def lowered (text : String) : String := String.ofList (text.toList.flatMap Unicode.smallLetters)

theorem toList_lowered (text : String) :
    (lowered text).toList = text.toList.flatMap Unicode.smallLetters :=
  String.toList_ofList

theorem lowered_append (text other : String) :
    lowered (text ++ other) = lowered text ++ lowered other := by
  apply String.toList_inj.1
  simp only [toList_lowered, String.toList_append, List.flatMap_append]

/-- A text of characters that are their own small letters is lowered already. -/
theorem lowered_eq_self {text : String}
    (h : ∀ char ∈ text.toList, Unicode.smallLetters char = [char]) : lowered text = text := by
  apply String.toList_inj.1
  rw [toList_lowered, List.flatMap_congr h, List.flatMap_singleton']

/-- A name in snake case is lowered already. -/
theorem lowered_snakeCase (name : String) : lowered (snakeCase name) = snakeCase name := by
  apply lowered_eq_self
  intro char hchar
  rw [snakeCase, String.toList_ofList] at hchar
  obtain ⟨original, -, hsmall⟩ := List.mem_flatMap.1 hchar
  exact Unicode.smallLetters_of_mem hsmall

/-- A number has no capitals. -/
theorem lowered_toString (number : Nat) : lowered (toString number) = toString number := by
  apply lowered_eq_self
  intro char hchar
  have hdigit : char.isDigit = true := by
    rw [← Bool.not_eq_false]
    exact fun hnot => notMem_toString hnot number hchar
  exact Unicode.smallLetters_of_isDigit hdigit

end Text

/-! ## File names in small letters -/

namespace FileNames

/-- Lowering a file name changes its suffix only. -/
theorem lowered_candidate {stem : String} (hstem : Text.lowered stem = stem) (suffix : String)
    (number : Nat) :
    Text.lowered (candidate suffix stem number) = candidate (Text.lowered suffix) stem number := by
  have hline : Text.lowered "_" = "_" := by decide
  unfold candidate
  split
  · rw [Text.lowered_append, hstem]
  · simp only [Text.lowered_append, Text.lowered_toString, hstem, hline]

/-- What stands in front of the suffix does not depend on it. -/
theorem exists_front_candidate (stem : String) (number : Nat) :
    ∃ front, ∀ suffix, candidate suffix stem number = front ++ suffix := by
  unfold candidate
  split
  · exact ⟨_, fun _ => rfl⟩
  · exact ⟨_, fun _ => rfl⟩

/-- It tells file names apart, whatever the suffix is. -/
theorem candidate_eq_of_suffix {suffix other stem stem' : String} {number number' : Nat}
    (h : candidate suffix stem number = candidate suffix stem' number') :
    candidate other stem number = candidate other stem' number' := by
  obtain ⟨front, hfront⟩ := exists_front_candidate stem number
  obtain ⟨front', hfront'⟩ := exists_front_candidate stem' number'
  rw [hfront, hfront', String.append_left_inj] at h
  rw [hfront, hfront', h]

end FileNames

/-- No two file names of a run are equal when every character of both is replaced by its small
letters, whatever the suffix and the classes are. -/
theorem generate_fileNames_lowered_nodup (settings : GeneratorSettings) (document : Document)
    (sourcePath : String) :
    ((generate settings document sourcePath).factories.map fun factory =>
      Text.lowered factory.fileName).Nodup := by
  obtain ⟨hnames, -⟩ := generate_warns settings document sourcePath
  have hnodup := generate_fileNames_nodup settings document sourcePath
  rw [List.Nodup, List.pairwise_map] at hnodup ⊢
  refine hnodup.imp_of_mem fun {earlier later} hearlier hlater hne hlowered => hne ?_
  obtain ⟨number, -, hearlier⟩ := hnames earlier hearlier
  obtain ⟨number', -, hlater⟩ := hnames later hlater
  rw [hearlier, hlater, FileNames.lowered_candidate (Text.lowered_snakeCase _),
    FileNames.lowered_candidate (Text.lowered_snakeCase _)] at hlowered
  rw [hearlier, hlater]
  exact FileNames.candidate_eq_of_suffix hlowered

end ModelFactory
