import ModelFactory.Text.SnakeCase

/-!
# What snake case keeps apart

No character but the slash becomes a slash in snake case (`Text.slash_mem_of_snakeCase`), so a name
without one gives a name without one.
-/

set_option autoImplicit false

namespace ModelFactory

namespace Unicode

/-- The mapping to small letters leads from no capital into the first 48 code points. -/
theorem slash_lt_smallLetter :
    ∀ run ∈ smallLetterRuns, (0x2f : Int) < run.capitals.first + run.distance := by
  decide +kernel

/-- The mapping to small letters leads from a character beyond ASCII to no slash. -/
theorem smallLetterCode_ne_slash {code : Nat} (h : 0x80 ≤ code) : smallLetterCode code ≠ 0x2f := by
  unfold smallLetterCode
  split
  · rename_i run hrun
    have hfirst := slash_lt_smallLetter run (List.mem_of_find?_eq_some hrun)
    have hhas : run.capitals.has code = true := by simpa using List.find?_some hrun
    have hle : run.capitals.first ≤ code := by
      simp only [CodeRun.has, Bool.and_eq_true, decide_eq_true_eq] at hhas
      exact hhas.1.1
    omega
  · omega

/-- A number that is no code point stands for the character zero. -/
theorem toNat_ofNat (code : Nat) :
    (Char.ofNat code).toNat = code ∨ (Char.ofNat code).toNat = 0 := by
  by_cases hvalid : code.isValidChar
  · left
    rw [Char.ofNat, dif_pos hvalid]
    rfl
  · right
    rw [Char.ofNat, dif_neg hvalid]
    rfl

/-- No other character has the slash among its small letters. -/
theorem eq_slash_of_mem_smallLetters {char : Char} (h : '/' ∈ smallLetters char) : char = '/' := by
  unfold smallLetters at h
  by_cases hascii : char.toNat < 0x80
  · rw [if_pos hascii, List.mem_singleton] at h
    have hall : ∀ code < 0x80, '/' = (Char.ofNat code).toLower → Char.ofNat code = '/' := by decide
    have hchar := hall char.toNat hascii
    rw [Char.ofNat_toNat] at hchar
    exact hchar h
  · rw [if_neg hascii] at h
    by_cases hdotted : char.toNat = 0x130
    · rw [if_pos hdotted] at h
      exact absurd h (by decide)
    · rw [if_neg hdotted, List.mem_singleton] at h
      have hne := smallLetterCode_ne_slash (Nat.not_lt.1 hascii)
      have hslash : (Char.ofNat (smallLetterCode char.toNat)).toNat = 0x2f := by
        rw [← h]
        rfl
      rcases toNat_ofNat (smallLetterCode char.toNat) with hcode | hzero
      · exact absurd (hcode.symm.trans hslash) hne
      · rw [hslash] at hzero
        cases hzero

end Unicode

namespace Text

/-- A slash in snake case comes from a slash in the name. -/
theorem slash_mem_of_snakeCase {name : String} (h : '/' ∈ (snakeCase name).toList) :
    '/' ∈ name.toList := by
  rw [snakeCase, String.toList_ofList] at h
  obtain ⟨char, hchar, hsmall⟩ := List.mem_flatMap.1 h
  obtain rfl := Unicode.eq_slash_of_mem_smallLetters hsmall
  -- Setting humps apart brings in underscores only.
  have hfilter : '/' ∈ (separateHumps (name.toList.map unifySeparator)).filter (· != '_') :=
    List.mem_filter.2 ⟨hchar, by decide⟩
  rw [filter_separateHumps] at hfilter
  obtain ⟨original, horiginal, hunified⟩ := List.mem_map.1 (List.mem_filter.1 hfilter).1
  unfold unifySeparator at hunified
  split at hunified
  · cases hunified
  · rw [← hunified]
    exact horiginal

end Text

end ModelFactory
