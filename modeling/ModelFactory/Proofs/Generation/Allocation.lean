import Mathlib.Data.List.Induction
import Mathlib.Data.List.Nodup
import Mathlib.Data.List.Perm.Subperm
import Std.Data.String.ToNat
import ModelFactory.Generation.FileNames

/-!
# File names are handed out once

`FileNames.Search` is the search for a file name without a bound on its length: it goes on to the
next number as long as the candidate is taken. As the candidates of a stem are pairwise distinct
(`FileNames.candidate_injective`) and only finitely many names are taken, the search ends
(`FileNames.exists_free_candidate`), and `FileNames.nextName` is what it finds
(`FileNames.search_nextName`).

Over a whole run a name is taken exactly if it was handed out before
(`FileNames.isTaken_namesAfter`), so no name is handed out twice
(`FileNames.allocateAll_smallest_free`).
-/

set_option autoImplicit false

namespace ModelFactory

namespace FileNames

/-! ## The search -/

/-- The search for a name that is not taken. `counter` is the number of the candidate at hand. -/
inductive Search (taken : String → Prop) (stem suffix : String) : Nat → String → String → Prop
  | stop {counter : Nat} {candidate : String} :
      ¬ taken candidate → Search taken stem suffix counter candidate candidate
  | next {counter : Nat} {candidate found : String} :
      taken candidate →
      Search taken stem suffix (counter + 1) (stem ++ "_" ++ toString (counter + 1) ++ suffix)
        found →
      Search taken stem suffix counter candidate found

theorem candidate_one (suffix stem : String) : candidate suffix stem 1 = stem ++ suffix := rfl

theorem candidate_of_two_le {suffix stem : String} {number : Nat} (h : 2 ≤ number) :
    candidate suffix stem number = stem ++ "_" ++ toString number ++ suffix := by
  have hnot : ¬ number ≤ 1 := by omega
  simp only [candidate, hnot, if_false]

/-- The natural name has no number, so it is shorter than the numbered ones. -/
theorem candidate_one_ne {suffix stem : String} {number : Nat} (h : 2 ≤ number) :
    candidate suffix stem 1 ≠ candidate suffix stem number := by
  intro heq
  rw [candidate_one, candidate_of_two_le h] at heq
  have hlength := congrArg String.length heq
  simp only [String.length_append] at hlength
  have hline : ("_" : String).length = 1 := rfl
  omega

/-- The candidates of a stem are pairwise distinct. -/
theorem candidate_injective {suffix stem : String} {m n : Nat} (hm : 1 ≤ m) (hn : 1 ≤ n)
    (h : candidate suffix stem m = candidate suffix stem n) : m = n := by
  rcases Nat.eq_or_lt_of_le hm with rfl | hm
  · rcases Nat.eq_or_lt_of_le hn with rfl | hn
    · rfl
    · exact absurd h (candidate_one_ne hn)
  · rcases Nat.eq_or_lt_of_le hn with rfl | hn
    · exact absurd h.symm (candidate_one_ne hm)
    · rw [candidate_of_two_le hm, candidate_of_two_le hn, String.append_left_inj,
        String.append_right_inj, Nat.toString_eq_repr, Nat.toString_eq_repr] at h
      exact Nat.repr_injective h

/-- The search ends on the first candidate that is not taken. -/
theorem search_candidate {taken : String → Prop} {stem suffix : String} {counter number : Nat}
    (hcounter : 1 ≤ counter) (hle : counter ≤ number)
    (hbefore : ∀ k, counter ≤ k → k < number → taken (candidate suffix stem k))
    (hfree : ¬ taken (candidate suffix stem number)) :
    Search taken stem suffix counter (candidate suffix stem counter)
      (candidate suffix stem number) := by
  -- On how far the free candidate is ahead.
  obtain ⟨distance, rfl⟩ := Nat.exists_eq_add_of_le hle
  induction distance generalizing counter with
  | zero => exact .stop hfree
  | succ distance ih =>
    have hshift : counter + (distance + 1) = counter + 1 + distance := by omega
    rw [hshift] at hbefore hfree ⊢
    refine .next (hbefore counter (Nat.le_refl _) (by omega)) ?_
    rw [← candidate_of_two_le (by omega)]
    exact ih (by omega) (by omega) (fun k hk => hbefore k (by omega)) hfree

/-! ## The search ends -/

theorem isTaken_iff_mem {names : FileNames} {name : String} :
    names.isTaken name = true ↔ name ∈ names.owners := by
  rw [isTaken, Std.ExtTreeMap.mem_iff_contains]

/-- One candidate more than there are names taken cannot be taken altogether. -/
theorem exists_free_candidate (names : FileNames) (stem : String) :
    ∃ number, 1 ≤ number ∧ number ≤ names.owners.size + 1 ∧
      names.isTaken (candidate names.suffix stem number) = false := by
  by_contra hall
  have htaken : ∀ number, 1 ≤ number → number ≤ names.owners.size + 1 →
      candidate names.suffix stem number ∈ names.owners := by
    intro number hone hle
    rw [← isTaken_iff_mem, ← Bool.not_eq_false]
    exact fun hfree => hall ⟨number, hone, hle, hfree⟩
  -- These candidates differ and are all taken, and they are more than the names taken.
  let candidates := (List.range' 1 (names.owners.size + 1)).map (candidate names.suffix stem)
  have hnodup : candidates.Nodup := by
    refine (List.nodup_map_iff_inj_on List.nodup_range').2 ?_
    intro m hm n hn heq
    rw [List.mem_range'_1] at hm hn
    exact candidate_injective hm.1 hn.1 heq
  have hsubset : candidates ⊆ names.owners.keys := by
    intro name hname
    obtain ⟨number, hnumber, rfl⟩ := List.mem_map.1 hname
    rw [List.mem_range'_1] at hnumber
    exact Std.ExtTreeMap.mem_keys.2 (htaken number hnumber.1 (by omega))
  have hlength := (hnodup.subperm hsubset).length_le
  rw [Std.ExtTreeMap.length_keys, List.length_map, List.length_range'] at hlength
  omega

/-- The number of the candidate that a model gets. -/
def nextNumber (names : FileNames) (model : String) : Nat :=
  firstFree (fun number => names.isTaken (candidate names.suffix (Text.snakeCase model) number))
    names.owners.size 1

theorem nextName_eq (names : FileNames) (model : String) :
    names.nextName model =
      candidate names.suffix (Text.snakeCase model) (names.nextNumber model) := rfl

theorem one_le_nextNumber (names : FileNames) (model : String) : 1 ≤ names.nextNumber model :=
  le_firstFree _ _ _

theorem isTaken_of_lt_nextNumber {names : FileNames} {model : String} {number : Nat}
    (hone : 1 ≤ number) (h : number < names.nextNumber model) :
    names.isTaken (candidate names.suffix (Text.snakeCase model) number) = true := by
  have htaken := taken_of_lt_firstFree hone h
  exact htaken

/-- The name that a model gets is not taken. -/
theorem isTaken_nextName (names : FileNames) (model : String) :
    names.isTaken (names.nextName model) = false := by
  obtain ⟨number, hone, hle, hfree⟩ := exists_free_candidate names (Text.snakeCase model)
  -- The search has not passed over the free candidate; it may have stopped there for want of fuel.
  have hnext : names.nextNumber model ≤ number := by
    by_contra hlt
    have htaken := isTaken_of_lt_nextNumber hone (Nat.lt_of_not_le hlt)
    rw [hfree] at htaken
    cases htaken
  rcases Nat.eq_or_lt_of_le hnext with heq | hlt
  · rw [nextName_eq, heq]
    exact hfree
  · have hfuel : names.nextNumber model < 1 + names.owners.size := by omega
    have hstop := firstFree_free hfuel
    exact hstop

/-- The search ends for every model, with the name that the model gets. -/
theorem search_nextName (names : FileNames) (model : String) :
    Search (fun name => names.isTaken name = true) (Text.snakeCase model) names.suffix 1
      (Text.snakeCase model ++ names.suffix) (names.nextName model) := by
  refine search_candidate (Nat.le_refl 1) (one_le_nextNumber names model) ?_ ?_
  · intro number hone hlt
    exact isTaken_of_lt_nextNumber hone hlt
  · show ¬ names.isTaken (names.nextName model) = true
    rw [isTaken_nextName]
    exact Bool.false_ne_true

/-- A model gets its natural name exactly if that is not taken. -/
theorem nextName_eq_natural_iff (names : FileNames) (model : String) :
    names.nextName model = Text.snakeCase model ++ names.suffix ↔
      names.isTaken (Text.snakeCase model ++ names.suffix) = false := by
  constructor
  · intro h
    rw [← h]
    exact isTaken_nextName names model
  · intro hfree
    have hsearch := search_nextName names model
    generalize names.nextName model = name at hsearch ⊢
    cases hsearch with
    | stop _ => rfl
    | next htaken _ =>
      rw [hfree] at htaken
      cases htaken

/-- Otherwise it gets the numbered name with the smallest number from 2 on that is not taken. -/
theorem nextName_of_isTaken {names : FileNames} {model : String}
    (h : names.isTaken (Text.snakeCase model ++ names.suffix) = true) :
    ∃ number, 2 ≤ number ∧
      names.nextName model =
        Text.snakeCase model ++ "_" ++ toString number ++ names.suffix ∧
      ∀ k, 2 ≤ k → k < number →
        names.isTaken (Text.snakeCase model ++ "_" ++ toString k ++ names.suffix) = true := by
  have hne : names.nextNumber model ≠ 1 := by
    intro hone
    have hfree := isTaken_nextName names model
    rw [nextName_eq, hone, candidate_one, h] at hfree
    cases hfree
  have htwo : 2 ≤ names.nextNumber model := by
    have hone := one_le_nextNumber names model
    omega
  refine ⟨names.nextNumber model, htwo, ?_, ?_⟩
  · rw [nextName_eq, candidate_of_two_le htwo]
  · intro k hk hlt
    rw [← candidate_of_two_le hk]
    exact isTaken_of_lt_nextNumber (by omega) hlt

/-- There is a clash exactly if the natural name is taken. -/
theorem isSome_clash?_iff (names : FileNames) (model : String) :
    (names.clash? model).isSome = true ↔
      names.isTaken (Text.snakeCase model ++ names.suffix) = true := by
  rw [clash?, Option.isSome_map, naturalName, candidate_one,
    Std.ExtTreeMap.isSome_getElem?_eq_contains, isTaken]

/-- There is none exactly if the model gets its natural name. -/
theorem clash?_eq_none_iff (names : FileNames) (model : String) :
    names.clash? model = none ↔ names.nextName model = Text.snakeCase model ++ names.suffix := by
  rw [nextName_eq_natural_iff, ← Bool.not_eq_true, ← isSome_clash?_iff, Bool.not_eq_true,
    Option.isSome_eq_false_iff, Option.isNone_iff_eq_none]

/-! ## Runs -/

/-- The names taken after one model after the other got a name. -/
def namesAfter (names : FileNames) (models : List String) : FileNames :=
  models.foldl (fun names model => (names.allocate model).2.2) names

@[simp] theorem namesAfter_nil (names : FileNames) : names.namesAfter [] = names := rfl

@[simp] theorem namesAfter_cons (names : FileNames) (model : String) (models : List String) :
    names.namesAfter (model :: models) = (names.allocate model).2.2.namesAfter models := rfl

@[simp] theorem allocateAll_nil (names : FileNames) : names.allocateAll [] = [] := rfl

@[simp] theorem allocateAll_cons (names : FileNames) (model : String) (models : List String) :
    names.allocateAll (model :: models) =
      (names.nextName model, names.clash? model) :: (names.allocate model).2.2.allocateAll models :=
  rfl

@[simp] theorem suffix_namesAfter (names : FileNames) (models : List String) :
    (names.namesAfter models).suffix = names.suffix := by
  induction models generalizing names with
  | nil => rfl
  | cons model models ih =>
    rw [namesAfter_cons, ih]
    rfl

@[simp] theorem length_allocateAll (names : FileNames) (models : List String) :
    (names.allocateAll models).length = models.length := by
  induction models generalizing names with
  | nil => rfl
  | cons model models ih => simp [ih]

/-- Later models do not change what earlier ones got. -/
theorem allocateAll_append (names : FileNames) (models others : List String) :
    names.allocateAll (models ++ others) =
      names.allocateAll models ++ (names.namesAfter models).allocateAll others := by
  induction models generalizing names with
  | nil => rfl
  | cons model models ih => simp [ih]

/-- After a run exactly the names handed out in it are taken besides those before it. -/
theorem isTaken_namesAfter (names : FileNames) (models : List String) (name : String) :
    (names.namesAfter models).isTaken name = true ↔
      names.isTaken name = true ∨ name ∈ (names.allocateAll models).map (·.1) := by
  induction models generalizing names with
  | nil => simp
  | cons model models ih =>
    have hstep : (names.allocate model).2.2.isTaken name = true ↔
        name = names.nextName model ∨ names.isTaken name = true := by
      rw [isTaken_iff_mem, isTaken_iff_mem]
      show name ∈ names.owners.insert (names.nextName model) model ↔ _
      rw [Std.ExtTreeMap.mem_insert, Std.LawfulEqCmp.compare_eq_iff_eq, eq_comm]
    rw [namesAfter_cons, ih, hstep, allocateAll_cons, List.map_cons, List.mem_cons]
    tauto

/-- No name that is taken is handed out, and none is handed out twice. -/
theorem allocateAll_fresh_nodup (names : FileNames) (models : List String) :
    (∀ name ∈ (names.allocateAll models).map (·.1), names.isTaken name = false) ∧
      ((names.allocateAll models).map (·.1)).Nodup := by
  -- From the right: the last name is free after all those before it.
  induction models using List.reverseRecOn with
  | nil => simp
  | append_singleton models model ih =>
    obtain ⟨hfresh, hnodup⟩ := ih
    have hlast := isTaken_nextName (names.namesAfter models) model
    have hnew : ¬ (names.isTaken ((names.namesAfter models).nextName model) = true ∨
        (names.namesAfter models).nextName model ∈ (names.allocateAll models).map (·.1)) := by
      rw [← isTaken_namesAfter, hlast]
      exact Bool.false_ne_true
    rw [not_or, Bool.not_eq_true] at hnew
    rw [allocateAll_append, List.map_append]
    constructor
    · intro name hname
      rcases List.mem_append.1 hname with hname | hname
      · exact hfresh name hname
      · obtain rfl : name = (names.namesAfter models).nextName model := by simpa using hname
        exact hnew.1
    · refine List.nodup_append.2 ⟨hnodup, by simp, ?_⟩
      intro name hname other hother heq
      obtain rfl : other = (names.namesAfter models).nextName model := by simpa using hother
      exact hnew.2 (heq ▸ hname)

/-- Models that get file names one after the other get pairwise distinct ones. Each search ends; the
model gets its natural name exactly if no model before it got that, and otherwise the numbered name
with the smallest number from 2 on that no model before it got. A clash is reported exactly for a
model that does not get its natural name. -/
theorem allocateAll_smallest_free (suffix : String) :
    (∀ models : List String, (allocateAll { suffix } models).length = models.length ∧
      ((allocateAll { suffix } models).map (·.1)).Nodup) ∧
    ∀ (before after : List String) (model : String), ∃ name clash later,
      allocateAll { suffix } (before ++ model :: after) =
        allocateAll { suffix } before ++ (name, clash) :: later ∧
      let taken := (allocateAll { suffix } before).map (·.1)
      let stem := Text.snakeCase model
      Search (· ∈ taken) stem suffix 1 (stem ++ suffix) name ∧
        (name = stem ++ suffix ↔ stem ++ suffix ∉ taken) ∧
        (stem ++ suffix ∈ taken → ∃ number, 2 ≤ number ∧
          name = stem ++ "_" ++ toString number ++ suffix ∧ name ∉ taken ∧
          ∀ k, 2 ≤ k → k < number → stem ++ "_" ++ toString k ++ suffix ∈ taken) ∧
        (clash.isSome = true ↔ name ≠ stem ++ suffix) := by
  constructor
  · intro models
    exact ⟨length_allocateAll _ _, (allocateAll_fresh_nodup _ _).2⟩
  · intro before after model
    let names := namesAfter { suffix } before
    have hsuffix : names.suffix = suffix := suffix_namesAfter _ _
    have htaken (name : String) :
        names.isTaken name = true ↔ name ∈ (allocateAll { suffix } before).map (·.1) := by
      have hempty : isTaken { suffix } name = false := Std.ExtTreeMap.contains_empty
      rw [isTaken_namesAfter, hempty]
      simp
    have hfree : names.nextName model ∉ (allocateAll { suffix } before).map (·.1) := by
      rw [← htaken, isTaken_nextName]
      exact Bool.false_ne_true
    have hnatural : names.nextName model = Text.snakeCase model ++ suffix ↔
        Text.snakeCase model ++ suffix ∉ (allocateAll { suffix } before).map (·.1) := by
      have h := nextName_eq_natural_iff names model
      rw [hsuffix] at h
      rw [h, ← htaken, Bool.not_eq_true]
    refine ⟨names.nextName model, names.clash? model, _, allocateAll_append _ _ _, ?_, hnatural,
      ?_, ?_⟩
    · have hsearch := search_nextName names model
      rw [hsuffix] at hsearch
      simpa only [htaken] using hsearch
    · intro hmem
      rw [← htaken, ← hsuffix] at hmem
      obtain ⟨number, htwo, hname, hbefore⟩ := nextName_of_isTaken hmem
      refine ⟨number, htwo, by rw [hname, hsuffix], hfree, ?_⟩
      intro k hk hlt
      rw [← htaken, ← hsuffix]
      exact hbefore k hk hlt
    · rw [isSome_clash?_iff, hsuffix, htaken, ne_eq, hnatural, not_not]

end FileNames

end ModelFactory
