import Std.Data.ExtTreeMap
import ModelFactory.Text.SnakeCase

/-!
# File names of one run

`FileNames` holds the names handed out so far and the model that got each. `FileNames.allocate`
gives a model its natural name, the name in snake case with the suffix, unless that name is gone;
then the smallest number from 2 on gives the first name that is free. Every name handed out counts
as taken, numbered or not.

The search is `firstFree`, bounded by the number of names taken. Every candidate before what it
finds is taken (`taken_of_lt_firstFree`), and if the search did not run out the answer is free
(`firstFree_free`).
-/

set_option autoImplicit false

namespace ModelFactory

/-! ## The first free candidate -/

/-- The first candidate from `number` on that is not taken. The search passes over at most `fuel`
candidates. -/
def firstFree (taken : Nat → Bool) : (fuel number : Nat) → Nat
  | 0, number => number
  | fuel + 1, number => if taken number then firstFree taken fuel (number + 1) else number

/-- The search never goes back. -/
theorem le_firstFree (taken : Nat → Bool) (fuel number : Nat) :
    number ≤ firstFree taken fuel number := by
  induction fuel generalizing number with
  | zero => exact Nat.le_refl _
  | succ fuel ih =>
    unfold firstFree
    split
    · exact Nat.le_trans (Nat.le_succ _) (ih _)
    · exact Nat.le_refl _

/-- Every candidate that the search passed over is taken. -/
theorem taken_of_lt_firstFree {taken : Nat → Bool} {fuel number k : Nat} (hk : number ≤ k)
    (h : k < firstFree taken fuel number) : taken k = true := by
  induction fuel generalizing number with
  | zero => simp only [firstFree] at h; omega
  | succ fuel ih =>
    unfold firstFree at h
    split at h
    · rename_i ht
      by_cases hkn : k = number
      · exact hkn ▸ ht
      · exact ih (by omega) h
    · omega

/-- A search that did not use up its fuel ended on a free candidate. -/
theorem firstFree_free {taken : Nat → Bool} {fuel number : Nat}
    (h : firstFree taken fuel number < number + fuel) :
    taken (firstFree taken fuel number) = false := by
  induction fuel generalizing number with
  | zero => simp [firstFree] at h
  | succ fuel ih =>
    unfold firstFree at h ⊢
    split
    · rename_i ht
      simp only [ht, if_true] at h
      exact ih (by omega)
    · simp_all

/-! ## Allocation -/

/-- Two models with one natural file name. -/
structure NameClash where
  model : String
  /-- The model that holds the natural name. -/
  owner : String
  natural : String
  /-- The name given instead. -/
  assigned : String
deriving DecidableEq

/-- The warning to the user. -/
def NameClash.message (clash : NameClash) : String :=
  "`" ++ clash.model ++ "` and `" ++ clash.owner ++ "` both map to `" ++ clash.natural
    ++ "`; writing `" ++ clash.assigned ++ "` instead"

/-- The names handed out so far. -/
structure FileNames where
  suffix : String
  /-- The model that got a name. -/
  owners : Std.ExtTreeMap String String := ∅

namespace FileNames

/-- The candidates for a stem: its natural name as number 1, then the numbered ones. -/
def candidate (suffix stem : String) (number : Nat) : String :=
  if number ≤ 1 then stem ++ suffix else stem ++ "_" ++ toString number ++ suffix

/-- The name that a model gets when no other model holds it. -/
def naturalName (suffix model : String) : String := candidate suffix (Text.snakeCase model) 1

/-- The name has been handed out. -/
def isTaken (names : FileNames) (name : String) : Bool := names.owners.contains name

/-- The name that a model gets now. -/
def nextName (names : FileNames) (model : String) : String :=
  let stem := Text.snakeCase model
  candidate names.suffix stem
    (firstFree (fun number => names.isTaken (candidate names.suffix stem number))
      names.owners.size 1)

/-- The clash that the model's natural name meets now, if it is taken. -/
def clash? (names : FileNames) (model : String) : Option NameClash :=
  let natural := naturalName names.suffix model
  (names.owners[natural]?).map fun owner => ⟨model, owner, natural, names.nextName model⟩

/-- A file name for a model, with the clash it went around and the names taken from now on. -/
def allocate (names : FileNames) (model : String) : String × Option NameClash × FileNames :=
  let name := names.nextName model
  (name, names.clash? model, { names with owners := names.owners.insert name model })

/-- Allocation for one model after the other. -/
def allocateAll : FileNames → List String → List (String × Option NameClash)
  | _, [] => []
  | names, model :: rest =>
    let (name, clash, after) := names.allocate model
    (name, clash) :: allocateAll after rest

end FileNames

end ModelFactory
