/-!
# Sets of code points

A `CodeSet` is a list of runs. A run holds the code points from `first` to `last` that lie a
multiple of `step` above `first`, so the alternating capitals and small letters of the Latin blocks
take one run each. `CodeSet.has_iff` states membership.
-/

set_option autoImplicit false

namespace ModelFactory.Unicode

/-- The code points `first`, `first + step`, … up to `last`. -/
structure CodeRun where
  first : Nat
  last : Nat
  step : Nat := 1
deriving DecidableEq

namespace CodeRun

/-- The code point lies in the run. -/
def has (run : CodeRun) (code : Nat) : Bool :=
  run.first ≤ code && code ≤ run.last && (code - run.first) % run.step == 0

end CodeRun

/-- A set of code points. -/
abbrev CodeSet := List CodeRun

namespace CodeSet

/-- The runs with these first and last code points, every code point between them included. -/
def ofBounds : List (Nat × Nat) → CodeSet
  | [] => []
  | (first, last) :: rest => ⟨first, last, 1⟩ :: ofBounds rest

/-- The code point lies in the set. -/
def has (set : CodeSet) (code : Nat) : Bool := set.any (·.has code)

/-- A code point lies in a set when it lies in one of the runs. -/
theorem has_iff {set : CodeSet} {code : Nat} :
    set.has code = true ↔ ∃ run ∈ set, run.has code = true := by
  simp [has]

/-- The character lies in the set. -/
def hasChar (set : CodeSet) (char : Char) : Bool := set.has char.toNat

end CodeSet

end ModelFactory.Unicode
