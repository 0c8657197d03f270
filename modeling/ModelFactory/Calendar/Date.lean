/-!
# Calendar dates

A `Date` is a day of the proleptic Gregorian calendar between the years `Date.minYear` and
`Date.maxYear`. A value exists only for days that exist: the bounds are a proof field.
-/

set_option autoImplicit false

namespace ModelFactory

namespace Calendar

/-- A year is leap when 4 divides it, except the centuries that 400 does not divide. -/
def isLeapYear (year : Int) : Bool :=
  year % 4 == 0 && (year % 100 != 0 || year % 400 == 0)

/-- The number of days of a month; no month outside 1 to 12 has a day. -/
def daysInMonth (year : Int) : Nat → Nat
  | 1 | 3 | 5 | 7 | 8 | 10 | 12 => 31
  | 4 | 6 | 9 | 11 => 30
  | 2 => if isLeapYear year then 29 else 28
  | _ => 0

end Calendar

/-- The first year with dates. -/
def Date.minYear : Int := -262143

/-- The last year with dates. -/
def Date.maxYear : Int := 262142

/-- The day exists: its year is in range and its month has that many days. -/
def Date.Exists (year : Int) (month day : Nat) : Prop :=
  Date.minYear ≤ year ∧ year ≤ Date.maxYear ∧ 1 ≤ day ∧ day ≤ Calendar.daysInMonth year month

instance (year : Int) (month day : Nat) : Decidable (Date.Exists year month day) := by
  unfold Date.Exists; infer_instance

/-- A day of the calendar. -/
structure Date where
  year : Int
  month : Nat
  day : Nat
  isDay : Date.Exists year month day
deriving DecidableEq

namespace Date

/-- The day with these numbers, if there is one. -/
def ofNumbers? (year : Int) (month day : Nat) : Option Date :=
  if h : Date.Exists year month day then some ⟨year, month, day, h⟩ else none

/-- The first of January 2000. -/
def millennium : Date := ⟨2000, 1, 1, by decide⟩

/-- Numbers of an existing day are read back as they are. -/
theorem ofNumbers?_eq_some_iff {year : Int} {month day : Nat} {date : Date} :
    ofNumbers? year month day = some date ↔
      date.year = year ∧ date.month = month ∧ date.day = day := by
  unfold ofNumbers?
  constructor
  · intro h
    split at h
    · cases h; exact ⟨rfl, rfl, rfl⟩
    · cases h
  · rintro ⟨rfl, rfl, rfl⟩
    simp [date.isDay]

end Date

end ModelFactory
