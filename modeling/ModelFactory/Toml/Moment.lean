import ModelFactory.Calendar.Date
import ModelFactory.Text.Digits

/-!
# TOML dates and times

A moment is a date, a time of day, or both with or without an offset. `readMoment` reads one and
gives the text in its standard form: a capital `T` between date and time, at most nine digits of a
fraction without zeros at its end, and a capital `Z` for the offset zero if it is written so.
-/

set_option autoImplicit false

namespace ModelFactory.Toml

open Text (padded)

/-- Reads a number of exactly so many digits. -/
def readFixed (count : Nat) (chars : List Char) : Option (Nat × List Char) :=
  let digits := chars.take count
  if digits.length = count ∧ digits.all Char.isDigit then
    some (Text.decimalNumber digits, chars.drop count)
  else none

/-- Reads a number of two digits between two bounds. -/
def readTwo (low high : Nat) (chars : List Char) : Option (Nat × List Char) :=
  (readFixed 2 chars).filter fun (number, _) => low ≤ number && number ≤ high

/-- Reads one character. -/
def readMark (mark : Char) : List Char → Option (List Char)
  | char :: rest => if char = mark then some rest else none
  | [] => none

/-- Reads a day of the calendar. -/
def readDay (chars : List Char) : Option (List Char × List Char) := do
  let (year, chars) ← readFixed 4 chars
  let chars ← readMark '-' chars
  let (month, chars) ← readTwo 1 12 chars
  let chars ← readMark '-' chars
  let (day, chars) ← readTwo 1 (Calendar.daysInMonth year month) chars
  return (padded 4 year ++ '-' :: padded 2 month ++ '-' :: padded 2 day, chars)

/-- The largest number of digits of a fraction of a second. -/
def finestFraction : Nat := 9

/-- Reads the fraction of a second, if there is one. -/
def readSecondFraction (chars : List Char) : Option (List Char × List Char) :=
  match chars with
  | '.' :: rest =>
    let digits := rest.takeWhile Char.isDigit
    if digits.isEmpty then none
    else
      let shown := ((digits.take finestFraction).reverse.dropWhile (· == '0')).reverse
      some (if shown.isEmpty then [] else '.' :: shown, rest.dropWhile Char.isDigit)
  | _ => some ([], chars)

/-- Reads a time of day. A minute may have a leap second. -/
def readTime (chars : List Char) : Option (List Char × List Char) := do
  let (hour, chars) ← readTwo 0 23 chars
  let chars ← readMark ':' chars
  let (minute, chars) ← readTwo 0 59 chars
  let chars ← readMark ':' chars
  let (second, chars) ← readTwo 0 60 chars
  let (fraction, chars) ← readSecondFraction chars
  return (padded 2 hour ++ ':' :: padded 2 minute ++ ':' :: padded 2 second ++ fraction, chars)

/-- Reads an offset, if there is one. The offset zero has no minus. -/
def readOffset (chars : List Char) : Option (List Char × List Char) :=
  match chars with
  | [] => some ([], [])
  | mark :: rest =>
    if mark = 'Z' ∨ mark = 'z' then some (['Z'], rest)
    else if mark = '+' ∨ mark = '-' then do
      let (hour, rest) ← readTwo 0 23 rest
      let rest ← readMark ':' rest
      let (minute, rest) ← readTwo 0 59 rest
      let sign := if mark = '-' ∧ 0 < hour + minute then '-' else '+'
      return (sign :: padded 2 hour ++ ':' :: padded 2 minute, rest)
    else some ([], chars)

/-- Reads a time and an offset after a date, if they are there. A blank that no time follows stays
where it is. -/
def readTimeAfterDay (chars : List Char) : Option (List Char × List Char) :=
  match chars with
  | mark :: rest =>
    if mark = 'T' ∨ mark = 't' ∨ mark = ' ' then
      match readTime rest with
      | some (time, after) => do
        let (offset, after) ← readOffset after
        return ('T' :: time ++ offset, after)
      | none => some ([], chars)
    else some ([], chars)
  | [] => some ([], [])

/-- Reads a moment. -/
def readMoment (chars : List Char) : Option (String × List Char) :=
  match readDay chars with
  | some (day, rest) => do
    let (time, after) ← readTimeAfterDay rest
    return (.ofList (day ++ time), after)
  | none => (readTime chars).map fun (time, after) => (.ofList time, after)

end ModelFactory.Toml
