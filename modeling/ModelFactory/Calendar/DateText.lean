import ModelFactory.Calendar.Date
import ModelFactory.Text.Digits
import ModelFactory.Unicode.Blank

/-!
# Dates as text

A date is written as year, month and day with hyphens between them. `Date.ofText` reads one and is
free about blanks: they may stand before and after each number. `Date.text` writes one, with four
digits or more for the year and two for month and day.
-/

set_option autoImplicit false

namespace ModelFactory

namespace Calendar

/-- Why a text is no date. -/
inductive DateFlaw where
  | textEnds
  | strayCharacter
  | outOfRange
  | textGoesOn
deriving DecidableEq

namespace DateFlaw

/-- The message to the user. -/
def message : DateFlaw → String
  | textEnds => "premature end of input"
  | strayCharacter => "input contains invalid characters"
  | outOfRange => "input is out of range"
  | textGoesOn => "trailing input"

end DateFlaw

/-- Reads a number of one digit up to `most` digits, if there is a limit. -/
def readDigits (most : Option Nat) (chars : List Char) : Except DateFlaw (Nat × List Char) :=
  let run := chars.takeWhile Char.isDigit
  let digits := match most with
    | some limit => run.take limit
    | none => run
  match chars, digits with
  | [], _ => .error .textEnds
  | _, [] => .error .strayCharacter
  | _, digits => .ok (Text.decimalNumber digits, chars.drop digits.length)

/-- A year has one to four digits, or a sign and any number of digits. -/
def readYear (chars : List Char) : Except DateFlaw (Int × List Char) :=
  match Unicode.trimmedStart chars with
  | '-' :: rest => (readDigits none rest).map fun (number, after) => (-(number : Int), after)
  | '+' :: rest => (readDigits none rest).map fun (number, after) => ((number : Int), after)
  | rest => (readDigits (some 4) rest).map fun (number, after) => ((number : Int), after)

/-- Months and days have one or two digits and start at 1. -/
def readPart (last : Nat) (chars : List Char) : Except DateFlaw (Nat × List Char) := do
  let (number, after) ← readDigits (some 2) (Unicode.trimmedStart chars)
  if 1 ≤ number ∧ number ≤ last then return (number, after) else throw .outOfRange

/-- The hyphen between two numbers. -/
def readHyphen (chars : List Char) : Except DateFlaw (List Char) :=
  match Unicode.trimmedStart chars with
  | '-' :: rest => .ok rest
  | [] => .error .textEnds
  | _ => .error .strayCharacter

/-- The first number that is no year of any calendar. -/
def yearBound : Nat := Nat.pow 2 31

/-- The years that are told from numbers out of any range. -/
def isYearNumber (year : Int) : Bool := -(yearBound : Int) ≤ year && year < (yearBound : Int)

end Calendar

namespace Date

open Calendar in
/-- The date that a text says. -/
def ofText (text : String) : Except DateFlaw Date := do
  let (year, rest) ← readYear text.toList
  if !isYearNumber year then throw .outOfRange
  let rest ← readHyphen rest
  let (month, rest) ← readPart 12 rest
  let rest ← readHyphen rest
  let (day, rest) ← readPart 31 rest
  if !(Unicode.trimmedStart rest).isEmpty then throw .textGoesOn
  match ofNumbers? year month day with
  | some date => return date
  | none => throw .outOfRange

/-- The text of a date. A year of more than four digits or before the year 0 has its sign. -/
def text (date : Date) : String :=
  let sign := if date.year < 0 then "-" else if date.year > 9999 then "+" else ""
  sign ++ String.ofList (Text.padded 4 date.year.natAbs ++ '-' :: Text.padded 2 date.month
    ++ '-' :: Text.padded 2 date.day)

end Date

end ModelFactory
