import ModelFactory.Toml.Value
import ModelFactory.Toml.StringText

/-!
# TOML numbers

An integer is decimal, hexadecimal, octal or binary and has to fit 64 bits. A number with a fraction
or an exponent is a binary64 number, rounded exactly; one that rounds to positive infinity is
refused. A single underscore may stand between two digits.
-/

set_option autoImplicit false

namespace ModelFactory.Toml

/-- A digit to a base. -/
structure Base where
  size : Nat
  digit? : Char → Option Nat

namespace Base

/-- The digit with a value below a bound. -/
def below (bound : Nat) (char : Char) : Option Nat := (Text.hexDigit? char).filter (· < bound)

/-- Base ten. -/
def decimal : Base := ⟨10, below 10⟩

/-- The base that a letter after a zero announces. -/
def ofLetter? : Char → Option Base
  | 'x' => some ⟨16, below 16⟩
  | 'o' => some ⟨8, below 8⟩
  | 'b' => some ⟨2, below 2⟩
  | _ => none

end Base

/-- The digits in front of a text, with single underscores between them, and the rest. After an
underscore has to be a digit. -/
def takeDigits (base : Base) : List Char → Option (List Nat × List Char)
  | '_' :: char :: rest =>
    match base.digit? char with
    | some digit => (takeDigits base rest).map fun (digits, after) => (digit :: digits, after)
    | none => none
  | ['_'] => none
  | char :: rest =>
    match base.digit? char with
    | some digit => (takeDigits base rest).map fun (digits, after) => (digit :: digits, after)
    | none => some ([], char :: rest)
  | [] => some ([], [])

/-- One digit or more. -/
def readDigits (base : Base) : List Char → Option (List Nat × List Char)
  | '_' :: _ => none
  | chars => (takeDigits base chars).filter fun (digits, _) => !digits.isEmpty

/-- The sign in front of a number: whether it is negative, and the rest. -/
def takeSign : List Char → Bool × List Char
  | '-' :: rest => (true, rest)
  | '+' :: rest => (false, rest)
  | chars => (false, chars)

/-- The digits before the point of a decimal number: a zero stands alone. -/
def readWhole : List Char → Option (List Nat × List Char)
  | '0' :: rest => some ([0], rest)
  | chars => readDigits .decimal chars

/-- The first number that is too large for an integer of 64 bits. -/
def integerBound : Nat := Nat.pow 2 63

/-- An integer of 64 bits. -/
def integer? (number : Int) : Option Value :=
  if -(integerBound : Int) ≤ number ∧ number < (integerBound : Int) then some (.integer number)
  else none

/-- A decimal number rounded to binary64. The place of its first digit tells numbers that are beyond
every finite one, or nearer to zero than any other. -/
def rounded (digits : Nat) (exponent : Int) : Float :=
  let place : Int := (toString digits).length + exponent
  if digits = 0 ∨ place < -400 then 0.0
  else if place > 400 then 1.0 / 0.0
  else Float.ofScientific digits (exponent < 0) exponent.natAbs

/-- A decimal number rounded to binary64, unless that gives positive infinity. -/
def binary? (negative : Bool) (digits : Nat) (exponent : Int) : Option Value :=
  let magnitude := rounded digits exponent
  if magnitude.isInf && !negative then none
  else some (.binary (if negative then -magnitude else magnitude))

/-- The exponent of a decimal number, if there is one. -/
def readExponent (chars : List Char) : Option (Option Int × List Char) :=
  match chars with
  | mark :: rest =>
    if mark = 'e' ∨ mark = 'E' then
      let (negative, rest) := takeSign rest
      (readDigits .decimal rest).map fun (digits, after) =>
        let exponent : Int := Text.digitsNumber 10 digits
        (some (if negative then -exponent else exponent), after)
    else some (none, chars)
  | [] => some (none, [])

/-- The fraction of a decimal number, if there is one. -/
def readFraction : List Char → Option (Option (List Nat) × List Char)
  | '.' :: rest => (readDigits .decimal rest).map fun (digits, after) => (some digits, after)
  | chars => some (none, chars)

/-- Reads a decimal number. -/
def readDecimal (chars : List Char) : Option (Value × List Char) := do
  let (negative, chars) := takeSign chars
  let (whole, chars) ← readWhole chars
  let (fraction, chars) ← readFraction chars
  let (exponent, chars) ← readExponent chars
  let value ←
    if fraction.isNone && exponent.isNone then
      let magnitude : Int := Text.digitsNumber 10 whole
      integer? (if negative then -magnitude else magnitude)
    else
      let places := fraction.getD []
      binary? negative (Text.digitsNumber 10 (whole ++ places))
        (exponent.getD 0 - (places.length : Int))
  return (value, chars)

/-- The words of the numbers that have no digits. -/
def specialNumber? : List Char → Option (Float × List Char)
  | 'i' :: 'n' :: 'f' :: rest => some (1.0 / 0.0, rest)
  | 'n' :: 'a' :: 'n' :: rest => some (0.0 / 0.0, rest)
  | _ => none

/-- Reads a number. -/
def readNumber (chars : List Char) : Option (Value × List Char) :=
  let (negative, unsigned) := takeSign chars
  match specialNumber? unsigned with
  | some (number, rest) => some (.binary (if negative then -number else number), rest)
  | none =>
    match chars with
    | '0' :: letter :: rest =>
      match Base.ofLetter? letter with
      | some base => do
        let (digits, after) ← readDigits base rest
        return (← integer? (Text.digitsNumber base.size digits), after)
      | none => readDecimal chars
    | _ => readDecimal chars

end ModelFactory.Toml
