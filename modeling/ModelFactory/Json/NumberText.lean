import ModelFactory.Json.Flaw
import ModelFactory.Text.Digits

/-!
# Numbers as they are written

A `NumberText` keeps a number as the digits it is written with. `NumberText.read` takes the longest
number in front of a text. `NumberText.value` says what the digits stand for: an integer of 64 bits
if it has no fraction, no exponent and fits, otherwise a binary64 number, which may be out of range.

The binary64 number is made from the digits that fit 64 bits, scaled by powers of ten in binary64
arithmetic, and not by exact rounding.
-/

set_option autoImplicit false

namespace ModelFactory.Json

/-- A number as it is written. -/
structure NumberText where
  negative : Bool
  whole : List Nat
  /-- The digits after the point; without a point there are none. -/
  fraction : List Nat := []
  /-- The sign and the digits of the exponent. -/
  exponent : Option (Bool × List Nat) := none
deriving DecidableEq

/-- What a number stands for. -/
inductive NumberValue where
  | integer (value : Int)
  | binary (value : Float)
  | outOfRange

namespace NumberText

/-! ## Reading -/

/-- The digits in front of a text, and the rest. -/
def takeDigits (chars : List Char) : List Nat × List Char :=
  ((chars.takeWhile Char.isDigit).map Text.digitValue, chars.dropWhile Char.isDigit)

/-- Digits that have to be there: `none` if the text ends instead. -/
def readDigits (chars : List Char) : Except Flaw (List Nat × List Char) :=
  match chars, takeDigits chars with
  | [], _ => .error .endInValue
  | _, ([], _) => .error .invalidNumber
  | _, digits => .ok digits

/-- The digits before the point: a zero stands alone. -/
def readWhole (chars : List Char) : Except Flaw (List Nat × List Char) :=
  match chars with
  | '0' :: rest =>
    match rest with
    | next :: _ => if next.isDigit then .error .invalidNumber else .ok ([0], rest)
    | [] => .ok ([0], rest)
  | _ => readDigits chars

/-- The point and the digits after it, if there is a point. -/
def readFraction (chars : List Char) : Except Flaw (List Nat × List Char) :=
  match chars with
  | '.' :: rest => readDigits rest
  | _ => .ok ([], chars)

/-- The exponent, if there is one. -/
def readExponent (chars : List Char) : Except Flaw (Option (Bool × List Nat) × List Char) :=
  match chars with
  | mark :: rest =>
    if mark = 'e' ∨ mark = 'E' then
      let (negative, digits) :=
        match rest with
        | '-' :: digits => (true, digits)
        | '+' :: digits => (false, digits)
        | digits => (false, digits)
      (readDigits digits).map fun (exponent, after) => (some (negative, exponent), after)
    else .ok (none, chars)
  | [] => .ok (none, chars)

/-- Reads a number, with what stands after it. -/
def read (chars : List Char) : Except Flaw (NumberText × List Char) := do
  let (negative, chars) :=
    match chars with
    | '-' :: rest => (true, rest)
    | _ => (false, chars)
  let (whole, chars) ← readWhole chars
  let (fraction, chars) ← readFraction chars
  let (exponent, chars) ← readExponent chars
  return (⟨negative, whole, fraction, exponent⟩, chars)

/-! ## Value -/

/-- The digits taken so far, without those that no longer fit 64 bits. -/
structure Significand where
  digits : Nat := 0
  /-- The power of ten that the digits are multiplied by. -/
  power : Int := 0
  /-- No more digits of the fraction are taken. -/
  full : Bool := false

/-- The largest significand. -/
def Significand.limit : Nat := Nat.pow 2 64 - 1

/-- One more digit before the point. The first that does not fit and all after it only count. -/
def Significand.pushWhole (significand : Significand) (digit : Nat) : Significand :=
  if significand.full || significand.digits * 10 + digit > limit then
    { significand with power := significand.power + 1, full := true }
  else { significand with digits := significand.digits * 10 + digit }

/-- One more digit after the point. The first that does not fit and all after it are dropped. -/
def Significand.pushFraction (significand : Significand) (digit : Nat) : Significand :=
  if significand.full || significand.digits * 10 + digit > limit then
    { significand with full := true }
  else
    { significand with
      digits := significand.digits * 10 + digit, power := significand.power - 1 }

/-- The significand of a number. -/
def significand (text : NumberText) : Significand :=
  let whole := text.whole.foldl Significand.pushWhole {}
  text.fraction.foldl Significand.pushFraction { whole with full := false }

/-- The largest exponent that is scaled by one power of ten. -/
def largestPower : Nat := 308

/-- A binary64 number scaled by a power of ten: `none` if it is out of range. A small power is
reached by several divisions, at most `steps` of them before the number is zero. -/
def scale : (steps : Nat) → Float → Int → Option Float
  | 0, number, _ => some number
  | steps + 1, number, power =>
    if power.natAbs ≤ largestPower then
      let factor := Float.ofScientific 1 false power.natAbs
      if power ≥ 0 then
        let scaled := number * factor
        if scaled.isInf then none else some scaled
      else some (number / factor)
    else if number == 0.0 then some number
    else if power ≥ 0 then none
    else
      scale steps (number / Float.ofScientific 1 false largestPower) (power + (largestPower : Int))

/-- The largest exponent that is read to its end. -/
def exponentLimit : Nat := Nat.pow 2 31 - 1

/-- The number that a sign, a significand and an exponent stand for. -/
def binaryValue (text : NumberText) : NumberValue :=
  let significand := text.significand
  let signed (number : Float) : NumberValue := .binary (if text.negative then -number else number)
  let (negativeExponent, exponent) :=
    match text.exponent with
    | some (negative, digits) => (negative, Text.digitsNumber 10 digits)
    | none => (false, 0)
  if exponent > exponentLimit then
    if significand.digits = 0 || negativeExponent then signed 0.0 else .outOfRange
  else
    let power := significand.power + (if negativeExponent then -(exponent : Int) else exponent)
    match scale 8 (UInt64.ofNat significand.digits).toFloat power with
    | some number => signed number
    | none => .outOfRange

/-- What the number stands for. -/
def value (text : NumberText) : NumberValue :=
  if text.fraction.isEmpty && text.exponent.isNone then
    let magnitude := Text.digitsNumber 10 text.whole
    if text.negative then
      if 0 < magnitude && magnitude ≤ Nat.pow 2 63 then .integer (-(magnitude : Int))
      else text.binaryValue
    else if magnitude ≤ Significand.limit then .integer magnitude
    else text.binaryValue
  else text.binaryValue

end NumberText

end ModelFactory.Json
