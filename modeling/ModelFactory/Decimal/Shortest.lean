/-!
# Shortest decimals

`Decimal.shortest` gives the decimal with the fewest digits that rounds to a given binary64 number,
and of those with as many digits the nearest. The number is taken apart into `significand · 2 ^
power`, and the decimals that round to it are those between the midpoints to its neighbours, the
midpoints included when the significand is even. All comparisons are exact.

On the grid of decimals with so many digits, if any point lies between the midpoints, then one of
the two grid points next to the number does; so only these two are tried.
-/

set_option autoImplicit false

namespace ModelFactory

/-- A decimal without sign: the digits times a power of ten. -/
structure Decimal where
  digits : Nat
  exponent : Int
deriving DecidableEq

namespace Decimal

/-- A positive rational number as a quotient. -/
structure Ratio where
  numerator : Nat
  denominator : Nat

/-- `number · 2 ^ power`. -/
def Ratio.binary (number : Nat) (power : Int) : Ratio :=
  if power ≥ 0 then ⟨number * Nat.pow 2 power.natAbs, 1⟩
  else ⟨number, Nat.pow 2 power.natAbs⟩

/-- `number · 10 ^ exponent`. -/
def Ratio.decimal (number : Nat) (exponent : Int) : Ratio :=
  if exponent ≥ 0 then ⟨number * Nat.pow 10 exponent.natAbs, 1⟩
  else ⟨number, Nat.pow 10 exponent.natAbs⟩

/-- The order of two quotients. -/
def Ratio.lt (a b : Ratio) : Bool := a.numerator * b.denominator < b.numerator * a.denominator

/-- The numbers that round to one binary64 number. -/
structure Interval where
  value : Ratio
  low : Ratio
  high : Ratio
  /-- The ends round to the number, too. -/
  closed : Bool

/-- The numbers that round to `significand · 2 ^ power`. Below a power of two the neighbour is half
as far away. -/
def Interval.ofBinary (significand : Nat) (power : Int) (atPowerOfTwo : Bool) : Interval where
  value := .binary (significand * 4) (power - 2)
  low := .binary (significand * 4 - (if atPowerOfTwo then 1 else 2)) (power - 2)
  high := .binary (significand * 4 + 2) (power - 2)
  closed := significand % 2 == 0

/-- The decimal rounds to the number. -/
def Interval.has (interval : Interval) (number : Ratio) : Bool :=
  if interval.closed then !number.lt interval.low && !interval.high.lt number
  else interval.low.lt number && number.lt interval.high

/-- The largest power of ten that is no larger than the number, searched downwards. -/
def leadingExponent (value : Ratio) : (fuel : Nat) → Int → Int
  | 0, exponent => exponent
  | fuel + 1, exponent =>
    if value.lt (.decimal 1 exponent) then leadingExponent value fuel (exponent - 1) else exponent

/-- The neighbours of the number on the grid of the multiples of `10 ^ exponent`, the one below or
at the number first. -/
def gridNeighbours (value : Ratio) (exponent : Int) : Nat × Nat :=
  let floor :=
    if exponent ≥ 0 then value.numerator / (value.denominator * Nat.pow 10 exponent.natAbs)
    else value.numerator * Nat.pow 10 exponent.natAbs / value.denominator
  (floor, floor + 1)

/-- The one of two grid points that is nearer to the number; of equally near ones the even. -/
def nearer (value : Ratio) (exponent : Int) (below above : Nat) : Nat :=
  let middle := Ratio.decimal (below * 10 + 5) (exponent - 1)
  if value.lt middle then below
  else if middle.lt value then above
  else if below % 2 = 0 then below else above

/-- The first grid with a point that rounds to the number. -/
def onGrids (interval : Interval) (leading : Int) : (fuel digits : Nat) → Decimal
  | 0, digits =>
    let exponent := leading - (digits : Int)
    ⟨(gridNeighbours interval.value exponent).1, exponent⟩
  | fuel + 1, digits =>
    let exponent := leading - (digits : Int)
    let (below, above) := gridNeighbours interval.value exponent
    let hasBelow := interval.has (.decimal below exponent)
    let hasAbove := interval.has (.decimal above exponent)
    if hasBelow && hasAbove then ⟨nearer interval.value exponent below above, exponent⟩
    else if hasBelow then ⟨below, exponent⟩
    else if hasAbove then ⟨above, exponent⟩
    else onGrids interval leading fuel (digits + 1)

/-- No trailing zero among the digits. -/
def trimmed : (fuel : Nat) → Decimal → Decimal
  | 0, decimal => decimal
  | fuel + 1, decimal =>
    if decimal.digits ≠ 0 ∧ decimal.digits % 10 = 0 then
      trimmed fuel ⟨decimal.digits / 10, decimal.exponent + 1⟩
    else decimal

/-- The shortest decimal of a positive number `significand · 2 ^ power`. -/
def shortest (significand : Nat) (power : Int) (atPowerOfTwo : Bool) : Decimal :=
  let interval := Interval.ofBinary significand power atPowerOfTwo
  trimmed 20 (onGrids interval (leadingExponent interval.value 700 310) 17 0)

/-- The significand and the power of two of the magnitude of a finite binary64 number, and whether
the neighbour below is half as far away as the one above. -/
def binaryParts (number : Float) : Nat × Int × Bool :=
  let bits : Nat := number.toBits.toNat
  let exponent : Nat := bits / Nat.pow 2 52 % Nat.pow 2 11
  let fraction : Nat := bits % Nat.pow 2 52
  if exponent = 0 then (fraction, (-1074 : Int), false)
  else (fraction + Nat.pow 2 52, (exponent : Int) - 1075, fraction == 0 && exponent > 1)

/-- The shortest decimal of the magnitude of a finite binary64 number; zero has no digit. -/
def ofFloat (number : Float) : Decimal :=
  let (significand, power, atPowerOfTwo) := binaryParts number
  if significand = 0 then ⟨0, 0⟩ else shortest significand power atPowerOfTwo

end Decimal

end ModelFactory
