import ModelFactory.Decimal.Shortest

/-!
# Decimals as text

A `Style` says where positional notation ends. Every text has a point or an exponent: an integral
number in positional notation ends in `.0`.
-/

set_option autoImplicit false

namespace ModelFactory.Decimal

/-- How a number is written. -/
structure Style where
  /-- The largest number of digits before the point, if there is a limit. -/
  longestWhole : Option Nat
  /-- The largest number of zeros right after the point, if there is a limit. -/
  longestLeadingZeros : Option Nat
deriving DecidableEq

/-- An exponent with its sign. -/
def exponentText (exponent : Int) : String :=
  if exponent < 0 then toString exponent else "+" ++ toString exponent

/-- Always positional. -/
def Style.positional : Style := ⟨none, none⟩

/-- Positional from 10⁻⁵ up to 10¹⁶. -/
def Style.compact : Style := ⟨some 16, some 4⟩

/-- A digit count is within a limit. -/
def within (count : Int) : Option Nat → Bool
  | some limit => count ≤ limit
  | none => true

/-- So many zeros. -/
def zeros (count : Nat) : String := String.ofList (List.replicate count '0')

/-- The text of a decimal that is not zero. -/
def text (style : Style) (decimal : Decimal) : String :=
  let digits := (toString decimal.digits).toList
  let point : Int := digits.length + decimal.exponent
  if 0 ≤ decimal.exponent && within point style.longestWhole then
    String.ofList digits ++ zeros decimal.exponent.natAbs ++ ".0"
  else if 0 < point && within point style.longestWhole then
    String.ofList (digits.take point.natAbs) ++ "." ++ String.ofList (digits.drop point.natAbs)
  else if point ≤ 0 && within (-point) style.longestLeadingZeros then
    "0." ++ zeros point.natAbs ++ String.ofList digits
  else
    match digits with
    | [digit] => String.ofList [digit] ++ "e" ++ exponentText (point - 1)
    | digit :: rest =>
      String.ofList [digit] ++ "." ++ String.ofList rest ++ "e" ++ exponentText (point - 1)
    | [] => ""

/-- The text of a binary64 number. -/
def floatText (style : Style) (number : Float) : String :=
  if number.isNaN then "NaN"
  else
    let sign := if number.toBits.toNat / Nat.pow 2 63 = 1 then "-" else ""
    if number.isInf then sign ++ "inf"
    else
      let decimal := ofFloat number
      sign ++ if decimal.digits = 0 then "0.0" else text style decimal

end ModelFactory.Decimal
