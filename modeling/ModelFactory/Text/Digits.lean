/-!
# Digits

The values of digits and the numbers that rows of digits stand for. `digitsNumber_append` says what
one more digit does.
-/

set_option autoImplicit false

namespace ModelFactory.Text

/-- The value of a decimal digit. -/
def digitValue (char : Char) : Nat := char.toNat - '0'.toNat

/-- The value of a hexadecimal digit. -/
def hexDigit? (char : Char) : Option Nat :=
  if char.isDigit then some (digitValue char)
  else if 'a' ≤ char ∧ char ≤ 'f' then some (char.toNat - 'a'.toNat + 10)
  else if 'A' ≤ char ∧ char ≤ 'F' then some (char.toNat - 'A'.toNat + 10)
  else none

/-- The number that digits to a base stand for. -/
def digitsNumber (base : Nat) (digits : List Nat) : Nat :=
  digits.foldl (fun number digit => number * base + digit) 0

/-- One more digit multiplies the number by the base and adds the digit. -/
theorem digitsNumber_append (base : Nat) (digits : List Nat) (digit : Nat) :
    digitsNumber base (digits ++ [digit]) = digitsNumber base digits * base + digit := by
  simp [digitsNumber]

/-- The number that decimal digits stand for. -/
def decimalNumber (chars : List Char) : Nat := digitsNumber 10 (chars.map digitValue)

/-- A number with zeros in front, so that it has at least so many digits. -/
def padded (width number : Nat) : List Char :=
  let digits := (toString number).toList
  List.replicate (width - digits.length) '0' ++ digits

/-- A number is written in digits only. -/
theorem notMem_toString {char : Char} (h : char.isDigit = false) (number : Nat) :
    char ∉ (toString number).toList := by
  intro hchar
  have hdigits : char ∈ Nat.toDigits 10 number := by simpa using hchar
  have hdigit := Nat.isDigit_of_mem_toDigits (by decide) (by decide) hdigits
  rw [h] at hdigit
  cases hdigit

end ModelFactory.Text
