import ModelFactory.Unicode.Casing

/-!
# Snake case

A name in snake case is made in three steps: a blank, a hyphen or an underscore becomes an
underscore, an underscore is set between a small letter and the capital right after it, and every
character is replaced by its small letters. Nothing is collapsed or cut off, and a row of capitals
stays together.
-/

set_option autoImplicit false

namespace ModelFactory.Text

/-- Blanks and hyphens become underscores. -/
def unifySeparator (char : Char) : Char :=
  if char = ' ' ∨ char = '-' then '_' else char

/-- An underscore between a small letter and the capital right after it. -/
def separateHumps : List Char → List Char
  | first :: second :: rest =>
    if Unicode.isLowercase first && Unicode.isUppercase second then
      first :: '_' :: separateHumps (second :: rest)
    else first :: separateHumps (second :: rest)
  | chars => chars

/-- The name in snake case. -/
def snakeCase (name : String) : String :=
  String.ofList ((separateHumps (name.toList.map unifySeparator)).flatMap Unicode.smallLetters)

/-- Dropping the underscores, setting humps apart changes nothing. -/
theorem filter_separateHumps (chars : List Char) :
    (separateHumps chars).filter (· != '_') = chars.filter (· != '_') := by
  fun_induction separateHumps chars with
  | case1 first second rest h ih => simp_all [List.filter_cons]
  | case2 first second rest h ih => simp_all [List.filter_cons]
  | case3 => rfl

end ModelFactory.Text
