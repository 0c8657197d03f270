/-!
# Parts of a text

`partsBetween` takes a text apart at every separator. `withSeparator_partsBetween` says that the
parts with the separator between them are the text again.
-/

set_option autoImplicit false

namespace ModelFactory.Text

/-- Puts a character in front of the first part. -/
def consFirst (char : Char) : List (List Char) → List (List Char)
  | [] => [[char]]
  | part :: rest => (char :: part) :: rest

/-- The parts between separators; there is one more than separators. -/
def partsBetween (separator : Char) : List Char → List (List Char)
  | [] => [[]]
  | char :: rest =>
    if char = separator then [] :: partsBetween separator rest
    else consFirst char (partsBetween separator rest)

/-- The parts with the separator between them. -/
def withSeparator (separator : Char) : List (List Char) → List Char
  | [] => []
  | [part] => part
  | part :: rest => part ++ separator :: withSeparator separator rest

/-- Two parts or more: the separator stands after the first. -/
theorem withSeparator_cons_cons (separator : Char) (part next : List Char)
    (rest : List (List Char)) :
    withSeparator separator (part :: next :: rest) =
      part ++ separator :: withSeparator separator (next :: rest) := rfl

theorem partsBetween_ne_nil (separator : Char) (chars : List Char) :
    partsBetween separator chars ≠ [] := by
  cases chars with
  | nil => simp [partsBetween]
  | cons char rest =>
    unfold partsBetween
    split
    · simp
    · cases partsBetween separator rest <;> simp [consFirst]

/-- Nothing is lost between the separators. -/
theorem withSeparator_partsBetween (separator : Char) (chars : List Char) :
    withSeparator separator (partsBetween separator chars) = chars := by
  induction chars with
  | nil => rfl
  | cons char rest ih =>
    unfold partsBetween
    cases h : partsBetween separator rest with
    | nil => exact absurd h (partsBetween_ne_nil separator rest)
    | cons part parts =>
      rw [h] at ih
      split
      · rename_i hc
        simp [withSeparator, ih, hc]
      · cases parts <;> simp_all [withSeparator, consFirst]

end ModelFactory.Text
