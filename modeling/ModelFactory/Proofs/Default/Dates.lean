import ModelFactory.Proofs.Default.Lookups

/-!
# Defaults that hold the date

The sentinel date stands in the default of a type exactly if the type is a date inside any number of
lists and no override is met on the way to it (`HoldsDate`). Every other type has the same default
under every date (`TypeDefault.redate`). A field defaults to the date if its type holds it and the
type decides (`TakesDate`); every other field has the same default under every date
(`Resolver.resolve_redate`).
-/

set_option autoImplicit false

namespace ModelFactory

/-! ## The expression of a date -/

/-- A number in decimal digits, with a minus sign below zero. -/
def plainNumber (number : Int) : String :=
  (if number < 0 then "-" else "") ++ toString number.natAbs

theorem toString_eq_plainNumber (number : Int) : toString number = plainNumber number := by
  cases number with
  | ofNat number =>
    have hnot : ¬ Int.ofNat number < 0 := by simp
    rw [plainNumber, if_neg hnot, String.empty_append]
    rfl
  | negSucc number =>
    rw [plainNumber, if_pos (Int.negSucc_lt_zero number)]
    rfl

/-- A date as an expression: year, month and day in plain numbers. -/
def plainDate (date : Date) : String :=
  "DateTime(" ++ plainNumber date.year ++ ", " ++ toString date.month ++ ", "
    ++ toString date.day ++ ")"

theorem Resolver.dateExpression_eq_plainDate (date : Date) :
    dateExpression date = plainDate date :=
  congrArg (fun year => "DateTime(" ++ year ++ ", " ++ toString date.month ++ ", "
    ++ toString date.day ++ ")") (toString_eq_plainNumber date.year)

/-! ## Types -/

/-- The type is a date inside lists, and neither it nor any of the lists is overridden. -/
structure HoldsDate (typeDefaults : OverrideTable) (type : FieldType) : Prop where
  leaf : type.leaf = .primitive .dateTime
  free : ∀ level ≤ type.depth, typeDefaults[type.renderedAt level]? = none

section Types

variable {typeDefaults : OverrideTable} {date : Date} {type element : FieldType}

/-- A list that is not overridden holds the date if its element does. -/
theorem HoldsDate.list (h : HoldsDate typeDefaults element)
    (hnone : typeDefaults[(FieldType.list element).rendered]? = none) :
    HoldsDate typeDefaults (.list element) where
  leaf := h.leaf
  free := by
    intro level hle
    rw [FieldType.depth] at hle
    rcases Nat.lt_or_eq_of_le hle with hlt | rfl
    · exact h.free level (Nat.le_of_lt_succ hlt)
    · rw [← hnone, ← FieldType.renderedAt_depth (.list element)]
      rfl

/-- A type that holds the date defaults to it, inside as many brackets as there are lists. -/
theorem HoldsDate.typeDefault (h : HoldsDate typeDefaults type) (date : Date) :
    TypeDefault typeDefaults date type (inBrackets type.depth (plainDate date)) .builtIn := by
  have hfree : ∀ level ≤ type.depth,
      typeDefaults[(FieldType.nested level (.primitive .dateTime)).rendered]? = none := by
    intro level hle
    rw [← h.leaf]
    exact h.free level hle
  have hleaf : TypeDefault typeDefaults date (.primitive .dateTime) (plainDate date) .builtIn := by
    rw [← Resolver.dateExpression_eq_plainDate]
    exact .primitive (hfree 0 (Nat.zero_le _)) .dateTime
  -- No list on the way out is overridden, so each puts its brackets around what is in it.
  have hwhole := hleaf.nested fun level hlt => hfree (level + 1) hlt
  rw [← h.leaf, FieldType.nested_depth_leaf, ite_self] at hwhole
  exact hwhole

/-- Every other type has the same default under every date. -/
theorem TypeDefault.redate {expression : String} {source : DefaultSource}
    (h : TypeDefault typeDefaults date type expression source)
    (hnot : ¬ HoldsDate typeDefaults type) (other : Date) :
    TypeDefault typeDefaults other type expression source := by
  induction h with
  | override hover => exact .override hover
  | @primitive kind literal hnone hliteral =>
    refine .primitive hnone ?_
    cases hliteral with
    | string => exact .string
    | integer => exact .integer
    | double => exact .double
    | number => exact .number
    | boolean => exact .boolean
    | dateTime =>
      -- The one literal with the date in it: the type would hold the date, without any list.
      refine absurd ⟨rfl, fun level hle => ?_⟩ hnot
      rw [Nat.le_zero.1 hle]
      exact hnone
  | firstConstant hnone => exact .firstConstant hnone
  | list hnone _ ih => exact .list hnone (ih fun hinner => hnot (hinner.list hnone))
  | noConstant hnone => exact .noConstant hnone
  | model hnone => exact .model hnone

end Types

/-! ## Fields -/

/-- The field has no override by name, is not nullable, and its type holds the date. -/
structure TakesDate (overrides : Overrides) (field : Field) : Prop extends
    overrides.LeavesToType field, HoldsDate overrides.byType field.type

namespace Resolver

variable {overrides : Overrides} {field : Field}

/-- A field that takes the date defaults to it inside the brackets of its lists. -/
theorem resolve_of_takesDate (h : TakesDate overrides field) (date : Date) :
    resolve ⟨overrides, date⟩ field =
      ⟨inBrackets field.type.depth (plainDate date), .builtIn⟩ :=
  fieldDefault_iff.1
    (.ofType h.byField h.byClass h.nullable (h.toHoldsDate.typeDefault date))

/-- Every other field has the same default under every date. -/
theorem resolve_redate (h : ¬ TakesDate overrides field) (date other : Date) :
    resolve ⟨overrides, other⟩ field = resolve ⟨overrides, date⟩ field := by
  have hdefault := fieldDefault_resolve ⟨overrides, date⟩ field
  refine fieldDefault_iff.1 (hdefault.of_typeDefault ?_)
  intro hown hclass hnullable htype
  exact htype.redate (fun hholds => h ⟨⟨hown, hclass, hnullable⟩, hholds⟩) other

/-- No field has its default from another tier under another date. -/
theorem source_resolve_redate (overrides : Overrides) (field : Field) (date other : Date) :
    (resolve ⟨overrides, other⟩ field).source = (resolve ⟨overrides, date⟩ field).source := by
  by_cases h : TakesDate overrides field
  · rw [resolve_of_takesDate h, resolve_of_takesDate h]
  · rw [resolve_redate h date other]

end Resolver

end ModelFactory
