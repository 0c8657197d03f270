import ModelFactory.Default.Resolver

/-!
# The priority order as a relation

`FieldDefault` says which expression a field defaults to and which tier gives it, from what is given
under the field's name, its nullability and its type. `TypeDefault` is its part for a type alone:
the default of a list is made from the default of its element, so a derivation follows the lists
inward up to the first type that is overridden or is no list.

The relation gives every field exactly one default (`FieldDefault.unique`), the one that the
resolver finds (`fieldDefault_iff`).
-/

set_option autoImplicit false

namespace ModelFactory

/-! ## The relation -/

/-- The literals that stand for the primitives. -/
inductive PrimitiveLiteral (date : Date) : Primitive → String → Prop
  | string : PrimitiveLiteral date .string "''"
  | integer : PrimitiveLiteral date .integer "0"
  | double : PrimitiveLiteral date .double "0.0"
  | number : PrimitiveLiteral date .number "0"
  | boolean : PrimitiveLiteral date .boolean "false"
  | dateTime : PrimitiveLiteral date .dateTime
      ("DateTime(" ++ toString date.year ++ ", " ++ toString date.month ++ ", "
        ++ toString date.day ++ ")")

/-- The default of a type and the tier that gives it, where nothing is given under a name: the
override of the rendered type, then what is built in, then the factory of the named model. -/
inductive TypeDefault (typeDefaults : OverrideTable) (date : Date) :
    FieldType → String → DefaultSource → Prop
  | override {type : FieldType} {expression : String} :
      typeDefaults[type.rendered]? = some expression →
      TypeDefault typeDefaults date type expression .typeOverride
  | primitive {kind : Primitive} {literal : String} :
      typeDefaults[kind.rendered]? = none → PrimitiveLiteral date kind literal →
      TypeDefault typeDefaults date (.primitive kind) literal .builtIn
  | firstConstant {name first : String} {others : List String} :
      typeDefaults[name]? = none →
      TypeDefault typeDefaults date (.enumeration name (first :: others)) (name ++ "." ++ first)
        .builtIn
  | list {element : FieldType} {expression : String} {source : DefaultSource} :
      typeDefaults["List<" ++ element.rendered ++ ">"]? = none →
      TypeDefault typeDefaults date element expression source →
      TypeDefault typeDefaults date (.list element) ("[" ++ expression ++ "]") .builtIn
  | noConstant {name : String} :
      typeDefaults[name]? = none →
      TypeDefault typeDefaults date (.enumeration name []) (name ++ "Factory.build()")
        .nestedFactory
  | model {name : String} :
      typeDefaults[name]? = none →
      TypeDefault typeDefaults date (.model name) (name ++ "Factory.build()") .nestedFactory

/-- The default of a field and the tier that gives it, where `own` is what is given at the field and
`ofClass` what its class gives under its name. -/
inductive FieldDefault (typeDefaults : OverrideTable) (date : Date) (own ofClass : Option String)
    (nullable : Bool) (type : FieldType) : String → DefaultSource → Prop
  | own {expression : String} :
      own = some expression →
      FieldDefault typeDefaults date own ofClass nullable type expression .fieldOverride
  | ofClass {expression : String} :
      own = none → ofClass = some expression →
      FieldDefault typeDefaults date own ofClass nullable type expression .classOverride
  | null :
      own = none → ofClass = none → nullable = true →
      FieldDefault typeDefaults date own ofClass nullable type "null" .nullable
  | ofType {expression : String} {source : DefaultSource} :
      own = none → ofClass = none → nullable = false →
      TypeDefault typeDefaults date type expression source →
      FieldDefault typeDefaults date own ofClass nullable type expression source

/-! ## At most one default -/

section Unique

variable {typeDefaults : OverrideTable} {date : Date}

theorem PrimitiveLiteral.unique {kind : Primitive} {literal other : String}
    (h : PrimitiveLiteral date kind literal) (h' : PrimitiveLiteral date kind other) :
    literal = other := by
  cases h <;> cases h' <;> rfl

/-- A type has at most one default. -/
theorem TypeDefault.unique {type : FieldType} {expression other : String}
    {source tier : DefaultSource} (h : TypeDefault typeDefaults date type expression source)
    (h' : TypeDefault typeDefaults date type other tier) : expression = other ∧ source = tier := by
  -- On the first derivation; only the rule for lists asks for another default.
  induction h generalizing other tier with
  | @override type expression hover =>
    -- Every other rule asks that the rendered type is not overridden.
    cases h' with
    | override hover' => exact ⟨Option.some.inj (hover.symm.trans hover'), rfl⟩
    | primitive hnone _ => exact absurd (hover.symm.trans hnone) (Option.some_ne_none _)
    | firstConstant hnone => exact absurd (hover.symm.trans hnone) (Option.some_ne_none _)
    | list hnone _ => exact absurd (hover.symm.trans hnone) (Option.some_ne_none _)
    | noConstant hnone => exact absurd (hover.symm.trans hnone) (Option.some_ne_none _)
    | model hnone => exact absurd (hover.symm.trans hnone) (Option.some_ne_none _)
  | primitive hnone hliteral =>
    cases h' with
    | override hover => exact absurd (hover.symm.trans hnone) (Option.some_ne_none _)
    | primitive _ hliteral' => exact ⟨hliteral.unique hliteral', rfl⟩
  | firstConstant hnone =>
    cases h' with
    | override hover => exact absurd (hover.symm.trans hnone) (Option.some_ne_none _)
    | firstConstant _ => exact ⟨rfl, rfl⟩
  | list hnone _ ih =>
    cases h' with
    | override hover => exact absurd (hover.symm.trans hnone) (Option.some_ne_none _)
    | list _ hinner =>
      obtain ⟨rfl, -⟩ := ih hinner
      exact ⟨rfl, rfl⟩
  | noConstant hnone =>
    cases h' with
    | override hover => exact absurd (hover.symm.trans hnone) (Option.some_ne_none _)
    | noConstant _ => exact ⟨rfl, rfl⟩
  | model hnone =>
    cases h' with
    | override hover => exact absurd (hover.symm.trans hnone) (Option.some_ne_none _)
    | model _ => exact ⟨rfl, rfl⟩

/-- A field has at most one default. -/
theorem FieldDefault.unique {own ofClass : Option String} {nullable : Bool} {type : FieldType}
    {expression other : String} {source tier : DefaultSource}
    (h : FieldDefault typeDefaults date own ofClass nullable type expression source)
    (h' : FieldDefault typeDefaults date own ofClass nullable type other tier) :
    expression = other ∧ source = tier := by
  cases h with
  | own howned =>
    subst howned
    cases h' with
    | own heq => exact ⟨Option.some.inj heq, rfl⟩
    | ofClass hnone _ => cases hnone
    | null hnone _ _ => cases hnone
    | ofType hnone _ _ _ => cases hnone
  | ofClass howned hclass =>
    subst howned hclass
    cases h' with
    | own heq => cases heq
    | ofClass _ heq => exact ⟨Option.some.inj heq, rfl⟩
    | null _ hnone _ => cases hnone
    | ofType _ hnone _ _ => cases hnone
  | null howned hclass hnullable =>
    subst howned hclass hnullable
    cases h' with
    | own heq => cases heq
    | ofClass _ heq => cases heq
    | null _ _ _ => exact ⟨rfl, rfl⟩
    | ofType _ _ hnot _ => cases hnot
  | ofType howned hclass hnullable htype =>
    subst howned hclass hnullable
    cases h' with
    | own heq => cases heq
    | ofClass _ heq => cases heq
    | null _ _ hnot => cases hnot
    | ofType _ _ _ htype' => exact htype.unique htype'

end Unique

/-! ## The resolver finds it -/

namespace Resolver

variable {resolver : Resolver}

theorem primitiveLiteral_literal (kind : Primitive) :
    PrimitiveLiteral resolver.sentinelDate kind (resolver.primitiveLiteral kind) := by
  cases kind <;> constructor

section ByType

variable {name : String}

/-- Without an override by name the rendered type is looked up before anything is built in. -/
theorem resolveAs_of_byType (hf : resolver.overrides.byField[name]? = none)
    (hc : resolver.overrides.byClass[name]? = none) {type : FieldType} {expression : String}
    (h : resolver.overrides.byType[type.rendered]? = some expression) :
    resolver.resolveAs name false type = ⟨expression, .typeOverride⟩ := by
  unfold resolveAs
  simp [hf, hc, h]

/-- Without any override the default of a type is built in, or is the factory of the model. -/
theorem resolveAs_of_none (hf : resolver.overrides.byField[name]? = none)
    (hc : resolver.overrides.byClass[name]? = none) (type : FieldType) :
    resolver.overrides.byType[type.rendered]? = none →
      resolver.resolveAs name false type =
        match type with
        | .primitive kind => ⟨resolver.primitiveLiteral kind, .builtIn⟩
        | .enumeration typeName (first :: _) => ⟨typeName ++ "." ++ first, .builtIn⟩
        | .enumeration typeName [] => ⟨typeName ++ "Factory.build()", .nestedFactory⟩
        | .list element =>
          ⟨"[" ++ (resolver.resolveAs name false element).expression ++ "]", .builtIn⟩
        | .model typeName => ⟨typeName ++ "Factory.build()", .nestedFactory⟩ := by
  intro h
  have hcall (typeName : String) : nestedFactoryCall typeName = typeName ++ "Factory.build()" := by
    have hword : "Factory" ++ ".build()" = "Factory.build()" := by decide
    rw [nestedFactoryCall, factoryName, String.append_assoc, hword]
  -- Nothing is given under the name and the type is not overridden, so its shape decides.
  cases type with
  | primitive kind =>
    rw [resolveAs.eq_def]
    simp only [hf, hc, h, Bool.false_eq_true, if_false]
  | enumeration typeName constants =>
    rw [resolveAs.eq_def]
    cases constants with
    | nil => simp only [hf, hc, h, Bool.false_eq_true, if_false, hcall]
    | cons first others => simp only [hf, hc, h, Bool.false_eq_true, if_false]
  | list element =>
    rw [resolveAs.eq_def]
    simp only [hf, hc, h, Bool.false_eq_true, if_false]
  | model typeName =>
    rw [resolveAs.eq_def]
    simp only [hf, hc, h, Bool.false_eq_true, if_false, hcall]

/-- Only where the rendered type is not overridden there is more to show. -/
theorem typeDefault_of_none (hf : resolver.overrides.byField[name]? = none)
    (hc : resolver.overrides.byClass[name]? = none) {type : FieldType}
    (hnone : resolver.overrides.byType[type.rendered]? = none →
      TypeDefault resolver.overrides.byType resolver.sentinelDate type
        (resolver.resolveAs name false type).expression
        (resolver.resolveAs name false type).source) :
    TypeDefault resolver.overrides.byType resolver.sentinelDate type
      (resolver.resolveAs name false type).expression
      (resolver.resolveAs name false type).source := by
  cases h : resolver.overrides.byType[type.rendered]? with
  | none => exact hnone h
  | some expression =>
    rw [resolveAs_of_byType hf hc h]
    exact .override h

/-- Under a name that nothing is given for, the resolver finds the default of the type. -/
theorem typeDefault_resolveAs (hf : resolver.overrides.byField[name]? = none)
    (hc : resolver.overrides.byClass[name]? = none) (type : FieldType) :
    TypeDefault resolver.overrides.byType resolver.sentinelDate type
      (resolver.resolveAs name false type).expression
      (resolver.resolveAs name false type).source := by
  -- A list asks for its element under the same name, so nothing is given for that either.
  induction type with
  | primitive kind =>
    refine typeDefault_of_none hf hc fun h => ?_
    rw [resolveAs_of_none hf hc _ h]
    exact .primitive h (primitiveLiteral_literal kind)
  | enumeration typeName constants =>
    refine typeDefault_of_none hf hc fun h => ?_
    rw [resolveAs_of_none hf hc _ h]
    cases constants with
    | nil => exact .noConstant h
    | cons first others => exact .firstConstant h
  | list element ih =>
    refine typeDefault_of_none hf hc fun h => ?_
    rw [resolveAs_of_none hf hc _ h]
    exact .list h ih
  | model typeName =>
    refine typeDefault_of_none hf hc fun h => ?_
    rw [resolveAs_of_none hf hc _ h]
    exact .model h

end ByType

/-- The resolver finds the default of every field. -/
theorem fieldDefault_resolve (resolver : Resolver) (field : Field) :
    FieldDefault resolver.overrides.byType resolver.sentinelDate
      resolver.overrides.byField[field.name]? resolver.overrides.byClass[field.name]?
      field.nullable field.type (resolver.resolve field).expression
      (resolver.resolve field).source := by
  unfold resolve
  -- The tiers in their order, each only where those before it give nothing.
  cases hf : resolver.overrides.byField[field.name]? with
  | some expression =>
    rw [resolveAs_of_byField hf]
    exact .own rfl
  | none =>
    cases hc : resolver.overrides.byClass[field.name]? with
    | some expression =>
      rw [resolveAs_of_byClass hf hc]
      exact .ofClass rfl rfl
    | none =>
      cases hn : field.nullable with
      | true =>
        rw [resolveAs_nullable hf hc]
        exact .null rfl rfl rfl
      | false => exact .ofType rfl rfl rfl (typeDefault_resolveAs hf hc field.type)

/-- The default of a field is what the resolver finds, and nothing else. -/
theorem fieldDefault_iff {field : Field} {expression : String} {source : DefaultSource} :
    FieldDefault resolver.overrides.byType resolver.sentinelDate
        resolver.overrides.byField[field.name]? resolver.overrides.byClass[field.name]?
        field.nullable field.type expression source ↔
      resolver.resolve field = ⟨expression, source⟩ := by
  constructor
  · intro h
    obtain ⟨hexpression, hsource⟩ := (fieldDefault_resolve resolver field).unique h
    rw [← hexpression, ← hsource]
  · intro h
    have hfound := fieldDefault_resolve resolver field
    rw [h] at hfound
    exact hfound

end Resolver

end ModelFactory
