import ModelFactory.Proofs.Default.NestedLists

/-!
# What the resolver looks up

A default depends on the override tables only through the keys that are looked up on the way to it:
the name of the field in the two tables by name and, if the type decides, the rendered types that
are met going into the lists (`TypeLookup`). Tables that agree on those keys give the same default
(`Resolver.resolve_eq_of_agree`).

Going inward the resolver meets the types `FieldType.renderedAt` from the outermost list down to the
leaf, and it stops at the first that is overridden (`TypeLookup.exists_level`).
-/

set_option autoImplicit false

namespace ModelFactory

/-! ## The levels of a type -/

namespace FieldType

/-- The rendered type of so many lists around the leaf. -/
def renderedAt (type : FieldType) (level : Nat) : String := (nested level type.leaf).rendered

/-- With all its lists around the leaf, it is the rendered type itself. -/
theorem renderedAt_depth (type : FieldType) : type.renderedAt type.depth = type.rendered := by
  rw [renderedAt, nested_depth_leaf]

theorem renderedAt_list (element : FieldType) (level : Nat) :
    (list element).renderedAt level = element.renderedAt level := rfl

/-- Every list makes the rendered type longer. -/
theorem length_rendered_nested (level : Nat) (type : FieldType) :
    (nested level type).rendered.length = 6 * level + type.rendered.length := by
  induction level with
  | zero => simp [nested]
  | succ level ih =>
    have hopen : ("List<" : String).length = 5 := rfl
    have hclose : (">" : String).length = 1 := rfl
    simp only [nested, rendered, String.length_append, ih, hopen, hclose]
    omega

/-- No two levels of a type are rendered alike. -/
theorem renderedAt_injective {type : FieldType} {level other : Nat}
    (h : type.renderedAt level = type.renderedAt other) : level = other := by
  have hlength := congrArg String.length h
  -- Each list makes six characters more, so equal lengths are equal numbers of lists.
  simp only [renderedAt, length_rendered_nested] at hlength
  omega

end FieldType

/-! ## Lookups by type -/

/-- On the way to the default of a type the key is looked up: a type is looked up before anything
else, and the element of a list where the list is not overridden. -/
inductive TypeLookup (typeDefaults : OverrideTable) : FieldType → String → Prop
  | here (type : FieldType) : TypeLookup typeDefaults type type.rendered
  | element {element : FieldType} {key : String} :
      typeDefaults[(FieldType.list element).rendered]? = none →
      TypeLookup typeDefaults element key →
      TypeLookup typeDefaults (.list element) key

section TypeDefaults

variable {typeDefaults others : OverrideTable} {date : Date} {type : FieldType}

/-- A key that is looked up is a level of the type, and no level outside of it is overridden. -/
theorem TypeLookup.exists_level {key : String} (h : TypeLookup typeDefaults type key) :
    ∃ level ≤ type.depth, key = type.renderedAt level ∧
      ∀ outer, level < outer → outer ≤ type.depth →
        typeDefaults[type.renderedAt outer]? = none := by
  -- By induction on the way that the resolver goes in.
  induction h with
  | here type =>
    refine ⟨type.depth, Nat.le_refl _, type.renderedAt_depth.symm, ?_⟩
    intro outer hlt hle
    omega
  | @element element key hnone _ ih =>
    obtain ⟨level, hle, hkey, houter⟩ := ih
    have hdepth : (FieldType.list element).depth = element.depth + 1 := rfl
    refine ⟨level, by omega, hkey, ?_⟩
    intro outer hlt hle
    -- Either it is the list itself, or a level of the element.
    by_cases hlist : outer = (FieldType.list element).depth
    · rw [hlist, FieldType.renderedAt_depth]
      exact hnone
    · rw [FieldType.renderedAt_list]
      exact houter outer hlt (by omega)

/-- Tables that agree on what is looked up give a type the same default. -/
theorem TypeDefault.of_agree {expression : String} {source : DefaultSource}
    (h : TypeDefault typeDefaults date type expression source)
    (hagree : ∀ key, TypeLookup typeDefaults type key → others[key]? = typeDefaults[key]?) :
    TypeDefault others date type expression source := by
  induction h with
  | @override type expression hover =>
    exact .override ((hagree _ (.here type)).trans hover)
  | @primitive kind literal hnone hliteral =>
    exact .primitive ((hagree _ (.here (.primitive kind))).trans hnone) hliteral
  | @firstConstant name first rest hnone =>
    exact .firstConstant ((hagree _ (.here (.enumeration name (first :: rest)))).trans hnone)
  | @list element expression source hnone _ ih =>
    have hlist := (hagree _ (.here (.list element))).trans hnone
    -- The list is not overridden, so it looks up what its element does.
    exact .list hlist (ih fun key hkey => hagree key (.element hnone hkey))
  | @noConstant name hnone =>
    exact .noConstant ((hagree _ (.here (.enumeration name []))).trans hnone)
  | @model name hnone => exact .model ((hagree _ (.here (.model name))).trans hnone)

end TypeDefaults

/-! ## The resolver -/

/-- Nothing is given under the name of the field and it is not nullable, so its type decides. -/
structure Overrides.LeavesToType (overrides : Overrides) (field : Field) : Prop where
  byField : overrides.byField[field.name]? = none
  byClass : overrides.byClass[field.name]? = none
  nullable : field.nullable = false

/-- A field that leaves its default to its type has the override of that type. -/
theorem Overrides.LeavesToType.resolve_eq {overrides : Overrides} {field : Field}
    (h : overrides.LeavesToType field) {expression : String}
    (htype : overrides.byType[field.type.rendered]? = some expression) (date : Date) :
    Resolver.resolve ⟨overrides, date⟩ field = ⟨expression, .typeOverride⟩ := by
  rw [Resolver.resolve, h.nullable]
  exact Resolver.resolveAs_of_byType h.byField h.byClass htype

/-- With another table of types and another date a field keeps its default, if its type keeps its
own where the type decides. -/
theorem FieldDefault.of_typeDefault {typeDefaults others : OverrideTable} {date other : Date}
    {own ofClass : Option String} {nullable : Bool} {type : FieldType} {expression : String}
    {source : DefaultSource}
    (h : FieldDefault typeDefaults date own ofClass nullable type expression source)
    (htype : own = none → ofClass = none → nullable = false →
      TypeDefault typeDefaults date type expression source →
      TypeDefault others other type expression source) :
    FieldDefault others other own ofClass nullable type expression source := by
  cases h with
  | own hown => exact .own hown
  | ofClass hown hclass => exact .ofClass hown hclass
  | null hown hclass hnullable => exact .null hown hclass hnullable
  | ofType hown hclass hnullable hdefault =>
    exact .ofType hown hclass hnullable (htype hown hclass hnullable hdefault)

/-- Tables that agree on the name of a field and, if its type decides, on what is looked up for the
type, give the field the same default. -/
theorem Resolver.resolve_eq_of_agree {overrides others : Overrides} (date : Date) {field : Field}
    (hfield : others.byField[field.name]? = overrides.byField[field.name]?)
    (hclass : others.byClass[field.name]? = overrides.byClass[field.name]?)
    (htype : overrides.LeavesToType field →
      ∀ key, TypeLookup overrides.byType field.type key →
        others.byType[key]? = overrides.byType[key]?) :
    resolve ⟨others, date⟩ field = resolve ⟨overrides, date⟩ field := by
  have hdefault := fieldDefault_resolve ⟨overrides, date⟩ field
  refine fieldDefault_iff.1 ?_
  simp only [hfield, hclass]
  refine hdefault.of_typeDefault ?_
  intro hown hofClass hnullable htypeDefault
  exact htypeDefault.of_agree (htype ⟨hown, hofClass, hnullable⟩)

end ModelFactory
