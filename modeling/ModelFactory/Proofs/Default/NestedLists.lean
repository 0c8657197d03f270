import ModelFactory.Proofs.Default.Priority

/-!
# Defaults of lists of lists

The resolver goes into a list and asks for its element under the same name. Going inward from
`FieldType.nested n type` it meets the lists one by one and then the type inside them, and it stops
at the first of these types that is overridden. `TypeDefault.nested` builds the default up again:
every list that was passed over puts a pair of brackets around what is inside.

So the default of a list has a closed form (`Resolver.resolve_nested`): the expression of the
outermost override, or what the innermost type defaults to by itself (`LeafDefault`), inside as many
brackets as there are lists around it.
-/

set_option autoImplicit false

namespace ModelFactory

/-! ## Types inside lists -/

/-- So many lists around a type, and then so many around these. -/
theorem FieldType.nested_add (outer inner : Nat) (type : FieldType) :
    nested (outer + inner) type = nested outer (nested inner type) := by
  induction outer with
  | zero => rw [Nat.zero_add]; rfl
  | succ outer ih =>
    rw [Nat.succ_add]
    exact congrArg FieldType.list ih

/-- The lists around a type are those around the type some levels further in, and these levels. -/
theorem FieldType.nested_sub {level depth : Nat} (h : level ≤ depth) (type : FieldType) :
    nested level (nested (depth - level) type) = nested depth type := by
  rw [← nested_add, Nat.add_sub_cancel' h]

/-! ## Brackets around an expression -/

/-- An expression inside so many pairs of brackets. -/
def inBrackets (count : Nat) (expression : String) : String :=
  String.ofList (List.replicate count '[') ++ expression
    ++ String.ofList (List.replicate count ']')

@[simp] theorem inBrackets_zero (expression : String) : inBrackets 0 expression = expression := by
  simp [inBrackets]

/-- The outermost pair stands around the others. -/
theorem inBrackets_succ (count : Nat) (expression : String) :
    inBrackets (count + 1) expression = "[" ++ inBrackets count expression ++ "]" := by
  apply String.toList_inj.1
  -- The opening brackets grow at their front and the closing ones at their end.
  simp only [inBrackets, String.toList_append, String.toList_ofList, List.append_assoc]
  rw [List.replicate_succ, List.replicate_succ']
  rfl

/-! ## The type inside the lists -/

/-- What a type that is no list defaults to by itself, and the tier that gives it. -/
inductive LeafDefault (date : Date) : FieldType → String → DefaultSource → Prop
  | primitive {kind : Primitive} {literal : String} :
      PrimitiveLiteral date kind literal → LeafDefault date (.primitive kind) literal .builtIn
  | firstConstant {name first : String} {others : List String} :
      LeafDefault date (.enumeration name (first :: others)) (name ++ "." ++ first) .builtIn
  | noConstant {name : String} :
      LeafDefault date (.enumeration name []) (name ++ "Factory.build()") .nestedFactory
  | model {name : String} :
      LeafDefault date (.model name) (name ++ "Factory.build()") .nestedFactory

section TypeDefaults

variable {typeDefaults : OverrideTable} {date : Date} {type : FieldType} {expression : String}
  {source : DefaultSource}

/-- Where its rendered type is not overridden, a type defaults to what it defaults to by itself. -/
theorem LeafDefault.typeDefault (h : LeafDefault date type expression source)
    (hnone : typeDefaults[type.rendered]? = none) :
    TypeDefault typeDefaults date type expression source := by
  cases h with
  | primitive hliteral => exact .primitive hnone hliteral
  | firstConstant => exact .firstConstant hnone
  | noConstant => exact .noConstant hnone
  | model => exact .model hnone

/-- A list that is not overridden puts brackets around the default of its element, so lists that are
all not overridden put as many around the default of the type inside them. -/
theorem TypeDefault.nested (h : TypeDefault typeDefaults date type expression source)
    {count : Nat}
    (hnone : ∀ level < count, typeDefaults[(FieldType.nested (level + 1) type).rendered]? = none) :
    TypeDefault typeDefaults date (FieldType.nested count type) (inBrackets count expression)
      (if count = 0 then source else .builtIn) := by
  -- From the inside outward: each list more is one rule more of the derivation.
  induction count with
  | zero => simpa [FieldType.nested] using h
  | succ count ih =>
    have hinner := ih fun level hlevel => hnone level (Nat.lt_succ_of_lt hlevel)
    have houter : typeDefaults["List<" ++ (FieldType.nested count type).rendered ++ ">"]? = none :=
      hnone count (Nat.lt_succ_self count)
    rw [inBrackets_succ, if_neg (Nat.succ_ne_zero count)]
    exact .list houter hinner

/-- The default of a type never comes from an override by name nor from the field being nullable,
and that of a list never from a factory. -/
theorem TypeDefault.source_cases (h : TypeDefault typeDefaults date type expression source) :
    source = .typeOverride ∨ source = .builtIn ∨ (source = .nestedFactory ∧ type.depth = 0) := by
  cases h with
  | override _ => exact .inl rfl
  | primitive _ _ => exact .inr (.inl rfl)
  | firstConstant _ => exact .inr (.inl rfl)
  | list _ _ => exact .inr (.inl rfl)
  | noConstant _ => exact .inr (.inr ⟨rfl, rfl⟩)
  | model _ => exact .inr (.inr ⟨rfl, rfl⟩)

end TypeDefaults

/-- Every type that is no list defaults to something by itself. -/
theorem Resolver.exists_leafDefault (resolver : Resolver) {type : FieldType}
    (htype : ∀ element, type ≠ .list element) :
    ∃ expression source, LeafDefault resolver.sentinelDate type expression source := by
  cases type with
  | primitive kind =>
    have hliteral : PrimitiveLiteral resolver.sentinelDate kind (resolver.primitiveLiteral kind) :=
      primitiveLiteral_literal kind
    exact ⟨_, _, .primitive hliteral⟩
  | enumeration name constants =>
    cases constants with
    | nil => exact ⟨_, _, .noConstant⟩
    | cons first others => exact ⟨_, _, .firstConstant⟩
  | list element => exact absurd rfl (htype element)
  | model name => exact ⟨_, _, .model⟩

/-! ## The closed form -/

namespace Resolver

variable {resolver : Resolver} {name : String}

/-- Where nothing is given under the name, the resolver finds what the type defaults to. -/
theorem resolveAs_of_typeDefault (hf : resolver.overrides.byField[name]? = none)
    (hc : resolver.overrides.byClass[name]? = none) {type : FieldType} {expression : String}
    {source : DefaultSource}
    (h : TypeDefault resolver.overrides.byType resolver.sentinelDate type expression source) :
    resolver.resolveAs name false type = ⟨expression, source⟩ := by
  obtain ⟨hexpression, hsource⟩ := (typeDefault_resolveAs hf hc type).unique h
  rw [← hexpression, ← hsource]

/-- The default of a field of lists around a type that is no list, where nothing is given under the
name of the field. Let `override level` be the override of the type so many levels inside the lists.
If there is one, the outermost decides: its text stands inside as many brackets as there are lists
around that type. If there is none, what the innermost type defaults to by itself stands inside the
brackets of all lists. Unless no list is passed over, the default is built in.

At no level an override by name is found or the field taken for nullable, and only the type inside
all lists can be given by a factory. -/
theorem resolve_nested (resolver : Resolver) {name : String}
    (hf : resolver.overrides.byField[name]? = none)
    (hc : resolver.overrides.byClass[name]? = none) (depth : Nat) {type : FieldType}
    (htype : ∀ element, type ≠ .list element) :
    let override (level : Nat) :=
      resolver.overrides.byType[(FieldType.nested (depth - level) type).rendered]?
    let found := resolver.resolve ⟨name, FieldType.nested depth type, false⟩
    (∀ level expression, level ≤ depth → override level = some expression →
      (∀ outer < level, override outer = none) →
        found = ⟨inBrackets level expression, if level = 0 then .typeOverride else .builtIn⟩) ∧
    ((∀ level ≤ depth, override level = none) →
      ∃ expression source, LeafDefault resolver.sentinelDate type expression source ∧
        found = ⟨inBrackets depth expression, if depth = 0 then source else .builtIn⟩) ∧
    ∀ inner, let met := resolver.resolveAs name false (FieldType.nested inner type)
      met.source ≠ .fieldOverride ∧ met.source ≠ .classOverride ∧ met.source ≠ .nullable ∧
        (met.source = .nestedFactory → inner = 0) := by
  intro override found
  refine ⟨?_, ?_, ?_⟩
  · intro level expression hle hoverride houter
    have hinner : TypeDefault resolver.overrides.byType resolver.sentinelDate
        (FieldType.nested (depth - level) type) expression .typeOverride := .override hoverride
    -- A list `inner` levels around the overridden type is `level - inner` levels inside all lists.
    have hnone : ∀ inner < level, resolver.overrides.byType[(FieldType.nested (inner + 1)
        (FieldType.nested (depth - level) type)).rendered]? = none := by
      intro inner hlt
      have hfree := houter (level - (inner + 1)) (by omega)
      have hlevels : depth - (level - (inner + 1)) = inner + 1 + (depth - level) := by omega
      rwa [← FieldType.nested_add, ← hlevels]
    have hwhole := hinner.nested hnone
    rw [FieldType.nested_sub hle] at hwhole
    exact resolveAs_of_typeDefault hf hc hwhole
  · intro hfree
    obtain ⟨expression, source, hleaf⟩ := resolver.exists_leafDefault htype
    have hinner : resolver.overrides.byType[type.rendered]? = none := by
      have hlast := hfree depth (Nat.le_refl depth)
      simp only [override, Nat.sub_self] at hlast
      exact hlast
    have hnone : ∀ inner < depth,
        resolver.overrides.byType[(FieldType.nested (inner + 1) type).rendered]? = none := by
      intro inner hlt
      have hlevel := hfree (depth - (inner + 1)) (by omega)
      have hlevels : depth - (depth - (inner + 1)) = inner + 1 := by omega
      simpa only [override, hlevels] using hlevel
    exact ⟨expression, source, hleaf,
      resolveAs_of_typeDefault hf hc ((hleaf.typeDefault hinner).nested hnone)⟩
  · intro inner met
    rcases (typeDefault_resolveAs hf hc (FieldType.nested inner type)).source_cases with
      hsource | hsource | ⟨hsource, hdepth⟩
    · simp [met, hsource]
    · simp [met, hsource]
    · refine ⟨by simp [met, hsource], by simp [met, hsource], by simp [met, hsource], fun _ => ?_⟩
      cases inner with
      | zero => rfl
      | succ inner => cases hdepth

/-- Rows of numbers are overridden, and the field holds lists of lists of them. -/
def rowsOverridden : Resolver :=
  { overrides :=
      { byType := OverrideTable.ofEntries [("List<int>", "const <int>[]"), ("int", "7")] } }

/-- The override of `List<int>` stands inside two pairs of brackets, and that of `int` is not asked
for. -/
theorem rowsOverridden_resolve_nested :
    rowsOverridden.overrides.byField["cells"]? = none ∧
      rowsOverridden.overrides.byClass["cells"]? = none ∧
      rowsOverridden.overrides.byType["List<int>"]? = some "const <int>[]" ∧
      rowsOverridden.resolve ⟨"cells", .list (.list (.list (.primitive .integer))), false⟩ =
        ⟨"[[const <int>[]]]", .builtIn⟩ := by
  have hf : rowsOverridden.overrides.byField["cells"]? = none := by decide +kernel
  have hc : rowsOverridden.overrides.byClass["cells"]? = none := by decide +kernel
  have hrow : rowsOverridden.overrides.byType["List<int>"]? = some "const <int>[]" := by
    decide +kernel
  have htype : ∀ element, FieldType.primitive .integer ≠ .list element := by
    intro element h
    cases h
  obtain ⟨hoverridden, -, -⟩ := resolve_nested rowsOverridden hf hc 3 htype
  have houter : ∀ outer < 2, rowsOverridden.overrides.byType[
      (FieldType.nested (3 - outer) (.primitive .integer)).rendered]? = none := by
    decide +kernel
  refine ⟨hf, hc, hrow, ?_⟩
  exact hoverridden 2 "const <int>[]" (by omega) hrow houter

end Resolver

end ModelFactory
