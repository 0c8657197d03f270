import ModelFactory.Factory.Definition
import ModelFactory.Proofs.Default.Dates
import ModelFactory.Proofs.Default.Priority
import ModelFactory.Proofs.Overrides
import ModelFactory.Text.Digits

/-!
# The texts in a factory

Every text in a factory is made of names, constants and overrides in a few ways. `KeptInFactory`
says of a property of texts that each of these ways keeps it. Such a property holds of every default
(`FieldDefault.kept`) and of every text in a definition (`FactoryDefinition.each_ofFields`), if it
holds of the names, the constants and the overrides that these are made of. A factory puts in no
control character of its own (`keptInFactory_notMem`).
-/

set_option autoImplicit false

namespace ModelFactory

variable {P : String → Prop}

/-! ## What texts are made of -/

/-- The property holds of every text of the table. -/
def OverrideTable.Each (P : String → Prop) (table : OverrideTable) : Prop :=
  ∀ (key expression : String), table[key]? = some expression → P expression

theorem OverrideTable.each_empty : (∅ : OverrideTable).Each P := by
  intro key expression hfind
  rw [Std.ExtTreeMap.getElem?_empty] at hfind
  cases hfind

theorem OverrideTable.each_ofEntries {entries : List (String × String)}
    (h : ∀ entry ∈ entries, P entry.2) : (ofEntries entries).Each P := by
  intro key expression hfind
  exact h (key, expression) (mem_of_getElem?_ofEntries hfind)

/-- The property holds of the names and constants in the type. -/
def FieldType.Each (P : String → Prop) : FieldType → Prop
  | primitive _ => True
  | enumeration name constants => P name ∧ ∀ constant ∈ constants, P constant
  | list element => element.Each P
  | model name => P name

/-- The property holds of the field's name and in its type. -/
structure Field.Each (P : String → Prop) (field : Field) : Prop where
  name : P field.name
  type : field.type.Each P

/-- The property holds of every text of the three tables. -/
structure Overrides.Each (P : String → Prop) (overrides : Overrides) : Prop where
  byField : overrides.byField.Each P
  byClass : overrides.byClass.Each P
  byType : overrides.byType.Each P

/-- The property holds of every text of the declaration. -/
structure Declaration.Each (P : String → Prop) (declaration : Declaration) : Prop where
  name : P declaration.name
  fields : ∀ field ∈ declaration.fields, field.Each P
  fieldDefaults : declaration.fieldDefaults.Each P
  classDefaults : declaration.classDefaults.Each P

/-- The property holds of every text of the definition. -/
structure FactoryDefinition.Each (P : String → Prop) (definition : FactoryDefinition) : Prop where
  name : P definition.name
  model : P definition.model
  parameters : ∀ parameter ∈ definition.parameters,
    P parameter.name ∧ P parameter.type ∧ P parameter.fallback

/-- The ways in which a factory makes texts keep the property. -/
structure KeptInFactory (P : String → Prop) : Prop where
  null : P "null"
  literal {date : Date} {kind : Primitive} {literal : String}
    (h : PrimitiveLiteral date kind literal) : P literal
  constant {name first : String} (hname : P name) (hfirst : P first) : P (name ++ "." ++ first)
  list {expression : String} (h : P expression) : P ("[" ++ expression ++ "]")
  factory {name : String} (h : P name) : P (name ++ "Factory")
  call {name : String} (h : P name) : P (name ++ "Factory.build()")
  primitiveType (kind : Primitive) : P kind.rendered
  listType {element : String} (h : P element) : P ("List<" ++ element ++ ">")
  optionalType {type : String} (h : P type) : P (type ++ "?")

/-! ## What is made of them -/

/-- A rendered type keeps the property of its names. -/
theorem FieldType.Each.rendered (hP : KeptInFactory P) {type : FieldType} (h : type.Each P) :
    P type.rendered := by
  induction type with
  | primitive kind => exact hP.primitiveType kind
  | enumeration name constants => exact h.1
  | list element ih => exact hP.listType (ih h)
  | model name => exact h

section Defaults

variable {typeDefaults : OverrideTable} {date : Date} {type : FieldType} {expression : String}
  {source : DefaultSource}

/-- The default of a type is from the table, from the type, or fixed. -/
theorem TypeDefault.kept (hP : KeptInFactory P)
    (h : TypeDefault typeDefaults date type expression source) (htable : typeDefaults.Each P)
    (htype : type.Each P) : P expression := by
  induction h with
  | override hover => exact htable _ _ hover
  | primitive _ hliteral => exact hP.literal hliteral
  | firstConstant _ => exact hP.constant htype.1 (htype.2 _ List.mem_cons_self)
  | list _ _ ih => exact hP.list (ih htype)
  | noConstant _ => exact hP.call htype.1
  | model _ => exact hP.call htype

/-- The default of a field is one that is given, the default of its type, or null. -/
theorem FieldDefault.kept (hP : KeptInFactory P) {own ofClass : Option String} {nullable : Bool}
    (h : FieldDefault typeDefaults date own ofClass nullable type expression source)
    (hown : ∀ text, own = some text → P text) (hclass : ∀ text, ofClass = some text → P text)
    (htable : typeDefaults.Each P) (htype : type.Each P) : P expression := by
  cases h with
  | own howned => exact hown _ howned
  | ofClass _ hofClass => exact hclass _ hofClass
  | null _ _ _ => exact hP.null
  | ofType _ _ _ hdefault => exact hdefault.kept hP htable htype

end Defaults

/-- Every text in the definition of a factory keeps the property. -/
theorem FactoryDefinition.each_ofFields (hP : KeptInFactory P) (resolver : Resolver)
    {model : String} {fields : List Field} (hmodel : P model)
    (hfields : ∀ field ∈ fields, field.Each P) (hoverrides : resolver.overrides.Each P) :
    (ofFields resolver model fields).Each P where
  name := hP.factory hmodel
  model := hmodel
  parameters := by
    intro parameter hparameter
    obtain ⟨field, hfield, rfl⟩ := List.mem_map.1 hparameter
    have hfield := hfields field hfield
    refine ⟨hfield.name, hP.optionalType (hfield.type.rendered hP), ?_⟩
    exact (Resolver.fieldDefault_resolve resolver field).kept hP (hoverrides.byField field.name)
      (hoverrides.byClass field.name) hoverrides.byType hfield.type

/-! ## Control characters -/

/-- The text has no control character of ASCII. -/
def isPrintable (text : String) : Bool := text.toList.all fun char => 0x20 ≤ char.toNat

section ControlCharacters

variable {char : Char}

theorem notMem_append {text other : String} :
    char ∉ (text ++ other).toList ↔ char ∉ text.toList ∧ char ∉ other.toList := by
  simp

theorem notMem_of_isPrintable (h : char.toNat < 0x20) {text : String}
    (htext : isPrintable text = true) : char ∉ text.toList := by
  intro hmem
  have hprintable := List.all_eq_true.1 htext char hmem
  rw [decide_eq_true_eq] at hprintable
  omega

/-- A date is written without control characters. -/
theorem notMem_plainDate (h : char.toNat < 0x20) (date : Date) :
    char ∉ (plainDate date).toList := by
  have hprintable {text : String} (htext : isPrintable text = true) : char ∉ text.toList :=
    notMem_of_isPrintable h htext
  have hdigit : char.isDigit = false := by
    have hzero : '0'.toNat = 0x30 := rfl
    rw [← Bool.not_eq_true, Char.isDigit_iff_toNat]
    omega
  have hnumber (number : Nat) : char ∉ (toString number).toList :=
    Text.notMem_toString hdigit number
  have hyear : char ∉ (plainNumber date.year).toList := by
    refine notMem_append.2 ⟨?_, hnumber _⟩
    split
    · exact hprintable (by decide)
    · exact hprintable (by decide)
  have hopening : char ∉ "DateTime(".toList := hprintable (by decide)
  have hcomma : char ∉ ", ".toList := hprintable (by decide)
  have hclosing : char ∉ ")".toList := hprintable (by decide)
  simp only [plainDate, notMem_append, hnumber, hyear, hopening, hcomma, hclosing,
    not_false_eq_true, and_true]

/-- A factory puts no control character into a text. -/
theorem keptInFactory_notMem (h : char.toNat < 0x20) :
    KeptInFactory fun text => char ∉ text.toList := by
  have hprintable {text : String} (htext : isPrintable text = true) : char ∉ text.toList :=
    notMem_of_isPrintable h htext
  constructor
  case null => exact hprintable (by decide)
  case literal =>
    intro date kind literal hliteral
    cases hliteral with
    | dateTime =>
      have hdate := notMem_plainDate h date
      rw [← Resolver.dateExpression_eq_plainDate] at hdate
      exact hdate
    | _ => exact hprintable (by decide)
  case constant =>
    exact fun hname hfirst => notMem_append.2 ⟨notMem_append.2 ⟨hname, hprintable (by decide)⟩,
      hfirst⟩
  case list | listType =>
    exact fun hinner => notMem_append.2 ⟨notMem_append.2 ⟨hprintable (by decide), hinner⟩,
      hprintable (by decide)⟩
  case factory | call | optionalType =>
    exact fun hname => notMem_append.2 ⟨hname, hprintable (by decide)⟩
  case primitiveType =>
    intro kind
    cases kind with
    | _ => exact hprintable (by decide)

end ControlCharacters

end ModelFactory
