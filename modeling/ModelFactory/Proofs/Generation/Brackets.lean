import ModelFactory.Proofs.Default.Dates
import ModelFactory.Proofs.Factory.Lines
import ModelFactory.Proofs.Factory.Texts
import ModelFactory.Proofs.Generation.Fragments
import ModelFactory.Proofs.Text.Brackets

/-!
# Brackets of the output

A factory opens brackets in one part of its text and closes them in another: the braces of the
class, of the method and of its parameters, and the parentheses of its head and of the call. Each
part of the text is followed with the brackets that are still to come
(`FactoryDefinition.nested_signature`, `FactoryDefinition.nested_construction`,
`FactoryDefinition.nested_code`). The brackets that defaults bring are those of lists, dates and
calls, and each expression closes its own (`keptInFactory_nested`).

So where the names, constants and overrides have nested brackets, every fragment has, and so has
the text that joins them (`generate_keeps_brackets_nested`).
-/

set_option autoImplicit false

namespace ModelFactory

open Text (Nested IsPlain NestedChars pending? nestedChars_iff)

/-! ## Expressions -/

/-- A text without brackets is nested. -/
theorem Text.nested_of_plain {text : String} (h : ∀ char ∈ text.toList, IsPlain char) :
    Nested text := by
  have hchars {chars : List Char} (hplain : ∀ char ∈ chars, IsPlain char) : NestedChars chars := by
    induction chars with
    | nil => exact .nil
    | cons char rest ih =>
      rw [List.forall_mem_cons] at hplain
      exact .plain hplain.1 (ih hplain.2)
  exact hchars h

/-- A number has no brackets. -/
theorem nested_toString (number : Nat) : Nested (toString number) := by
  apply Text.nested_of_plain
  intro char hchar pair hpair
  -- Its characters are digits, and no bracket is one.
  have hnot : ∀ pair ∈ Text.bracketPairs, pair.1.isDigit = false ∧ pair.2.isDigit = false := by
    decide
  constructor
  · rintro rfl
    exact Text.notMem_toString (hnot pair hpair).1 number hchar
  · rintro rfl
    exact Text.notMem_toString (hnot pair hpair).2 number hchar

theorem nested_plainNumber (number : Int) : Nested (plainNumber number) := by
  refine Nested.append ?_ (nested_toString _)
  split
  · decide
  · decide

/-- The call of a date closes its parenthesis behind the day. -/
theorem nested_dateExpression (date : Date) : Nested (Resolver.dateExpression date) := by
  have hopen (rest : List Char) : pending? [] ("DateTime(".toList ++ rest) = pending? [')'] rest :=
    rfl
  have hcomma : Nested ", " := by decide
  rw [Resolver.dateExpression_eq_plainDate, plainDate, Nested, nestedChars_iff]
  simp only [String.toList_append, List.append_assoc]
  rw [hopen, (nested_plainNumber _).pending?_append, hcomma.pending?_append,
    (nested_toString _).pending?_append, hcomma.pending?_append,
    (nested_toString _).pending?_append]
  rfl

/-- The brackets of a list close behind its element. -/
theorem nested_inList {expression : String} (h : Nested expression) :
    Nested ("[" ++ expression ++ "]") := by
  have hopen (rest : List Char) : pending? [] ("[".toList ++ rest) = pending? [']'] rest := rfl
  rw [Nested, nestedChars_iff]
  simp only [String.toList_append, List.append_assoc]
  rw [hopen, h.pending?_append]
  rfl

/-- A factory puts only nested brackets into an expression. -/
theorem keptInFactory_nested : KeptInFactory Nested where
  null := by decide
  literal {date _ _} h := by
    cases h with
    | dateTime => exact nested_dateExpression date
    | _ => decide
  constant hname hfirst := (hname.append (by decide)).append hfirst
  list h := nested_inList h
  factory h := h.append (by decide)
  call h := h.append (by decide)
  primitiveType kind := by
    cases kind with
    | _ => decide
  listType h := (Nested.append (by decide) h).append (by decide)
  optionalType h := h.append (by decide)

/-! ## The text of a factory -/

namespace FactoryDefinition

variable {definition : FactoryDefinition}

/-- The lines of the parameters, one way or the other, are nested. -/
theorem nested_joined_lines (h : definition.Each Nested) :
    Nested (Text.joined "\n" (definition.parameters.map FactoryParameter.signatureLine)) ∧
      Nested (Text.joined "\n" (definition.parameters.map FactoryParameter.argumentLine)) := by
  have hindent : Nested "    " := by decide
  have hdeeper : Nested "      " := by decide
  have hblank : Nested " " := by decide
  have hcomma : Nested "," := by decide
  have hcolon : Nested ": " := by decide
  have helse : Nested " ?? " := by decide
  constructor
  · apply Text.nested_joined (by decide)
    intro line hline
    obtain ⟨parameter, hparameter, rfl⟩ := List.mem_map.1 hline
    obtain ⟨hname, htype, -⟩ := h.parameters parameter hparameter
    exact (((hindent.append htype).append hblank).append hname).append hcomma
  · apply Text.nested_joined (by decide)
    intro line hline
    obtain ⟨parameter, hparameter, rfl⟩ := List.mem_map.1 hline
    obtain ⟨hname, -, hfallback⟩ := h.parameters parameter hparameter
    exact (((((hdeeper.append hname).append hcolon).append hname).append helse).append
      hfallback).append hcomma

/-- The head of the method opens a parenthesis, and a brace if there are parameters, and closes
them. -/
theorem nested_signature (h : definition.Each Nested) : Nested definition.signature := by
  have hstatic : Nested "static " := by decide
  by_cases hnone : definition.parameters = []
  · rw [signature, hnone]
    exact (hstatic.append h.model).append (by decide)
  · have hopen (rest : List Char) :
        pending? [] (" build(\x7b\n".toList ++ rest) = pending? ['\x7d', ')'] rest := rfl
    rw [signature_of_ne_nil hnone, Nested, nestedChars_iff]
    simp only [String.toList_append, List.append_assoc]
    rw [hstatic.pending?_append, h.model.pending?_append, hopen,
      (nested_joined_lines h).1.pending?_append]
    rfl

/-- The call of the constructor closes its parenthesis. -/
theorem nested_construction (h : definition.Each Nested) : Nested definition.construction := by
  by_cases hnone : definition.parameters = []
  · rw [construction, hnone]
    exact h.model.append (by decide)
  · have hopen (rest : List Char) : pending? [] ("(\n".toList ++ rest) = pending? [')'] rest := rfl
    rw [construction_of_ne_nil hnone, Nested, nestedChars_iff]
    simp only [String.toList_append, List.append_assoc]
    rw [h.model.pending?_append, hopen, (nested_joined_lines h).2.pending?_append]
    rfl

/-- The braces of the class and of the method are closed at the end. -/
theorem nested_code (h : definition.Each Nested) : Nested definition.code := by
  have hclass : Nested "class " := by decide
  have hopenClass (rest : List Char) :
      pending? [] (" \x7b\n  ".toList ++ rest) = pending? ['\x7d'] rest := rfl
  have hopenMethod (rest : List Char) :
      pending? ['\x7d'] (" \x7b\n    return ".toList ++ rest) = pending? ['\x7d', '\x7d'] rest :=
    rfl
  rw [code, Nested, nestedChars_iff]
  simp only [String.toList_append, List.append_assoc]
  rw [hclass.pending?_append, h.name.pending?_append, hopenClass,
    (nested_signature h).pending?_append, hopenMethod, (nested_construction h).pending?_append]
  rfl

end FactoryDefinition

/-! ## Whole runs -/

/-- The text of a factory is nested if the names, constants and overrides are. -/
theorem nested_code_ofFields {resolver : Resolver} {model : String} {fields : List Field}
    (hmodel : Nested model) (hfields : ∀ field ∈ fields, field.Each Nested)
    (hoverrides : resolver.overrides.Each Nested) :
    Nested (FactoryDefinition.ofFields resolver model fields).code :=
  FactoryDefinition.nested_code
    (FactoryDefinition.each_ofFields keptInFactory_nested resolver hmodel hfields hoverrides)

/-- Where names, constants and overrides have nested brackets, so has every text that is generated
from them: the factory of any model with any fields, also under another date, every fragment of a
run, and the text that joins the fragments of a run below its banner. -/
theorem generate_keeps_brackets_nested :
    (∀ (overrides : Overrides) (date : Date) (model : String) (fields : List Field),
      Nested model → (∀ field ∈ fields, field.Each Nested) → overrides.Each Nested →
        Nested (factoryCode model fields overrides) ∧
          Nested (FactoryDefinition.ofFields ⟨overrides, date⟩ model fields).code) ∧
    (∀ (settings : GeneratorSettings) (document : Document) (sourcePath : String),
      settings.typeDefaults.Each Nested →
      (∀ declaration ∈ document.declarations, declaration.kind = .classLike →
        declaration.Each Nested) →
      let output := generate settings document sourcePath
      let body := Text.joined "\n" (output.factories.map (·.code))
      (∀ factory ∈ output.factories, Nested factory.code) ∧
        output.combined = output.underHeader body ∧ Nested body) := by
  constructor
  · intro overrides date model fields hmodel hfields hoverrides
    exact ⟨nested_code_ofFields hmodel hfields hoverrides,
      nested_code_ofFields hmodel hfields hoverrides⟩
  · intro settings document sourcePath htable hclasses output body
    have hfragments : ∀ code ∈ output.factories.map (·.code), Nested code := by
      intro code hmem
      rw [codes_generate] at hmem
      obtain ⟨declaration, hdeclaration, rfl⟩ := List.mem_map.1 hmem
      obtain ⟨hmem, hkind⟩ := List.mem_filter.1 hdeclaration
      have heach := hclasses declaration hmem (by simpa using hkind)
      exact nested_code_ofFields heach.name heach.fields
        ⟨heach.fieldDefaults, heach.classDefaults, htable⟩
    refine ⟨?_, rfl, Text.nested_joined (by decide) hfragments⟩
    intro factory hfactory
    exact hfragments factory.code (List.mem_map_of_mem hfactory)

/-- A class with lists in lists and with a default in brackets of every sort. -/
def gridClass : Declaration where
  name := "Grid"
  fields := [⟨"days", .list (.list (.primitive .dateTime)), false⟩, ⟨"cells", .model "Cell", false⟩]
  fieldDefaults := .ofEntries [("cells", "make(\x7b'at': [0]\x7d)")]

/-- The class, and a mixin with a bracket that is not closed. -/
def gridDocument : Document where
  declarations := [gridClass, { name := "Open(", kind := .mixin }]

theorem gridDocument_brackets_nested :
    gridClass.Each Nested ∧
      Nested (factoryCode gridClass.name gridClass.fields (gridClass.overrides ∅)) ∧
      (generate {} gridDocument "grid.json").factories.length = 1 ∧
      ∀ factory ∈ (generate {} gridDocument "grid.json").factories, Nested factory.code := by
  have hempty : (∅ : OverrideTable).Each Nested := by
    intro key expression hfind
    cases Std.ExtTreeMap.getElem?_empty.symm.trans hfind
  have hcell : Nested "Cell" := by decide
  have hgrid : gridClass.Each Nested := by
    refine ⟨by decide, ?_, OverrideTable.each_ofEntries (by decide), hempty⟩
    intro field hfield
    simp only [gridClass, List.mem_cons, List.not_mem_nil, or_false] at hfield
    rcases hfield with rfl | rfl
    · exact ⟨by decide, trivial⟩
    · exact ⟨by decide, hcell⟩
  have hclasses : ∀ declaration ∈ gridDocument.declarations, declaration.kind = .classLike →
      declaration.Each Nested := by
    intro declaration hdeclaration hkind
    simp only [gridDocument, List.mem_cons, List.not_mem_nil, or_false] at hdeclaration
    rcases hdeclaration with rfl | rfl
    · exact hgrid
    · cases hkind
  obtain ⟨hfactory, hruns⟩ := generate_keeps_brackets_nested
  refine ⟨hgrid, ?_, by decide +kernel, (hruns {} gridDocument "grid.json" hempty hclasses).1⟩
  exact (hfactory (gridClass.overrides ∅) .millennium gridClass.name gridClass.fields hgrid.name
    hgrid.fields ⟨hgrid.fieldDefaults, hgrid.classDefaults, hempty⟩).1

end ModelFactory
