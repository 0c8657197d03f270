import ModelFactory.Factory.Code
import ModelFactory.Proofs.Text.Lines

/-!
# The lines of a factory

The text of a factory is a list of lines (`FactoryDefinition.code_eq_lined`): five of them without
parameters, and with parameters seven and two more for each, one that declares it and one that
passes it on (`FactoryDefinition.length_lines`). None is blank, and if nothing in the definition
holds a newline, each is written on one line.
-/

set_option autoImplicit false

namespace ModelFactory

open Command (lined lined_cons lined_append)

namespace FactoryDefinition

/-- The lines of a factory without parameters. -/
def linesWithout (name model : String) : List String :=
  ["class " ++ name ++ " \x7b", "  static " ++ model ++ " build() \x7b",
    "    return " ++ model ++ "();", "  \x7d", "\x7d"]

/-- The lines of a factory that stand in front of those that declare the parameters. -/
def linesBefore (name model : String) : List String :=
  ["class " ++ name ++ " \x7b", "  static " ++ model ++ " build(\x7b"]

/-- The lines between those that declare the parameters and those that pass them on. -/
def linesBetween (model : String) : List String :=
  ["  \x7d) \x7b", "    return " ++ model ++ "("]

/-- The lines behind those that pass the parameters on. -/
def linesAfter : List String := ["    );", "  \x7d", "\x7d"]

/-- The lines of a factory. -/
def lines (definition : FactoryDefinition) : List String :=
  match definition.parameters with
  | [] => linesWithout definition.name definition.model
  | parameters =>
    linesBefore definition.name definition.model ++ parameters.map FactoryParameter.signatureLine
      ++ linesBetween definition.model ++ parameters.map FactoryParameter.argumentLine ++ linesAfter

variable {definition : FactoryDefinition}

theorem lines_of_nil (h : definition.parameters = []) :
    definition.lines = linesWithout definition.name definition.model := by
  unfold lines
  rw [h]

theorem lines_of_ne_nil (h : definition.parameters ≠ []) :
    definition.lines = linesBefore definition.name definition.model
      ++ definition.parameters.map FactoryParameter.signatureLine
      ++ linesBetween definition.model
      ++ definition.parameters.map FactoryParameter.argumentLine ++ linesAfter := by
  unfold lines
  split
  · contradiction
  · rfl

theorem signature_of_ne_nil (h : definition.parameters ≠ []) :
    definition.signature = "static " ++ definition.model ++ " build(\x7b\n"
      ++ Text.joined "\n" (definition.parameters.map FactoryParameter.signatureLine)
      ++ "\n  \x7d)" := by
  unfold signature
  split
  · contradiction
  · rfl

theorem construction_of_ne_nil (h : definition.parameters ≠ []) :
    definition.construction = definition.model ++ "(\n"
      ++ Text.joined "\n" (definition.parameters.map FactoryParameter.argumentLine)
      ++ "\n    )" := by
  unfold construction
  split
  · contradiction
  · rfl

/-- The text of a factory is its lines. -/
theorem code_eq_lined (definition : FactoryDefinition) :
    definition.code = lined definition.lines := by
  apply String.toList_inj.1
  by_cases h : definition.parameters = []
  · rw [lines_of_nil h]
    simp [code, signature, construction, h, linesWithout, Command.toList_lined]
  · -- The two lists of lines are joined in the text, and end with a newline there.
    have hlines (line : FactoryParameter → String) :
        Text.joined "\n" (definition.parameters.map line) ++ "\n" =
          lined (definition.parameters.map line) :=
      Text.joined_append_newline (by simpa using h)
    rw [lines_of_ne_nil h, code, signature_of_ne_nil h, construction_of_ne_nil h]
    simp only [lined_append, ← hlines]
    simp [linesBefore, linesBetween, linesAfter, Command.toList_lined]

/-! ## How many lines -/

/-- Five lines without parameters; with parameters seven, and two more for each. -/
theorem length_lines (definition : FactoryDefinition) :
    definition.lines.length = if definition.parameters.length = 0 then 5
      else 2 * definition.parameters.length + 7 := by
  by_cases h : definition.parameters = []
  · rw [lines_of_nil h, h]
    rfl
  · rw [lines_of_ne_nil h, if_neg (by simpa using h)]
    simp only [linesBefore, linesBetween, linesAfter, List.length_append, List.length_map,
      List.length_cons, List.length_nil]
    omega

theorem lines_ne_nil (definition : FactoryDefinition) : definition.lines ≠ [] := by
  have hlength := definition.length_lines
  intro hnil
  rw [hnil] at hlength
  split at hlength
  · cases hlength
  · cases hlength

/-- The line that declares a parameter and the line that passes it on stand at its own place. -/
theorem getElem?_lines {index : Nat} {parameter : FactoryParameter}
    (h : definition.parameters[index]? = some parameter) :
    definition.lines[2 + index]? = some parameter.signatureLine ∧
      definition.lines[4 + definition.parameters.length + index]? =
        some parameter.argumentLine := by
  have hlt : index < definition.parameters.length := (List.getElem?_eq_some_iff.1 h).1
  have hne : definition.parameters ≠ [] := List.ne_nil_of_length_pos (by omega)
  have hbefore : (linesBefore definition.name definition.model).length = 2 := rfl
  have hbetween : (linesBetween definition.model).length = 2 := rfl
  rw [lines_of_ne_nil hne]
  simp only [List.append_assoc]
  -- In front of the declarations there are two lines, and two more behind them.
  constructor
  · rw [List.getElem?_append_right (by omega), hbefore, Nat.add_sub_cancel_left,
      List.getElem?_append_left (by simpa using hlt), List.getElem?_map, h]
    rfl
  · rw [List.getElem?_append_right (by omega), hbefore, List.getElem?_append_right (by simp; omega),
      List.getElem?_append_right (by simp; omega), hbetween, List.length_map]
    have hindex : 4 + definition.parameters.length + index - 2 - definition.parameters.length - 2 =
        index := by omega
    rw [hindex, List.getElem?_append_left (by simpa using hlt), List.getElem?_map, h]
    rfl

/-- Factories of one name and model that declare the same parameters differ at most in the lines
that pass these on. -/
theorem exists_lines_around_arguments {other : FactoryDefinition}
    (hname : other.name = definition.name) (hmodel : other.model = definition.model)
    (hsignatures : other.parameters.map FactoryParameter.signatureLine =
      definition.parameters.map FactoryParameter.signatureLine) :
    ∃ before after,
      definition.lines =
          before ++ definition.parameters.map FactoryParameter.argumentLine ++ after ∧
        other.lines = before ++ other.parameters.map FactoryParameter.argumentLine ++ after := by
  have hlength := congrArg List.length hsignatures
  rw [List.length_map, List.length_map] at hlength
  by_cases h : definition.parameters = []
  · have hother : other.parameters = [] := List.eq_nil_of_length_eq_zero (by rw [hlength, h]; rfl)
    refine ⟨linesWithout definition.name definition.model, [], ?_, ?_⟩
    · simp [lines_of_nil h, h]
    · simp [lines_of_nil hother, hother, hname, hmodel]
  · have hother : other.parameters ≠ [] := by
      rintro hnil
      rw [hnil] at hlength
      exact h (List.eq_nil_of_length_eq_zero hlength.symm)
    refine ⟨_, linesAfter, lines_of_ne_nil h, ?_⟩
    rw [lines_of_ne_nil hother, hname, hmodel, hsignatures]

/-! ## What holds of every line -/

/-- What holds of the lines around the parameters and of those for each parameter holds of every
line. -/
theorem forall_mem_lines {P : String → Prop}
    (haround : ∀ line ∈ linesWithout definition.name definition.model
      ++ linesBefore definition.name definition.model ++ linesBetween definition.model ++ linesAfter,
      P line)
    (hparameters : ∀ parameter ∈ definition.parameters,
      P parameter.signatureLine ∧ P parameter.argumentLine) :
    ∀ line ∈ definition.lines, P line := by
  intro line hline
  simp only [List.mem_append] at haround
  by_cases h : definition.parameters = []
  · rw [lines_of_nil h] at hline
    exact haround line (.inl (.inl (.inl hline)))
  · rw [lines_of_ne_nil h] at hline
    simp only [List.mem_append, List.mem_map] at hline
    rcases hline with (((hline | ⟨parameter, hparameter, rfl⟩) | hline) |
      ⟨parameter, hparameter, rfl⟩) | hline
    · exact haround line (.inl (.inl (.inr hline)))
    · exact (hparameters parameter hparameter).1
    · exact haround line (.inl (.inr hline))
    · exact (hparameters parameter hparameter).2
    · exact haround line (.inr hline)

/-- No line is blank. -/
theorem ne_blank_of_mem_lines : ∀ line ∈ definition.lines, line ≠ "" := by
  apply forall_mem_lines
  · intro line hline
    simp only [linesWithout, linesBefore, linesBetween, linesAfter, List.mem_append, List.mem_cons,
      List.not_mem_nil, or_false] at hline
    rintro rfl
    simp at hline
  · intro parameter _
    simp [FactoryParameter.signatureLine, FactoryParameter.argumentLine]

end FactoryDefinition

/-- Nothing in the parameter holds a newline. -/
structure FactoryParameter.OneLine (parameter : FactoryParameter) : Prop where
  name : Text.OneLine parameter.name
  type : Text.OneLine parameter.type
  fallback : Text.OneLine parameter.fallback

/-- Nothing in the definition holds a newline. -/
structure FactoryDefinition.OneLine (definition : FactoryDefinition) : Prop where
  name : Text.OneLine definition.name
  model : Text.OneLine definition.model
  parameters : ∀ parameter ∈ definition.parameters, parameter.OneLine

namespace FactoryDefinition

variable {definition : FactoryDefinition}

/-- Then every line of the factory is one. -/
theorem OneLine.lines (h : definition.OneLine) : ∀ line ∈ definition.lines, Text.OneLine line := by
  apply forall_mem_lines
  · simp only [linesWithout, linesBefore, linesBetween, linesAfter, List.cons_append,
      List.nil_append, List.forall_mem_cons, Text.oneLine_append, h.name, h.model, and_true]
    decide
  · intro parameter hparameter
    have hparameter := h.parameters parameter hparameter
    simp only [FactoryParameter.signatureLine, FactoryParameter.argumentLine, Text.oneLine_append,
      hparameter.name, hparameter.type, hparameter.fallback, and_true]
    decide

/-- So the lines can be read off the text. -/
theorem OneLine.lines_code (h : definition.OneLine) :
    Text.lines definition.code = definition.lines := by
  rw [code_eq_lined, Text.lines_lined h.lines]

end FactoryDefinition

end ModelFactory
