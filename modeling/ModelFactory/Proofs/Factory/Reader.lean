import Mathlib.Data.List.Basic
import Mathlib.Data.List.TakeDrop
import ModelFactory.Proofs.Factory.Lines

/-!
# Reading a factory back

`readFactory?` takes the text of a factory apart again: the number of its lines gives the number of
parameters, and the two lines of a parameter give its type, its name and its fallback. It finds what
was written, unless a newline or a space in the wrong place blurs the lines
(`FactoryDefinition.readFactory?_code`). So the text determines the factory, except for the tiers
that gave the fallbacks, which are not written (`FactoryDefinition.code_determines_factory`).
-/

set_option autoImplicit false

namespace ModelFactory

/-! ## Reading parts of a line -/

namespace Text

/-- What stands between a beginning and an end. -/
def between? (start finish text : String) : Option String := do
  let rest ← text.toList.dropPrefix? start.toList
  let middle ← rest.dropSuffix? finish.toList
  return String.ofList middle

/-- What stands in front of the last separator and behind it. -/
def aroundLast? (separator : Char) (text : String) : Option (String × String) :=
  match text.toList.reverse.span (· != separator) with
  | (_, []) => none
  | (after, _ :: before) => some (String.ofList before.reverse, String.ofList after.reverse)

theorem between?_append (start middle finish : String) :
    between? start finish (start ++ middle ++ finish) = some middle := by
  have hstart : (start ++ middle ++ finish).toList.dropPrefix? start.toList =
      some (middle.toList ++ finish.toList) :=
    List.dropPrefix?_eq_some_iff.2 ⟨start.toList, by simp, by simp⟩
  have hfinish : (middle.toList ++ finish.toList).dropSuffix? finish.toList =
      some middle.toList :=
    List.dropSuffix?_eq_some_iff.2 ⟨finish.toList, rfl, by simp⟩
  rw [between?, hstart, Option.bind_eq_bind, Option.bind_some, hfinish]
  simp

/-- A separator is the last one if none is behind it. -/
theorem aroundLast?_append {separator : Char} {after : String} (h : separator ∉ after.toList)
    (before : String) :
    aroundLast? separator (before ++ String.ofList [separator] ++ after) = some (before, after) := by
  -- Gone through from its end, the text has the separator first.
  have hreverse : (before ++ String.ofList [separator] ++ after).toList.reverse =
      after.toList.reverse ++ separator :: before.toList.reverse := by
    simp
  have hafter : ∀ char ∈ after.toList.reverse, (char != separator) = true := by
    intro char hchar
    rw [bne_iff_ne]
    rintro rfl
    exact h (List.mem_reverse.1 hchar)
  unfold aroundLast?
  rw [hreverse, List.span_eq_takeWhile_dropWhile, List.takeWhile_append_of_pos hafter,
    List.dropWhile_append_of_pos hafter]
  simp

end Text

/-! ## The reader -/

/-- A parameter as it is written: without the tier that gave its fallback. -/
structure WrittenParameter where
  name : String
  type : String
  fallback : String
deriving DecidableEq

/-- A factory as it is written. -/
structure WrittenFactory where
  name : String
  model : String
  parameters : List WrittenParameter
deriving DecidableEq

/-- What of a parameter is written. -/
def FactoryParameter.written (parameter : FactoryParameter) : WrittenParameter :=
  ⟨parameter.name, parameter.type, parameter.fallback⟩

/-- What of a factory is written. -/
def FactoryDefinition.written (definition : FactoryDefinition) : WrittenFactory :=
  ⟨definition.name, definition.model, definition.parameters.map (·.written)⟩

/-- Reads a parameter off the line that declares it and the line that passes it on. -/
def readParameter? (signatureLine argumentLine : String) : Option WrittenParameter := do
  let declared ← Text.between? "    " "," signatureLine
  let (type, name) ← Text.aroundLast? ' ' declared
  let fallback ← Text.between? ("      " ++ name ++ ": " ++ name ++ " ?? ") "," argumentLine
  return ⟨name, type, fallback⟩

/-- Reads the parameters off the lines behind the first two: two lines for each parameter and five
more. -/
def readParameters? (lines : List String) : Option (List WrittenParameter) :=
  let count := (lines.length - 5) / 2
  let pairs := (lines.take count).zip ((lines.drop (count + 2)).take count)
  pairs.mapM fun pair => readParameter? pair.1 pair.2

/-- Reads a factory off its lines. Five lines are one without parameters. -/
def readLines? : List String → Option WrittenFactory
  | head :: signature :: rest => do
    let name ← Text.between? "class " " \x7b" head
    if rest.length = 3 then
      let model ← Text.between? "  static " " build() \x7b" signature
      return ⟨name, model, []⟩
    else
      let model ← Text.between? "  static " " build(\x7b" signature
      let parameters ← readParameters? rest
      return ⟨name, model, parameters⟩
  | _ => none

/-- Reads a factory off its text. -/
def readFactory? (text : String) : Option WrittenFactory := readLines? (Text.lines text)

/-! ## What was written is read -/

theorem FactoryParameter.readParameter?_lines {parameter : FactoryParameter}
    (h : ' ' ∉ parameter.name.toList) :
    readParameter? parameter.signatureLine parameter.argumentLine = some parameter.written := by
  have hdeclared : Text.between? "    " "," parameter.signatureLine =
      some (parameter.type ++ " " ++ parameter.name) := by
    rw [← Text.between?_append "    " _ ","]
    simp only [signatureLine, String.append_assoc]
  have hname : Text.aroundLast? ' ' (parameter.type ++ " " ++ parameter.name) =
      some (parameter.type, parameter.name) := Text.aroundLast?_append h parameter.type
  have hfallback : Text.between? ("      " ++ parameter.name ++ ": " ++ parameter.name ++ " ?? ")
      "," parameter.argumentLine = some parameter.fallback := Text.between?_append ..
  simp [readParameter?, hdeclared, hname, hfallback, written]

namespace FactoryDefinition

/-- The definition can be read off its text: nothing in it holds a newline, and no name of a
parameter holds a space. -/
structure Legible (definition : FactoryDefinition) : Prop extends definition.OneLine where
  names : ∀ parameter ∈ definition.parameters, ' ' ∉ parameter.name.toList

variable {definition : FactoryDefinition}

/-- The parameters are read off their lines, one after the other. -/
theorem mapM_readParameter?_lines {parameters : List FactoryParameter}
    (h : ∀ parameter ∈ parameters, ' ' ∉ parameter.name.toList) :
    ((parameters.map FactoryParameter.signatureLine).zip
        (parameters.map FactoryParameter.argumentLine)).mapM
        (fun pair => readParameter? pair.1 pair.2) =
      some (parameters.map (·.written)) := by
  induction parameters with
  | nil => rfl
  | cons parameter rest ih =>
    have hfirst := FactoryParameter.readParameter?_lines (h parameter List.mem_cons_self)
    have hrest := ih fun other hother => h other (List.mem_cons_of_mem _ hother)
    simp only [List.map_cons, List.zip_cons_cons, List.mapM_cons, hfirst, hrest]
    rfl

/-- The parameters are found among the lines behind the first two. -/
theorem readParameters?_lines {parameters : List FactoryParameter}
    (h : ∀ parameter ∈ parameters, ' ' ∉ parameter.name.toList) (model : String) :
    readParameters? (parameters.map FactoryParameter.signatureLine ++ (linesBetween model ++
        (parameters.map FactoryParameter.argumentLine ++ linesAfter))) =
      some (parameters.map (·.written)) := by
  generalize hsignatures : parameters.map FactoryParameter.signatureLine = signatures
  generalize harguments : parameters.map FactoryParameter.argumentLine = arguments
  have hlength : arguments.length = signatures.length := by
    rw [← hsignatures, ← harguments, List.length_map, List.length_map]
  -- Five of the lines are not those of a parameter, and each parameter has two.
  have hcount : ((signatures ++ (linesBetween model ++ (arguments ++ linesAfter))).length - 5) / 2 =
      signatures.length := by
    simp only [List.length_append, linesBetween, linesAfter, List.length_cons, List.length_nil]
    omega
  have hdrop : (signatures ++ (linesBetween model ++ (arguments ++ linesAfter))).drop
      (signatures.length + 2) = arguments ++ linesAfter := by
    rw [← List.append_assoc]
    exact List.drop_left' (by simp [linesBetween])
  simp only [readParameters?, hcount, hdrop, List.take_left' rfl, List.take_left' hlength]
  rw [← hsignatures, ← harguments]
  exact mapM_readParameter?_lines h

/-- A reader finds in the lines of a factory what was written. -/
theorem readLines?_lines (h : ∀ parameter ∈ definition.parameters, ' ' ∉ parameter.name.toList) :
    readLines? definition.lines = some definition.written := by
  have hname : Text.between? "class " " \x7b" ("class " ++ definition.name ++ " \x7b") =
      some definition.name := Text.between?_append ..
  by_cases hnone : definition.parameters = []
  · have hmodel : Text.between? "  static " " build() \x7b"
        ("  static " ++ definition.model ++ " build() \x7b") = some definition.model :=
      Text.between?_append ..
    rw [lines_of_nil hnone]
    simp [linesWithout, readLines?, hname, hmodel, written, hnone]
  · have hmodel : Text.between? "  static " " build(\x7b"
        ("  static " ++ definition.model ++ " build(\x7b") = some definition.model :=
      Text.between?_append ..
    have hparameters := readParameters?_lines h definition.model
    rw [lines_of_ne_nil hnone]
    simp only [linesBefore, List.cons_append, List.nil_append, List.append_assoc]
    generalize hrest : definition.parameters.map FactoryParameter.signatureLine ++
      (linesBetween definition.model ++ (definition.parameters.map FactoryParameter.argumentLine
        ++ linesAfter)) = rest at hparameters ⊢
    -- Behind the first two lines there are more than the three of a factory without parameters.
    have hlength : rest.length ≠ 3 := by
      rw [← hrest]
      simp only [List.length_append, linesBetween, linesAfter, List.length_cons, List.length_nil]
      omega
    simp [readLines?, hname, hmodel, hparameters, hlength, written]

/-- A reader finds in the text of a factory what was written. -/
theorem Legible.readFactory?_code (h : definition.Legible) :
    readFactory? definition.code = some definition.written := by
  rw [readFactory?, h.lines_code, readLines?_lines h.names]

/-- The text of a factory determines its name, its model and its parameters with their types and
fallbacks, in their order, where nothing holds a newline and no name of a parameter a space: a
reader finds them, and no other such factory has the same text. The text has five lines without
parameters and seven and two for each parameter with them. The line that declares a parameter and
the line that passes it on stand each at the parameter's own place and carry its name. -/
theorem code_determines_factory (h : definition.Legible) :
    readFactory? definition.code = some definition.written ∧
    (let lines := Text.lines definition.code
      let count := definition.parameters.length
      lines.length = (if count = 0 then 5 else 2 * count + 7) ∧
      ∀ (index : Nat) (parameter : FactoryParameter),
        definition.parameters[index]? = some parameter →
          lines[2 + index]? = some ("    " ++ parameter.type ++ " " ++ parameter.name ++ ",") ∧
          lines[4 + count + index]? = some ("      " ++ parameter.name ++ ": " ++ parameter.name
            ++ " ?? " ++ parameter.fallback ++ ",")) ∧
    ∀ other : FactoryDefinition, other.Legible → other.code = definition.code →
      other.name = definition.name ∧ other.model = definition.model ∧
        other.parameters.map (fun parameter =>
            (parameter.name, parameter.type, parameter.fallback)) =
          definition.parameters.map (fun parameter =>
            (parameter.name, parameter.type, parameter.fallback)) := by
  refine ⟨h.readFactory?_code, ?_, ?_⟩
  · intro lines count
    have hlines : lines = definition.lines := h.lines_code
    rw [hlines]
    exact ⟨definition.length_lines, fun index parameter hparameter => getElem?_lines hparameter⟩
  · -- The reader answers one text in one way only.
    intro other hother hcode
    have hread := hother.readFactory?_code
    rw [hcode, h.readFactory?_code] at hread
    have hwritten : definition.written = other.written := Option.some.inj hread
    have hparts := congrArg (fun written : WrittenFactory => written.parameters.map
      fun parameter => (parameter.name, parameter.type, parameter.fallback)) hwritten.symm
    simp only [written, List.map_map] at hparts
    exact ⟨congrArg WrittenFactory.name hwritten.symm, congrArg WrittenFactory.model hwritten.symm,
      hparts⟩

/-- A factory whose types and fallbacks hold what stands between them in a line. -/
def blurred : FactoryDefinition where
  name := "PostFactory"
  model := "Post"
  parameters := [
    ⟨"tags", "Map<String, List<int>>?", "tags ?? other: x,", .fieldOverride⟩,
    ⟨"id", "int?", "0", .builtIn⟩]

theorem blurred_code_determines :
    blurred.Legible ∧
      readFactory? blurred.code = some ⟨"PostFactory", "Post",
        [⟨"tags", "Map<String, List<int>>?", "tags ?? other: x,"⟩, ⟨"id", "int?", "0"⟩]⟩ ∧
      (Text.lines blurred.code).length = 11 ∧
      (Text.lines blurred.code)[6]? = some "      tags: tags ?? tags ?? other: x,," := by
  have h : blurred.Legible := by
    refine ⟨⟨by decide, by decide, ?_⟩, by decide⟩
    intro parameter hparameter
    simp only [blurred, List.mem_cons, List.not_mem_nil, or_false] at hparameter
    rcases hparameter with rfl | rfl
    · exact ⟨by decide, by decide, by decide⟩
    · exact ⟨by decide, by decide, by decide⟩
  obtain ⟨hread, ⟨hlength, hlines⟩, -⟩ := code_determines_factory h
  have hline : blurred.parameters[0].argumentLine = "      tags: tags ?? tags ?? other: x,," := by
    decide
  rw [← hline]
  exact ⟨h, hread, hlength, (hlines 0 _ rfl).2⟩

end FactoryDefinition

end ModelFactory
