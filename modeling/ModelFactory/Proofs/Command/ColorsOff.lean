import ModelFactory.Proofs.Command.AllOrNothing
import ModelFactory.Proofs.Command.Listing
import ModelFactory.Proofs.Command.Painted
import ModelFactory.Proofs.Factory.Texts
import ModelFactory.Proofs.Table.Characters

/-!
# Escape characters without colours

Without colours a piece of the output is still painted, in the colour that the terminal starts with,
so there are two escape sequences in every painted piece (`Command.Coloring.hasEscape_paint`). Which
runs print an escape character is therefore told by which runs paint anything
(`Command.escapes_printed_iff`): generating does so unless it is quiet or has no path to write to,
and so does each declaration that is told or skipped. The report of a fault is not painted, so it
holds one exactly if what failed or one of the causes does (`Command.RunFault.hasEscape_report`). A
table that goes to no terminal is not painted, and where the texts of the declarations and the type
defaults hold no escape character, there is none in it (`Command.tableText_defaultColumns_plain`).
-/

set_option autoImplicit false

namespace ModelFactory.Command

open Files (FileAccess FileError Store)
open Text (escapeChar)

/-- There is an escape character in the text. -/
def HasEscape (text : String) : Prop := escapeChar ∈ text.toList

instance (text : String) : Decidable (HasEscape text) :=
  inferInstanceAs (Decidable (escapeChar ∈ text.toList))

theorem hasEscape_append {text other : String} :
    HasEscape (text ++ other) ↔ HasEscape text ∨ HasEscape other := by
  simp [HasEscape]

theorem hasEscape_lined {lines : List String} :
    HasEscape (lined lines) ↔ ∃ line ∈ lines, HasEscape line := by
  induction lines with
  | nil => simp [HasEscape]
  | cons line rest ih =>
    have hnewline : ¬ HasEscape "\n" := by decide
    rw [lined_cons, hasEscape_append, hasEscape_append, ih]
    simp [hnewline]

/-! ## What is painted -/

/-- In every painted piece there are escape characters. -/
theorem Coloring.hasEscape_paint (coloring : Coloring) (role : Role) (piece : String) :
    HasEscape (coloring.paint role piece) := by
  have hclosing : HasEscape coloring.closing := by
    cases coloring with
    | colored theme => exact hasEscape_append.2 (.inl (by decide))
    | reset => decide
    | refused => decide
  exact hasEscape_append.2 (.inr hclosing)

/-- Without colours, the two sequences around a piece are one and the same. -/
theorem Environment.exists_paint_of_not_usesColor {environment : Environment}
    {invocation : Invocation} (h : environment.usesColor invocation.color = false) :
    ∃ sequence ∈ ["\x1b[39m", "\x1b[m"], ∀ role piece,
      (environment.coloring invocation).paint role piece = sequence ++ piece ++ sequence := by
  -- With `NO_COLOR` the sequence is the short one.
  simp only [Environment.coloring, h]
  cases environment.noColor.any (· != "") with
  | true => exact ⟨"\x1b[m", by simp, fun role piece => rfl⟩
  | false => exact ⟨"\x1b[39m", by simp, fun role piece => rfl⟩

namespace Reporter

variable (reporter : Reporter)

theorem hasEscape_say {lines : List String} :
    HasEscape (reporter.say lines) ↔ reporter.quiet = false ∧ ∃ line ∈ lines, HasEscape line := by
  have hnothing : ¬ HasEscape "" := by decide
  rw [say]
  cases reporter.quiet with
  | true => simp [hnothing]
  | false => simp [hasEscape_lined]

theorem hasEscape_step (message : String) : HasEscape (reporter.step message) :=
  hasEscape_append.2 (.inr (reporter.coloring.hasEscape_paint .primary message))

theorem hasEscape_notice (word message : String) : HasEscape (reporter.notice word message) :=
  hasEscape_append.2 (.inr (reporter.coloring.hasEscape_paint .primary message))

/-- A run that is not quiet paints its first line. -/
theorem hasEscape_say_loading (input : String) (rest : List String) :
    HasEscape (reporter.say (reporter.loading input ++ rest)) ↔ reporter.quiet = false := by
  rw [hasEscape_say]
  constructor
  · exact fun h => h.1
  · intro h
    exact ⟨h, _, List.mem_cons_self, reporter.hasEscape_step _⟩

/-- Notices are painted, so there is an escape character exactly if there is one of them. -/
theorem hasEscape_notices {α : Type} (word : String) (message : α → String) (items : List α) :
    (∃ line ∈ items.map (fun item => reporter.notice word (message item)), HasEscape line) ↔
      items ≠ [] := by
  cases items with
  | nil => simp
  | cons item rest =>
    constructor
    · exact fun _ => List.cons_ne_nil item rest
    · exact fun _ => ⟨_, List.mem_cons_self, reporter.hasEscape_notice word _⟩

theorem hasEscape_failures (output : GenerationOutput) :
    HasEscape (lined (reporter.failures output)) ↔ output.failures ≠ [] := by
  have hempty : ¬ HasEscape "" := by decide
  rw [hasEscape_lined, ← reporter.hasEscape_notices "Error:" GenerationError.message, failures]
  -- The empty line in front of the notices holds no escape character.
  cases output.failures with
  | nil => simp [paragraph]
  | cons error rest => simp [paragraph, hempty]

end Reporter

/-! ## What is told of a fault -/

/-- A fault is told with an escape character: what failed holds one, or a cause does. -/
def RunFault.EscapeTold (wording : Wording) (fault : RunFault) : Prop :=
  HasEscape fault.context ∨ ∃ cause ∈ fault.causes wording, HasEscape cause

theorem not_hasEscape_toString (number : Nat) : ¬ HasEscape (toString number) :=
  Text.notMem_toString (by decide) number

/-- The place in a JSON text is told in digits. -/
theorem Wording.hasEscape_json (wording : Wording) (text : String) (fault : Json.Fault) :
    HasEscape (wording.json text fault) ↔ HasEscape fault.message := by
  have hline : ¬ HasEscape " at line " := by decide
  have hcolumn : ¬ HasEscape " column " := by decide
  simp only [json]
  split
  · rfl
  · simp only [hasEscape_append, hline, hcolumn, not_hasEscape_toString, or_false]

/-- Margins without escape characters leave those of the text. -/
theorem hasEscape_margined {first further : String} (hfirst : ¬ HasEscape first)
    (hfurther : ¬ HasEscape further) (text : String) :
    (∃ line ∈ margined first further text, HasEscape line) ↔ HasEscape text := by
  have hparts : (∀ part ∈ Text.partsBetween '\n' text.toList, escapeChar ∉ part) ↔
      ¬ HasEscape text := by
    have heach : Text.EachChar (· ≠ escapeChar) (Text.partsBetween '\n' text.toList) ↔
        ∀ char ∈ text.toList, char ≠ escapeChar := Text.eachChar_partsBetween_iff (by decide)
    simpa only [Text.EachChar, HasEscape, ne_eq, List.forall_mem_ne'] using heach
  have hpart (part : List Char) : HasEscape (String.ofList part) ↔ escapeChar ∈ part := by
    rw [HasEscape, String.toList_ofList]
  rw [← not_iff_not, ← hparts, margined]
  cases hsplit : Text.partsBetween '\n' text.toList with
  | nil => exact absurd hsplit (Text.partsBetween_ne_nil _ _)
  | cons part rest =>
    simp [hasEscape_append, hfirst, hfurther, hpart]

theorem not_hasEscape_numberMargin (number : Nat) : ¬ HasEscape (numberMargin number) := by
  have hcolon : ¬ HasEscape ": " := by decide
  have hblanks (count : Nat) : ¬ HasEscape (String.ofList (List.replicate count ' ')) := by
    rw [HasEscape, String.toList_ofList, List.mem_replicate]
    exact fun h => absurd h.2 (by decide)
  simp only [numberMargin, hasEscape_append, hcolon, hblanks, not_hasEscape_toString, or_false,
    not_false_iff]

theorem hasEscape_causeLines (causes : List String) :
    (∃ line ∈ causeLines causes, HasEscape line) ↔ ∃ cause ∈ causes, HasEscape cause := by
  have hempty : ¬ HasEscape "" := by decide
  have hword : ¬ HasEscape "Caused by:" := by decide
  have hmargin : ¬ HasEscape "    " := by decide
  have hnumbered (number : Nat) (cause : String) :=
    hasEscape_margined (not_hasEscape_numberMargin number)
      (show ¬ HasEscape "       " by decide) cause
  -- Each cause has its number, which adds nothing.
  have hlines (causes : List String) :
      (∃ line ∈ causes.zipIdx.flatMap fun numbered =>
        margined (numberMargin numbered.2) "       " numbered.1, HasEscape line) ↔
      ∃ cause ∈ causes, HasEscape cause := by
    constructor
    · rintro ⟨line, hline, hescape⟩
      obtain ⟨⟨cause, number⟩, hcause, hline⟩ := List.mem_flatMap.1 hline
      exact ⟨cause, List.fst_mem_of_mem_zipIdx hcause,
        (hnumbered number cause).1 ⟨line, hline, hescape⟩⟩
    · rintro ⟨cause, hcause, hescape⟩
      obtain ⟨number, hnumber⟩ := List.mem_iff_getElem?.1 hcause
      obtain ⟨line, hline, hescape⟩ := (hnumbered number cause).2 hescape
      refine ⟨line, List.mem_flatMap.2 ⟨(cause, number), ?_, hline⟩, hescape⟩
      exact List.mem_zipIdx_iff_getElem?.2 hnumber
  cases causes with
  | nil => simp [causeLines]
  | cons cause rest =>
    cases rest with
    | nil =>
      have hsingle := hasEscape_margined hmargin hmargin cause
      simpa [causeLines, hempty, hword] using hsingle
    | cons next rest =>
      rw [← hlines (cause :: next :: rest)]
      simp only [causeLines, List.mem_cons, exists_eq_or_imp, hempty, hword, false_or]

/-- The report of a fault is not painted. -/
theorem RunFault.hasEscape_report (wording : Wording) (fault : RunFault) :
    HasEscape (lined (fault.report wording)) ↔ fault.EscapeTold wording := by
  have hword : ¬ HasEscape "Error: " := by decide
  rw [hasEscape_lined, report, EscapeTold, ← hasEscape_causeLines (fault.causes wording)]
  simp [hasEscape_append, hword]

theorem hasEscape_failed (wording : Wording) (fault : RunFault) (output errors : String) :
    HasEscape (Outcome.failed wording fault output errors).errors ↔
      HasEscape errors ∨ fault.EscapeTold wording := by
  rw [Outcome.failed, hasEscape_append, fault.hasEscape_report]

theorem not_escapeTold_declarationsFailed (wording : Wording) (count : Nat) :
    ¬ (RunFault.declarationsFailed count).EscapeTold wording := by
  have hwords : ¬ HasEscape " element(s) could not be generated" := by decide
  rintro (hcontext | ⟨cause, hcause, -⟩)
  · rw [RunFault.context, hasEscape_append] at hcontext
    exact hcontext.elim (not_hasEscape_toString count) hwords
  · cases hcause

/-! ## What is told of the work -/

namespace WorkEnd

/-- The work ended with declarations to tell that have no factory. -/
def TellsFailures : WorkEnd → Prop
  | written _ output => output.failures ≠ []
  | _ => False

instance : DecidablePred TellsFailures := fun finish =>
  match finish with
  | noPath _ => inferInstanceAs (Decidable False)
  | notLoaded _ => inferInstanceAs (Decidable False)
  | notWritten _ _ _ => inferInstanceAs (Decidable False)
  | written _ output => inferInstanceAs (Decidable (output.failures ≠ []))

/-- Why the work ended before everything was written. -/
def fault? : WorkEnd → Option RunFault
  | noPath fault => some fault
  | notLoaded fault => some fault
  | notWritten _ _ error => some (.notWritten error)
  | written _ _ => none

/-- There was a path to write to. -/
def HasPath : WorkEnd → Prop
  | noPath _ => False
  | _ => True

variable (reporter : Reporter) (options : GenerateOptions)

/-- Whatever is told to the standard output starts with a painted line. -/
theorem hasEscape_output (finish : WorkEnd) :
    HasEscape (finish.told reporter options).output ↔
      reporter.quiet = false ∧ finish.HasPath := by
  cases finish with
  | noPath fault =>
    have hnothing : ¬ HasEscape "" := by decide
    simp [told, Outcome.failed, HasPath, hnothing]
  | notLoaded fault =>
    have hloading := reporter.hasEscape_say_loading options.input []
    rw [List.append_nil] at hloading
    simpa [told, Outcome.failed, HasPath] using hloading
  | notWritten path output error =>
    have hloading := reporter.hasEscape_say_loading options.input
    simpa [told, Outcome.failed, HasPath, Reporter.beforeWriting] using hloading _
  | written path output =>
    have hprinted : HasEscape (reporter.say (reporter.beforeWriting options path output ++
        reporter.afterWriting options path output)) ↔ reporter.quiet = false := by
      rw [Reporter.beforeWriting, List.append_assoc]
      exact reporter.hasEscape_say_loading options.input _
    simp only [told, finished]
    split
    -- Some declarations have no factory: then the run ends without the lines of a success.
    · simpa [Outcome.failed, HasPath] using hprinted
    · rw [hasEscape_append, hprinted, reporter.hasEscape_say]
      simp only [HasPath, and_true]
      exact or_iff_left_of_imp fun h => h.1

/-- To the standard error are told the declarations without a factory, which are painted, and the
report of a fault, which is not. -/
theorem hasEscape_errors (finish : WorkEnd) :
    HasEscape (finish.told reporter options).errors ↔
      finish.TellsFailures ∨
        ∃ fault, finish.fault? = some fault ∧ fault.EscapeTold reporter.wording := by
  have hstopped (fault : RunFault) (output : String) :
      HasEscape (Outcome.failed reporter.wording fault output "").errors ↔
        False ∨ ∃ other, some fault = some other ∧ other.EscapeTold reporter.wording := by
    rw [hasEscape_failed]
    simp [show ¬ HasEscape "" by decide]
  cases finish with
  | noPath fault => exact hstopped fault _
  | notLoaded fault => exact hstopped fault _
  | notWritten path output error => exact hstopped (.notWritten error) _
  | written path output =>
    have hfailures := reporter.hasEscape_failures output
    simp only [told, finished, TellsFailures, fault?, reduceCtorEq, false_and, exists_false,
      or_false]
    split
    · rw [hasEscape_failed, hfailures]
      exact or_iff_left (not_escapeTold_declarationsFailed _ _)
    · exact hfailures

/-- There is a path to write to if the options give one. -/
theorem hasPath_work {σ : Type} [FileAccess (StateM σ)] (state : σ) :
    ((work options : StateM σ WorkEnd) state).1.HasPath ↔
      ∃ path, options.outputPath = .ok path := by
  unfold work
  cases options.outputPath with
  | error fault =>
    constructor
    · intro h
      cases h
    · rintro ⟨path, hpath⟩
      cases hpath
  | ok path =>
    simp only [Except.ok.injEq, exists_eq', iff_true, bind, StateT.bind]
    generalize (loadInputs options.input options.defaults.config options.defaults.typeDefaults :
      StateM σ _) state = loaded
    obtain ⟨loaded, after⟩ := loaded
    cases loaded with
    | error fault => exact trivial
    | ok loaded =>
      simp only [workLoaded, bind, StateT.bind]
      generalize (writeOutput options.mode path (generate (loaded.2.settings options.header)
        loaded.1 options.input) : StateM σ (Except FileError Unit)) after = written
      obtain ⟨written, last⟩ := written
      cases written with
      | error error => exact trivial
      | ok done => exact trivial

end WorkEnd

/-! ## What is told of a list -/

/-- A table holds an escape character only if a title or a cell does. -/
theorem tableText_plain (width : Nat) {columns : List Table.Column}
    (h : ∀ column ∈ columns, ¬ HasEscape column.title ∧ ∀ cell ∈ column.cells, ¬ HasEscape cell) :
    ¬ HasEscape (Table.tableText width columns) := by
  have hchars {text : String} (htext : ¬ HasEscape text) :
      ∀ char ∈ text.toList, char ≠ escapeChar := by
    rintro char hchar rfl
    exact htext hchar
  have hall : ∀ char ∈ (Table.tableText width columns).toList, char ≠ escapeChar := by
    refine Table.tableText_each (by decide) (by decide) (by decide) width ?_
    intro column hcolumn
    obtain ⟨htitle, hcells⟩ := h column hcolumn
    exact ⟨hchars htitle, fun cell hcell => hchars (hcells cell hcell)⟩
  exact fun hescape => hall escapeChar hescape rfl

/-- The table of a list holds an escape character only if a text of its definitions does. -/
theorem tableText_defaultColumns_plain (width : Nat) {definitions : List FactoryDefinition}
    (h : ∀ definition ∈ definitions, definition.Each fun text => ¬ HasEscape text) :
    ¬ HasEscape (Table.tableText width (defaultColumns definitions)) := by
  have hcells (cellOf : FactoryDefinition → FactoryParameter → String)
      (hcell : ∀ definition ∈ definitions, ∀ parameter ∈ definition.parameters,
        ¬ HasEscape (cellOf definition parameter)) :
      ∀ cell ∈ definitions.flatMap (fun definition => definition.parameters.map
        (cellOf definition)), ¬ HasEscape cell := by
    intro cell hcellMem
    obtain ⟨definition, hdefinition, hcellMem⟩ := List.mem_flatMap.1 hcellMem
    obtain ⟨parameter, hparameter, rfl⟩ := List.mem_map.1 hcellMem
    exact hcell definition hdefinition parameter hparameter
  have hsource (source : DefaultSource) : ¬ HasEscape source.label := by
    cases source <;> decide
  apply tableText_plain
  intro column hcolumn
  simp only [defaultColumns, List.mem_cons, List.not_mem_nil, or_false] at hcolumn
  rcases hcolumn with rfl | rfl | rfl | rfl | rfl
  · refine ⟨show ¬ HasEscape "MODEL" by decide, hcells _ ?_⟩
    exact fun definition hdefinition _ _ => (h definition hdefinition).model
  · refine ⟨show ¬ HasEscape "FIELD" by decide, hcells _ ?_⟩
    exact fun definition hdefinition parameter hparameter =>
      ((h definition hdefinition).parameters parameter hparameter).1
  · refine ⟨show ¬ HasEscape "TYPE" by decide, hcells _ ?_⟩
    exact fun definition hdefinition parameter hparameter =>
      ((h definition hdefinition).parameters parameter hparameter).2.1
  · refine ⟨show ¬ HasEscape "DEFAULT" by decide, hcells _ ?_⟩
    exact fun definition hdefinition parameter hparameter =>
      ((h definition hdefinition).parameters parameter hparameter).2.2
  · refine ⟨show ¬ HasEscape "SOURCE" by decide, hcells _ ?_⟩
    exact fun _ _ parameter _ => hsource parameter.source

/-- What a run that lists has loaded holds no escape character. -/
def LoadedPlain (loaded : Except RunFault (Document × ProjectConfig)) : Prop :=
  ∀ document config, loaded = .ok (document, config) →
    (∀ declaration ∈ document.declarations, declaration.Each fun text => ¬ HasEscape text) ∧
      config.typeDefaults.Each fun text => ¬ HasEscape text

theorem toldList_output_plain (reporter : Reporter) (width : Nat)
    {loaded : Except RunFault (Document × ProjectConfig)} (h : LoadedPlain loaded) :
    ¬ HasEscape (toldList reporter width loaded).output := by
  cases loaded with
  | error fault =>
    show ¬ HasEscape ""
    decide
  | ok loaded =>
    obtain ⟨document, config⟩ := loaded
    obtain ⟨hdeclarations, htable⟩ := h document config rfl
    show ¬ HasEscape (lined [Table.tableText width (defaultColumns
      (resolveAll (config.settings false) document).1)])
    rw [hasEscape_lined, resolveAll_eq]
    rintro ⟨line, hline, hescape⟩
    rw [List.mem_singleton.1 hline] at hescape
    refine tableText_defaultColumns_plain width ?_ hescape
    intro definition hdefinition
    obtain ⟨declaration, hdeclaration, rfl⟩ := List.mem_map.1 hdefinition
    have heach := hdeclarations declaration (List.mem_of_mem_filter hdeclaration)
    exact FactoryDefinition.each_ofFields (keptInFactory_notMem (by decide)) _ heach.name
      heach.fields ⟨heach.fieldDefaults, heach.classDefaults, htable⟩

/-- Declarations that are skipped are told in paint, and the report of a fault is not. -/
theorem hasEscape_toldList_errors (reporter : Reporter) (width : Nat)
    (loaded : Except RunFault (Document × ProjectConfig)) :
    HasEscape (toldList reporter width loaded).errors ↔
      (∃ document config, loaded = .ok (document, config) ∧
        ∃ declaration ∈ document.declarations, declaration.kind ≠ .classLike) ∨
      ∃ fault, loaded = .error fault ∧ fault.EscapeTold reporter.wording := by
  cases loaded with
  | error fault =>
    simp only [toldList]
    rw [hasEscape_failed]
    simp [show ¬ HasEscape "" by decide]
  | ok loaded =>
    obtain ⟨document, config⟩ := loaded
    simp only [toldList, listLoaded]
    rw [hasEscape_lined, reporter.hasEscape_notices, resolveAll_eq]
    simp [othersOf, List.filter_eq_nil_iff]

/-! ## Whole runs -/

/-- Without colours every piece that is painted stands between two escape sequences that say
nothing. So generating prints an escape character to the standard output unless it is quiet or has
no path to write to, and to the standard error if it tells declarations without a factory. Listing
prints one to the standard error if it skips a declaration. To the standard output, if that is no
terminal, it prints none where nothing that it has loaded holds one. What failed and what it came of
is printed as it is. -/
theorem escapes_printed_iff {σ : Type} [FileAccess (StateM σ)] (environment : Environment)
    {arguments : List String} {invocation : Invocation}
    (hread : readInvocation arguments = .ok invocation)
    (hoff : environment.usesColor invocation.color = false) (state : σ) :
    let outcome := ((run environment arguments : StateM σ Outcome) state).1
    (∃ sequence ∈ ["\x1b[39m", "\x1b[m"], ∀ role piece,
      (environment.coloring invocation).paint role piece = sequence ++ piece ++ sequence) ∧
    (∀ options, invocation.request = .generate options →
      let finish := ((work options : StateM σ WorkEnd) state).1
      (HasEscape outcome.output ↔
        options.quiet = false ∧ ∃ path, options.outputPath = .ok path) ∧
      (HasEscape outcome.errors ↔ finish.TellsFailures ∨
        ∃ fault, finish.fault? = some fault ∧ fault.EscapeTold environment.wording)) ∧
    (∀ options, invocation.request = .list options →
      let loaded := ((loadInputs options.input options.defaults.config
        options.defaults.typeDefaults : StateM σ _) state).1
      (HasEscape outcome.errors ↔
        (∃ document config, loaded = .ok (document, config) ∧
          ∃ declaration ∈ document.declarations, declaration.kind ≠ .classLike) ∨
        ∃ fault, loaded = .error fault ∧ fault.EscapeTold environment.wording) ∧
      (environment.onTerminal = false → LoadedPlain loaded → ¬ HasEscape outcome.output)) := by
  intro outcome
  have houtcome : outcome = ((invocation.run environment : StateM σ Outcome) state).1 := by
    simp only [outcome, run, hread]
  rw [houtcome]
  refine ⟨Environment.exists_paint_of_not_usesColor hoff, ?_, ?_⟩
  · intro options hrequest finish
    simp only [Invocation.run, hrequest, runGenerate_eq]
    let reporter := options.reporter environment (environment.coloring invocation)
    constructor
    · rw [← WorkEnd.hasPath_work options state]
      exact finish.hasEscape_output reporter options
    · exact finish.hasEscape_errors reporter options
  · intro options hrequest loaded
    simp only [Invocation.run, hrequest, runList_eq]
    let reporter := listReporter environment (environment.coloring invocation)
    refine ⟨hasEscape_toldList_errors reporter environment.width loaded, ?_⟩
    exact fun _ hplain => toldList_output_plain reporter environment.width hplain

/-- A descriptor with a field of an unknown primitive, the word for which is written with the code of
the escape character. -/
def codedText : String :=
  "\x7b\"classes\":[\x7b\"name\":\"User\",\"fields\":[\x7b\"name\":\"id\"," ++
    "\"type\":\x7b\"primitive\":\"\\u001b[31m\"\x7d\x7d]\x7d]\x7d"

/-- That descriptor stands in the working directory. -/
def codedStore : Store := workStore.put ["work", "m.json"] (.file codedText.toUTF8)

/-- The fault of that descriptor. -/
def codedFault : Json.Fault :=
  .data (.unknownVariant "\x1b[31m" (Primitive.spellings.map (·.1)))

/-- An environment in which the fault is told with its place, the end of the unknown word. -/
def codedEnvironment : Environment where
  clock := "[12:00:00]"
  wording := { jsonPosition := fun _ _ => (1, 82) }

/-- Without colours, generating from `mixedText` prints escape characters to both outputs, and
listing does to the standard error alone. A quiet run over `codedText`, which holds none, tells the
unknown word in the cause of its fault. -/
theorem mixed_escapes_told :
    let environment : Environment := { clock := "[12:00:00]" }
    let generated := ((run environment (mixedArguments ++ ["--color", "never"]) :
      StateM Store Outcome) mixedStore).1
    let listed := ((run environment ["list", "-i", "m.json", "--color", "never"] :
      StateM Store Outcome) mixedStore).1
    let refused := ((run codedEnvironment (mixedArguments ++ ["--color", "never", "-q"]) :
      StateM Store Outcome) codedStore).1
    (HasEscape generated.output ∧ HasEscape generated.errors) ∧
      (HasEscape listed.errors ∧ ¬ HasEscape listed.output) ∧
      ¬ HasEscape codedText ∧ ¬ HasEscape refused.output ∧ HasEscape refused.errors := by
  intro environment generated listed refused
  refine ⟨?_, ?_, by decide, ?_⟩
  · have hread : readInvocation (mixedArguments ++ ["--color", "never"]) =
        .ok ⟨.generate mixedOptions, .never, .auto⟩ := by rfl
    obtain ⟨-, hgenerate, -⟩ := escapes_printed_iff environment hread rfl mixedStore
    obtain ⟨houtput, herrors⟩ := hgenerate mixedOptions rfl
    have hfailures : ((work mixedOptions : StateM Store WorkEnd)
        mixedStore).1.TellsFailures := by decide +kernel
    exact ⟨houtput.2 ⟨rfl, "out/all.dart", rfl⟩, herrors.2 (.inl hfailures)⟩
  · have hread : readInvocation ["list", "-i", "m.json", "--color", "never"] =
        .ok ⟨.list ⟨"m.json", {}⟩, .never, .auto⟩ := by rfl
    obtain ⟨-, -, hlist⟩ := escapes_printed_iff environment hread rfl mixedStore
    obtain ⟨herrors, houtput⟩ := hlist ⟨"m.json", {}⟩ rfl
    have hload : ((loadInputs "m.json" none [] : StateM Store _) mixedStore).1 =
        .ok (mixed, {}) := congrArg Prod.fst (loadInputs_of_loads loads_mixed.inputs)
    constructor
    · exact herrors.2 (.inl ⟨mixed, {}, hload, by decide⟩)
    · apply houtput rfl
      intro document config hloaded
      cases hload.symm.trans hloaded
      refine ⟨?_, OverrideTable.each_empty⟩
      have hplain (name : String) (kind : DeclarationKind) (hname : ¬ HasEscape name) :
          Declaration.Each (fun text => ¬ HasEscape text) { name, kind } := by
        refine ⟨hname, ?_, OverrideTable.each_empty, OverrideTable.each_empty⟩
        exact fun _ hfield => absurd hfield List.not_mem_nil
      intro declaration hdeclaration
      simp only [mixed, List.mem_cons, List.not_mem_nil, or_false] at hdeclaration
      rcases hdeclaration with rfl | rfl
      · exact hplain "User" .classLike (by decide)
      · exact hplain "Both" .mixin (by decide)
  · let options : GenerateOptions := { mixedOptions with quiet := true }
    have hread : readInvocation (mixedArguments ++ ["--color", "never", "-q"]) =
        .ok ⟨.generate options, .never, .auto⟩ := by rfl
    obtain ⟨-, hgenerate, -⟩ := escapes_printed_iff codedEnvironment hread rfl codedStore
    obtain ⟨houtput, herrors⟩ := hgenerate options rfl
    have hfault : ((work options : StateM Store WorkEnd) codedStore).1.fault? =
        some (.descriptor (.invalid codedText (.json codedFault))) := by decide +kernel
    have hcause : HasEscape (codedEnvironment.wording.json codedText codedFault) := by
      rw [Wording.hasEscape_json]
      decide +kernel
    refine ⟨?_, herrors.2 (.inr ⟨_, hfault, .inr ⟨_, List.mem_singleton_self _, hcause⟩⟩)⟩
    rw [houtput]
    exact fun h => absurd h.1 (by decide)

/-- No argument and no text that is read holds an escape character, and colours are off. The lines
of a run that is not quiet hold some nevertheless, and so does the failure that a quiet run
tells. -/
theorem plain_input_escapes_printed :
    let environment : Environment := { clock := "[12:00:00]" }
    let arguments := mixedArguments ++ ["--color", "never"]
    let told := ((run environment arguments : StateM Store Outcome) mixedStore).1
    let quiet := ((run environment (arguments ++ ["-q"]) : StateM Store Outcome) mixedStore).1
    (∀ argument ∈ arguments ++ ["-q"], ¬ HasEscape argument) ∧ ¬ HasEscape mixedText ∧
      readInvocation arguments = .ok ⟨.generate mixedOptions, .never, .auto⟩ ∧
      readInvocation (arguments ++ ["-q"]) =
        .ok ⟨.generate { mixedOptions with quiet := true }, .never, .auto⟩ ∧
      HasEscape told.output ∧ quiet.output = "" ∧ HasEscape quiet.errors := by
  intro environment arguments told quiet
  have hread : readInvocation arguments = .ok ⟨.generate mixedOptions, .never, .auto⟩ := by rfl
  have htold : HasEscape told.output := by
    simp only [told, run, hread, Invocation.run, runGenerate_eq]
    refine (WorkEnd.hasEscape_output _ mixedOptions _).2 ⟨rfl, ?_⟩
    exact (WorkEnd.hasPath_work mixedOptions mixedStore).2 ⟨"out/all.dart", rfl⟩
  have hquiet : HasEscape quiet.errors := by decide +kernel
  exact ⟨by decide, by decide, hread, rfl, htold, by decide +kernel, hquiet⟩

end ModelFactory.Command
