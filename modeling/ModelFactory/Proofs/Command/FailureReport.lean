import ModelFactory.Proofs.Command.AllOrNothing
import ModelFactory.Proofs.Text.Lines

/-!
# Which runs tell their failures

A run knows the declarations without a factory before it writes anything, but it tells them after
the writing. Where a directory cannot be made or a file cannot be written it ends with that error
alone (`Command.generateLoaded_of_not_written`), and the failures are lost.
`Command.run_tells_failures_iff` says what stands in the standard error in either case: a run with
failures tells them exactly if it writes its output. It fails in any case.
-/

set_option autoImplicit false

namespace ModelFactory.Command

open Files

/-- A paragraph starts with an empty line, which the reason for a failed run does not. -/
theorem reason_ne_paragraph {lines : List String} (hne : lines ≠ []) (reason rest : String) :
    lined ["Error: " ++ reason] ≠ lined (Reporter.paragraph lines) ++ rest := by
  intro h
  have hparagraph : Reporter.paragraph lines = "" :: lines := by
    unfold Reporter.paragraph
    rw [List.isEmpty_eq_false_iff.2 hne]
    rfl
  have hreason : ("Error: " ++ reason).toList = 'E' :: ("rror: ".toList ++ reason.toList) := by
    rw [String.toList_append]
    rfl
  -- One text starts with a letter, the other with the end of a line.
  have hchars := congrArg String.toList h
  rw [String.toList_append, toList_lined, toList_lined, hparagraph, List.flatMap_singleton, hreason]
    at hchars
  cases hchars

/-! ## What a run tells -/

/-- The lines that tell the declarations without a factory, one for each in document order. -/
def failureLines (coloring : Coloring) (document : Document) : List String :=
  (document.declarations.filter fun declaration => declaration.kind ≠ .classLike).map
    fun declaration => coloring.paint .accent "Error:" ++ " " ++ coloring.paint .primary
      ("`" ++ declaration.name ++ "` is a " ++ declaration.kind.described
        ++ "; factories can only be generated for classes")

/-- They tell the failures of the run. -/
theorem failureLines_eq (reporter : Reporter) (settings : GeneratorSettings) (document : Document)
    (sourcePath : String) :
    failureLines reporter.coloring document =
      (generate settings document sourcePath).failures.map fun error =>
        reporter.notice "Error:" error.message := by
  rw [generate_failures, List.map_map]
  rfl

section Runs

variable {before after : Store} {path : String} {options : GenerateOptions} {document : Document}
  {config : ProjectConfig} {environment : Environment}

/-- A run that writes its output tells the failures and how many they are. -/
theorem Loads.errors_of_written (coloring : Coloring)
    (h : Loads before options path document config)
    (hwritten : (writeOutput options.mode path
        (generate (config.settings options.header) document options.input) :
      StateM Store (Except FileError Unit)) before = (.ok (), after)) :
    let result := (runGenerate environment coloring options : StateM Store Outcome) before
    let lines := failureLines coloring document
    result.1.errors = lined (Reporter.paragraph lines) ++
        (if lines = [] then ""
        else lined ["Error: " ++ toString lines.length ++ " element(s) could not be generated"]) ∧
      (result.1.status = 0 ↔ lines = []) := by
  intro result lines
  obtain ⟨printed, hrun⟩ := h.runGenerate_of_written coloring hwritten
  have hlines := failureLines_eq (options.reporter environment coloring)
    (config.settings options.header) document options.input
  have hresult : result = _ := hrun
  have hnil : lines = [] ↔
      (generate (config.settings options.header) document options.input).failures = [] := by
    rw [show lines = _ from hlines, List.map_eq_nil_iff]
  constructor
  · rw [hresult, finished_errors, ← hlines]
    have hlength : lines.length =
        (generate (config.settings options.header) document options.input).failures.length := by
      rw [show lines = _ from hlines, List.length_map]
    simp only [← hnil, ← hlength]
    rfl
  · rw [hresult, finished_status, hnil]

/-- A run that cannot write its output tells why, and fails. -/
theorem Loads.errors_of_not_written (coloring : Coloring)
    (h : Loads before options path document config)
    {error : FileError}
    (hwritten : (writeOutput options.mode path
        (generate (config.settings options.header) document options.input) :
      StateM Store (Except FileError Unit)) before = (.error error, after)) :
    let result := (runGenerate environment coloring options : StateM Store Outcome) before
    result.1.errors = lined ["Error: " ++ error.message] ∧ result.1.status = 1 := by
  intro result
  obtain ⟨printed, hrun⟩ := h.runGenerate_eq coloring
  obtain ⟨told, hfailed⟩ := generateLoaded_of_not_written
    (options.reporter environment coloring) printed hwritten
  have hresult : result = _ := hrun.trans hfailed
  rw [hresult]
  refine ⟨?_, rfl⟩
  show "" ++ lined ["Error: " ++ error.message] = _
  rw [String.empty_append]

end Runs

/-- A run that loads its document and its configuration has a line to tell for every declaration
that is no class, in document order (`failureLines`).

If its output is written the standard error holds these lines after an empty one, and then how many
they are; without such declarations it holds nothing. If a directory cannot be made or a file cannot
be written it holds the reason for that and nothing else. So these lines are told exactly if there
are none or the output is written. The run succeeds only if there are none and the output is
written. -/
theorem run_tells_failures_iff (environment : Environment) {arguments : List String}
    {invocation : Invocation} {options : GenerateOptions} {before : Store} {path : String}
    {document : Document} {config : ProjectConfig}
    (hread : readInvocation arguments = .ok invocation)
    (hrequest : invocation.request = .generate options)
    (hloads : Loads before options path document config) :
    let result := (run environment arguments : StateM Store Outcome) before
    let written := (writeOutput options.mode path
        (generate (config.settings options.header) document options.input) :
      StateM Store (Except FileError Unit)) before
    let lines := failureLines (environment.coloring invocation) document
    (written.1 = .ok () →
      result.1.errors = lined (Reporter.paragraph lines) ++
        if lines = [] then ""
        else lined ["Error: " ++ toString lines.length ++ " element(s) could not be generated"]) ∧
    (∀ error, written.1 = .error error → result.1.errors = lined ["Error: " ++ error.message]) ∧
    ((∃ rest, result.1.errors = lined (Reporter.paragraph lines) ++ rest) ↔
      lines = [] ∨ written.1 = .ok ()) ∧
    (result.1.status = 0 ↔ lines = [] ∧ written.1 = .ok ()) := by
  intro result written lines
  have hrun : result = _ := run_eq_runGenerate environment hread hrequest before
  rw [hrun]
  cases hanswer : written.1 with
  | ok done =>
    have hwritten : written = (.ok (), written.2) := Prod.ext hanswer rfl
    obtain ⟨herrors, hstatus⟩ := hloads.errors_of_written (environment.coloring invocation) hwritten
    refine ⟨fun _ => herrors, ?_, ?_, ?_⟩
    · intro error herror
      cases herror
    · exact ⟨fun _ => .inr rfl, fun _ => ⟨_, herrors⟩⟩
    · rw [hstatus]
      exact ⟨fun hnil => ⟨hnil, rfl⟩, fun h => h.1⟩
  | error error =>
    have hwritten : written = (.error error, written.2) := Prod.ext hanswer rfl
    obtain ⟨herrors, hstatus⟩ :=
      hloads.errors_of_not_written (environment.coloring invocation) hwritten
    refine ⟨?_, ?_, ?_, ?_⟩
    · intro hok
      cases hok
    · intro other hother
      cases hother
      exact herrors
    · constructor
      · rintro ⟨rest, hrest⟩
        left
        by_contra hne
        rw [herrors] at hrest
        exact reason_ne_paragraph hne error.message rest hrest
      · rintro (hnil | hok)
        · exact ⟨_, by rw [hnil]; exact String.empty_append.symm⟩
        · cases hok
    · rw [hstatus]
      constructor
      · intro hzero
        cases hzero
      · rintro ⟨-, hok⟩
        cases hok

/-- Where the output is written the mixin of `mixedText` is told. -/
theorem mixed_failures_told :
    let result := (run { clock := "[12:00:00]" } mixedArguments :
      StateM Store Outcome) mixedStore
    readInvocation mixedArguments = .ok ⟨.generate mixedOptions, .auto, .auto⟩ ∧
      Loads mixedStore mixedOptions "out/all.dart" mixed {} ∧
      result.1.errors = lined ["", Coloring.reset.paint .accent "Error:" ++ " " ++
        Coloring.reset.paint .primary
          "`Both` is a mixin; factories can only be generated for classes"] ++
        lined ["Error: 1 element(s) could not be generated"] ∧
      result.1.status ≠ 0 := by
  intro result
  have hread : readInvocation mixedArguments = .ok ⟨.generate mixedOptions, .auto, .auto⟩ := by
    rfl
  have hok : ((writeOutput .combined "out/all.dart" (generate {} mixed "m.json") :
      StateM Store (Except FileError Unit)) mixedStore).1.isOk = true := by decide +kernel
  obtain ⟨after, hafter⟩ := exists_ok_of_isOk hok
  obtain ⟨htold, -, -, hstatus⟩ := run_tells_failures_iff
    { clock := "[12:00:00]" } hread rfl loads_mixed
  have hwritten : ((writeOutput .combined "out/all.dart" (generate {} mixed "m.json") :
      StateM Store (Except FileError Unit)) mixedStore).1 = .ok () := by rw [hafter]
  refine ⟨hread, loads_mixed, htold hwritten, ?_⟩
  rw [Ne, hstatus]
  rintro ⟨hnil, -⟩
  exact absurd hnil (by decide +kernel)

/-- The same with the working directory in place of the file to write. -/
def directoryArguments : List String := ["generate", "-i", "m.json", "-o", "."]

/-- What is asked for with `directoryArguments`. -/
def directoryOptions : GenerateOptions := { input := "m.json", output := some "." }

/-- The document and the configuration load, and the mixin has no factory, but as the output cannot
be written the standard error does not hold its line. -/
theorem directory_failures_lost :
    let result := (run { clock := "[12:00:00]" } directoryArguments :
      StateM Store Outcome) mixedStore
    readInvocation directoryArguments = .ok ⟨.generate directoryOptions, .auto, .auto⟩ ∧
      Loads mixedStore directoryOptions "." mixed {} ∧
      (generate {} mixed "m.json").failures = [.invalidTarget "Both" .mixin] ∧
      result.1.errors = "Error: Is a directory (os error 21)\n" ∧
      ¬ (GenerationError.invalidTarget "Both" .mixin).message.toList <:+:
        result.1.errors.toList := by
  intro result
  have herrors : result.1.errors = "Error: Is a directory (os error 21)\n" := by decide +kernel
  refine ⟨rfl, ⟨rfl, loads_mixed.inputs⟩, by decide +kernel, herrors, ?_⟩
  rw [herrors]
  decide +kernel

end ModelFactory.Command
