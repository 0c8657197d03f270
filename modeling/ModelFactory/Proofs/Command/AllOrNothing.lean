import ModelFactory.Command.Run
import ModelFactory.Proofs.Command.Loading
import ModelFactory.Proofs.Command.PerClass
import ModelFactory.Proofs.Files.Directories
import ModelFactory.Proofs.Files.Reading

/-!
# All or nothing

A run that generates loads everything before it writes anything. Where something is missing or
refused the run fails and the store stays as it is (`Command.runGenerate_cases`). Where everything
is loaded and written, the store differs by the directories that were made on the way to the output
and by the files of the output (`Command.writeOutput_leaves`), and the run fails only if some
declaration has no factory. `Command.run_all_or_nothing` says both of a whole run.
-/

set_option autoImplicit false

namespace ModelFactory.Command

open Files

/-! ## Writing -/

section Writing

variable {store after : Store} {path text : String} {files : List (String × String)}

theorem writeFile_eq_writeAll (path text : String) (store : Store) :
    (FileAccess.writeFile path text : StateM Store (Except FileError Unit)) store =
      (writeAll [(path, text)] : StateM Store (Except FileError Unit)) store := by
  cases hwrite : store.write path text with
  | error error =>
    rw [writeAll_cons_of_error hwrite]
    simp only [FileAccess.writeFile, hwrite]
  | ok after =>
    rw [writeAll_cons_of_ok hwrite]
    simp only [FileAccess.writeFile, hwrite]
    rfl

/-- A file keeps its content when files at other places are written. -/
theorem read_keeps_writeAll {octets : ByteArray} (hread : store.read path = .ok octets)
    (h : (writeAll files : StateM Store (Except FileError Unit)) store = (.ok (), after))
    (hne : ∀ file ∈ files,
      placeOf store.workingDirectory file.1 ≠ placeOf store.workingDirectory path) :
    after.read path = .ok octets := by
  induction files generalizing store with
  | nil =>
    cases h
    exact hread
  | cons file files ih =>
    obtain ⟨written, hwrite, hothers⟩ := exists_of_writeAll_cons h
    have hkept := Store.read_keeps hread hwrite (hne file List.mem_cons_self)
    apply ih hkept hothers
    intro other hother
    rw [(Store.write_keepsDirectories hwrite).workingDirectory]
    exact hne other (List.mem_cons_of_mem _ hother)

/-- Of files that are all written, each holds its text if none after it is at the same place. -/
theorem read_writeAll {front rest : List (String × String)} {file : String × String}
    (h : (writeAll (front ++ file :: rest) : StateM Store (Except FileError Unit)) store =
      (.ok (), after))
    (hlast : ∀ later ∈ rest,
      placeOf store.workingDirectory later.1 ≠ placeOf store.workingDirectory file.1) :
    after.read file.1 = .ok file.2.toUTF8 := by
  induction front generalizing store with
  | nil =>
    obtain ⟨written, hwrite, hothers⟩ := exists_of_writeAll_cons h
    apply read_keeps_writeAll (Store.read_of_write hwrite) hothers
    rw [(Store.write_keepsDirectories hwrite).workingDirectory]
    exact hlast
  | cons first front ih =>
    obtain ⟨written, hwrite, hothers⟩ := exists_of_writeAll_cons h
    apply ih hothers
    rw [(Store.write_keepsDirectories hwrite).workingDirectory]
    exact hlast

end Writing

/-! ## Writing the output -/

section Output

variable {store after : Store} {mode : OutputMode} {path : String} {output : GenerationOutput}

/-- The files of an output with their texts, in the order of writing. -/
def outputFiles (mode : OutputMode) (path : String) (output : GenerationOutput) :
    List (String × String) :=
  match mode with
  | .combined => [(path, output.combined)]
  | .perClass => filesIn path output.perClass

/-- The directory that is made before the files of an output are written, if any has to be. -/
def directoryOf? (mode : OutputMode) (path : String) : Option String :=
  match mode with
  | .combined => ((Path.ofText path).parent?.filter (!·.isEmpty)).map (·.text)
  | .perClass => some path

theorem isMade_none_iff {next : StateM Store (Except FileError Unit)} :
    (∃ made, IsMade store none made ∧ next made = (.ok (), after)) ↔
      next store = (.ok (), after) := by
  constructor
  · rintro ⟨made, ⟨⟩, h⟩
    exact h
  · intro h
    exact ⟨store, .nothing, h⟩

/-- An output is written in two steps: its directory is made, and then its files are written. -/
theorem writeOutput_eq_ok_iff :
    (writeOutput mode path output : StateM Store (Except FileError Unit)) store = (.ok (), after) ↔
      ∃ made, IsMade store (directoryOf? mode path) made ∧
        (writeAll (outputFiles mode path output) : StateM Store (Except FileError Unit)) made =
          (.ok (), after) := by
  cases mode with
  | perClass => exact makeDirectories_then_eq_ok_iff
  | combined =>
    have hfile : (FileAccess.writeFile path output.combined : StateM Store (Except FileError Unit))
        = writeAll [(path, output.combined)] := by
      funext made
      exact writeFile_eq_writeAll path output.combined made
    unfold writeOutput writeCombined directoryOf? outputFiles
    rw [← hfile]
    cases hparent : (Path.ofText path).parent? with
    | none => exact isMade_none_iff.symm
    | some parent =>
      cases hempty : parent.isEmpty with
      | true =>
        simp only [Option.filter, hempty]
        exact isMade_none_iff.symm
      | false =>
        simp only [Option.filter, hempty]
        exact makeDirectories_then_eq_ok_iff

/-- Directories have been made where nothing was and where the path comes through, and nothing else
has changed. -/
structure MakesWay (path : String) (store made : Store) : Prop where
  adds : Store.AddsDirectories store made
  onWay : ∀ place, ¬ (Path.ofText path).ComesThrough store.workingDirectory place →
    made.entries[place]? = store.entries[place]?

theorem MakesWay.refl (path : String) (store : Store) : MakesWay path store store :=
  ⟨.refl store, fun _ _ => rfl⟩

/-- A directory is made with those around it, all of them on its way. -/
theorem makeDirectories_makesWay (directory : String) (store : Store) :
    MakesWay directory store
      ((FileAccess.makeDirectories directory : StateM Store (Except FileError Unit)) store).2 :=
  ⟨Store.makeDirectories_adds store directory, fun _ => Store.makeDirectories_keeps store⟩

/-- The directories around a file are on the way of the file. -/
theorem MakesWay.of_parent {parent : Path} {made : Store}
    (hparent : (Path.ofText path).parent? = some parent) (hne : parent.isEmpty = false)
    (h : MakesWay parent.text store made) : MakesWay path store made := by
  refine ⟨h.adds, fun place hplace => h.onWay place ?_⟩
  obtain ⟨habsolute, hnames⟩ := Path.names_ofText_parent hparent hne
  rintro ⟨count, hcount⟩
  rw [Path.origin, habsolute, hnames] at hcount
  exact hplace (Path.ComesThrough.of_parent hparent ⟨count, hcount⟩)

/-- The directories that are made before the files of an output are on the way of its path. -/
theorem IsMade.makesWay {made : Store} (h : IsMade store (directoryOf? mode path) made) :
    MakesWay path store made := by
  have hmakes {directory : String} (h : IsMade store (some directory) made) :
      MakesWay directory store made := by
    cases h with
    | directory h =>
      have hway := makeDirectories_makesWay directory store
      rwa [h] at hway
  cases mode with
  | perClass => exact hmakes h
  | combined =>
    unfold directoryOf? at h
    cases hparent : (Path.ofText path).parent? with
    | none =>
      rw [hparent] at h
      cases h
      exact .refl path store
    | some parent =>
      cases hempty : parent.isEmpty with
      | true =>
        simp only [hparent, Option.filter, hempty] at h
        cases h
        exact .refl path store
      | false =>
        simp only [hparent, Option.filter, hempty] at h
        exact (hmakes h).of_parent hparent hempty

/-- Directories have been made on the way of the path, and then files have been put at the places of
their paths, one after the other. Each file holds its text, unless a later one is at its place. -/
structure Leaves (path : String) (files : List (String × String)) (store after : Store) :
    Prop where
  put : ∃ made, MakesWay path store made ∧ after = made.putAll
    (files.map fun file => (placeOf store.workingDirectory file.1, file.2))
  holds : ∀ front file rest, files = front ++ file :: rest →
    (∀ later ∈ rest,
      placeOf store.workingDirectory later.1 ≠ placeOf store.workingDirectory file.1) →
    after.read file.1 = .ok file.2.toUTF8

/-- An output that is written leaves its files and the directories on their way, and nothing
else. -/
theorem writeOutput_leaves
    (h : (writeOutput mode path output : StateM Store (Except FileError Unit)) store =
      (.ok (), after)) :
    Leaves path (outputFiles mode path output) store after := by
  obtain ⟨made, hmade, hwritten⟩ := writeOutput_eq_ok_iff.1 h
  have hway := hmade.makesWay
  obtain ⟨hafter, -⟩ := writeAll_eq_putAll hwritten
  rw [hway.adds.workingDirectory] at hafter
  refine ⟨⟨made, hway, hafter⟩, ?_⟩
  intro front file rest hfiles hlast
  rw [hfiles] at hwritten
  rw [← hway.adds.workingDirectory] at hlast
  exact read_writeAll hwritten hlast

end Output

/-! ## Whole runs -/

/-- Why a run that generates stops before it writes. -/
inductive Refused (store : Store) (options : GenerateOptions) : Prop where
  | outputMissing (hmode : options.mode = .combined) (h : options.output = none)
  | inputs (h : InputsRefused store options.input options.defaults)

/-- The path that a run writes to, and what it loads. -/
structure Loads (store : Store) (options : GenerateOptions) (path : String) (document : Document)
    (config : ProjectConfig) : Prop where
  path : options.outputPath = .ok path
  inputs : LoadsInputs store options.input options.defaults document config

section Runs

variable {store after : Store} {path : String} {options : GenerateOptions} {document : Document}
  {config : ProjectConfig}

theorem GenerateOptions.outputPath_cases (options : GenerateOptions) :
    (∃ path, options.outputPath = .ok path) ∨
      (options.outputPath = .error .outputMissing ∧ options.mode = .combined ∧
        options.output = none) := by
  unfold outputPath
  cases options.mode with
  | combined =>
    cases options.output with
    | none => exact .inr ⟨rfl, rfl, rfl⟩
    | some path => exact .inl ⟨path, rfl⟩
  | perClass =>
    cases options.output with
    | none => exact .inl ⟨".", rfl⟩
    | some path => exact .inl ⟨path, rfl⟩

theorem Loads.not_refused (h : Loads store options path document config) :
    ¬ Refused store options := by
  intro hrefused
  cases hrefused with
  | outputMissing hmode hnone =>
    have hpath := h.path
    rw [GenerateOptions.outputPath, hmode, hnone] at hpath
    cases hpath
  | inputs hrefused => exact h.inputs.not_refused hrefused

/-- A run goes on to generate once everything is loaded, or it fails with the store as it was. -/
theorem runGenerate_cases (environment : Environment) (coloring : Coloring)
    (options : GenerateOptions) (store : Store) :
    (∃ path document config printed,
      Loads store options path document config ∧
      (runGenerate environment coloring options : StateM Store Outcome) store =
        (generateLoaded (options.reporter environment coloring) options path document config
          printed : StateM Store Outcome) store) ∨
    (∃ fault printed, Refused store options ∧
      (runGenerate environment coloring options : StateM Store Outcome) store =
        (.failed environment.wording fault printed "", store)) := by
  let reporter := options.reporter environment coloring
  let printed :=
    reporter.say [reporter.step ("Loading model descriptors from: " ++ options.input)]
  rcases options.outputPath_cases with ⟨path, hpath⟩ | ⟨hpath, hmode, hnone⟩
  · rcases loadInputs_cases store options.input options.defaults with
      ⟨document, config, hload, hinputs⟩ | ⟨fault, hload, hrefused⟩
    · left
      refine ⟨path, document, config, printed, ⟨hpath, hinputs⟩, ?_⟩
      simp only [runGenerate, hpath, bind, StateT.bind, hload]
      rfl
    · right
      refine ⟨fault, printed, .inputs hrefused, ?_⟩
      simp only [runGenerate, hpath, bind, StateT.bind, hload]
      rfl
  · right
    refine ⟨.outputMissing, "", .outputMissing hmode hnone, ?_⟩
    simp only [runGenerate, hpath]
    rfl

/-- Arguments that ask to generate run that command. -/
theorem run_eq_runGenerate (environment : Environment) {arguments : List String}
    {invocation : Invocation} (hread : readInvocation arguments = .ok invocation)
    (hrequest : invocation.request = .generate options) (store : Store) :
    (run environment arguments : StateM Store Outcome) store =
      (runGenerate environment (environment.coloring invocation) options : StateM Store Outcome)
        store := by
  simp only [run, hread, Invocation.run, hrequest]

/-- Once the output is written the run tells the failures and ends. -/
theorem generateLoaded_of_written (reporter : Reporter) (printed : String)
    (h : (writeOutput options.mode path
        (generate (config.settings options.header) document options.input) :
      StateM Store (Except FileError Unit)) store = (.ok (), after)) :
    ∃ printed', (generateLoaded reporter options path document config printed :
        StateM Store Outcome) store =
      (finished reporter options.mode
        (generate (config.settings options.header) document options.input) printed', after) := by
  let output := generate (config.settings options.header) document options.input
  let told := toldPaths options.mode path output
  refine ⟨printed ++ reporter.say (reporter.summary output ++ told.before.map reporter.writing)
    ++ reporter.say (told.after.map reporter.writing), ?_⟩
  simp only [generateLoaded, bind, StateT.bind, h]
  rfl

/-- If the output cannot be written, the run ends there and tells nothing but why. -/
theorem generateLoaded_of_not_written (reporter : Reporter) (printed : String) {error : FileError}
    (h : (writeOutput options.mode path
        (generate (config.settings options.header) document options.input) :
      StateM Store (Except FileError Unit)) store = (.error error, after)) :
    ∃ printed', (generateLoaded reporter options path document config printed :
        StateM Store Outcome) store =
      (.failed reporter.wording (.notWritten error) printed' "", after) := by
  let output := generate (config.settings options.header) document options.input
  let told := toldPaths options.mode path output
  refine ⟨printed ++ reporter.say (reporter.summary output ++ told.before.map reporter.writing), ?_⟩
  simp only [generateLoaded, bind, StateT.bind, h]
  rfl

/-- A run that loads everything goes on to generate. -/
theorem Loads.runGenerate_eq {environment : Environment} (coloring : Coloring)
    (h : Loads store options path document config) :
    ∃ printed, (runGenerate environment coloring options : StateM Store Outcome) store =
      (generateLoaded (options.reporter environment coloring) options path document config printed :
        StateM Store Outcome) store := by
  rcases runGenerate_cases environment coloring options store with
    ⟨path', document', config', printed, hloads, hrun⟩ | ⟨fault, printed, hrefused, -⟩
  · obtain rfl : path = path' := Except.ok.inj (h.path.symm.trans hloads.path)
    obtain ⟨rfl, rfl⟩ := h.inputs.unique hloads.inputs
    exact ⟨printed, hrun⟩
  · exact absurd hrefused h.not_refused

/-- A run that loads everything and writes its output ends with the end of that output. -/
theorem Loads.runGenerate_of_written {environment : Environment} (coloring : Coloring)
    (h : Loads store options path document config)
    (hwritten : (writeOutput options.mode path
        (generate (config.settings options.header) document options.input) :
      StateM Store (Except FileError Unit)) store = (.ok (), after)) :
    ∃ printed, (runGenerate environment coloring options : StateM Store Outcome) store =
      (finished (options.reporter environment coloring) options.mode
        (generate (config.settings options.header) document options.input) printed, after) := by
  obtain ⟨printed, hrun⟩ := h.runGenerate_eq coloring
  obtain ⟨told, hfinished⟩ := generateLoaded_of_written
    (options.reporter environment coloring) printed hwritten
  exact ⟨told, hrun.trans hfinished⟩

/-- The end of a run that has written its output is a success if every declaration has a
factory. -/
theorem finished_status (reporter : Reporter) (mode : OutputMode) (output : GenerationOutput)
    (printed : String) :
    (finished reporter mode output printed).status = 0 ↔ output.failures = [] := by
  unfold finished GenerationOutput.hasFailures
  cases output.failures with
  | nil => exact ⟨fun _ => rfl, fun _ => rfl⟩
  | cons error rest =>
    constructor
    · intro h
      cases h
    · intro h
      cases h

/-- The lines of the declarations without a factory, and the line of the failed run after them. -/
theorem finished_errors (reporter : Reporter) (mode : OutputMode) (output : GenerationOutput)
    (printed : String) :
    (finished reporter mode output printed).errors =
      lined (Reporter.paragraph (output.failures.map fun error =>
        reporter.notice "Error:" error.message)) ++
      if output.failures = [] then ""
      else lined ["Error: " ++ (RunFault.declarationsFailed output.failures.length).context] := by
  unfold finished GenerationOutput.hasFailures Reporter.failures
  cases output.failures with
  | nil => rfl
  | cons error rest => rfl

end Runs

/-- A run that generates fails and leaves the store as it is if it has no path for its output, or if
the descriptor, an entry of the command line or the configuration is refused, the last also for want
of a directory to work in. Otherwise, once its output is written, the store holds the files of the
output and the directories made on their way and is the same elsewhere, also when declarations have
no factory; and the run succeeds exactly if every declaration has one. -/
theorem run_all_or_nothing (environment : Environment) {arguments : List String}
    {invocation : Invocation} {options : GenerateOptions}
    (hread : readInvocation arguments = .ok invocation)
    (hrequest : invocation.request = .generate options) (before : Store) :
    let result := (run environment arguments : StateM Store Outcome) before
    (Refused before options →
      result.1.status ≠ 0 ∧ result.2 = before) ∧
    (¬ Refused before options →
      ∃ path document config,
        Loads before options path document config ∧
        let output := generate (config.settings options.header) document options.input
        ∀ after, (writeOutput options.mode path output :
            StateM Store (Except FileError Unit)) before = (.ok (), after) →
          result.2 = after ∧
          Leaves path (outputFiles options.mode path output) before after ∧
          (result.1.status = 0 ↔ output.failures = [])) := by
  intro result
  have hrun : result = (runGenerate environment (environment.coloring invocation) options :
      StateM Store Outcome) before := by
    show (run environment arguments : StateM Store Outcome) before = _
    simp only [run, hread, Invocation.run, hrequest]
  rcases runGenerate_cases environment (environment.coloring invocation) options before with
    ⟨path, document, config, printed, hloads, hgenerate⟩ | ⟨fault, printed, hrefused, hfailed⟩
  · refine ⟨fun hrefused => absurd hrefused hloads.not_refused, fun _ => ?_⟩
    refine ⟨path, document, config, hloads, ?_⟩
    intro output after hwritten
    obtain ⟨told, hfinished⟩ := generateLoaded_of_written
      (options.reporter environment (environment.coloring invocation)) printed hwritten
    rw [hrun, hgenerate, hfinished]
    exact ⟨rfl, writeOutput_leaves hwritten, finished_status _ options.mode output told⟩
  · refine ⟨fun _ => ?_, fun hloaded => absurd hrefused hloaded⟩
    rw [hrun, hfailed]
    exact ⟨Nat.one_ne_zero, rfl⟩

/-- A descriptor of a class and a mixin. -/
def mixedText : String :=
  "\x7b\"classes\":[\x7b\"name\":\"User\"\x7d,\x7b\"name\":\"Both\",\"kind\":\"mixin\"\x7d]\x7d"

/-- The document in `mixedText`. -/
def mixed : Document := { declarations := [{ name := "User" }, { name := "Both", kind := .mixin }] }

/-- The descriptor stands in the working directory. -/
def mixedStore : Store := workStore.put ["work", "m.json"] (.file mixedText.toUTF8)

/-- The arguments of a run over that descriptor. -/
def mixedArguments : List String := ["generate", "-i", "m.json", "-o", "out/all.dart"]

/-- What is asked for with `mixedArguments`. -/
def mixedOptions : GenerateOptions := { input := "m.json", output := some "out/all.dart" }

theorem loads_mixed : Loads mixedStore mixedOptions "out/all.dart" mixed {} :=
  ⟨rfl, LoadsInputs.of_toOption (by decide +kernel)⟩

/-- The same files, with a working directory that is gone. -/
def goneStore : Store := { mixedStore with workingDirectory := ["gone"], named := by decide }

/-- The arguments of a run in which no path is relative. -/
def absoluteArguments : List String :=
  ["generate", "-i", "/work/m.json", "-o", "/work/all.dart", "--config", "/work/settings.toml"]

/-- What is asked for with `absoluteArguments`. -/
def absoluteOptions : GenerateOptions where
  input := "/work/m.json"
  output := some "/work/all.dart"
  defaults := { config := some "/work/settings.toml" }

/-- The factory of the class is written, and the run fails for the mixin. Without a working directory
the run fails early, though every path leads from the root. -/
theorem mixed_written_and_failed :
    readInvocation mixedArguments = .ok ⟨.generate mixedOptions, .auto, .auto⟩ ∧
      ¬ Refused mixedStore mixedOptions ∧
      (let result := (run { clock := "[12:00:00]" } mixedArguments : StateM Store Outcome)
        mixedStore
      result.1.status ≠ 0 ∧
        result.2.read "out/all.dart" = .ok (generate {} mixed "m.json").combined.toUTF8) ∧
      readInvocation absoluteArguments = .ok ⟨.generate absoluteOptions, .auto, .auto⟩ ∧
      Refused goneStore absoluteOptions ∧
      (let result := (run { clock := "[12:00:00]" } absoluteArguments : StateM Store Outcome)
        goneStore
      result.1.status ≠ 0 ∧ result.2 = goneStore) := by
  have hread : readInvocation mixedArguments = .ok ⟨.generate mixedOptions, .auto, .auto⟩ := by
    rfl
  have hloaded := loads_mixed.not_refused
  have habsolute : readInvocation absoluteArguments =
      .ok ⟨.generate absoluteOptions, .auto, .auto⟩ := by rfl
  have hrefused : Refused goneStore absoluteOptions :=
    .inputs (.noDirectory (show goneStore.currentDirectory = .error .missing by decide +kernel))
  refine ⟨hread, hloaded, ?_, habsolute, hrefused,
    (run_all_or_nothing { clock := "[12:00:00]" } habsolute rfl goneStore).1 hrefused⟩
  have hok : ((writeOutput .combined "out/all.dart" (generate {} mixed "m.json") :
      StateM Store (Except FileError Unit)) mixedStore).1.isOk = true := by decide +kernel
  obtain ⟨after, hafter⟩ := exists_ok_of_isOk hok
  obtain ⟨path, document, config, hloads, hwritten⟩ :=
    (run_all_or_nothing { clock := "[12:00:00]" } hread rfl mixedStore).2 hloaded
  obtain rfl : "out/all.dart" = path := Except.ok.inj hloads.path
  obtain ⟨rfl, rfl⟩ := loads_mixed.inputs.unique hloads.inputs
  obtain ⟨hresult, hleaves, hstatus⟩ := hwritten after hafter
  refine ⟨?_, ?_⟩
  · rw [Ne, hstatus]
    decide +kernel
  · rw [hresult]
    exact hleaves.holds [] _ [] rfl (by simp)

end ModelFactory.Command
