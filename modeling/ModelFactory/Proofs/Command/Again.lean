import ModelFactory.Proofs.Command.AllOrNothing
import ModelFactory.Proofs.Files.WorkingDirectory

/-!
# The same run again

A run that generates depends on the files that it reads and on nothing else in the store: file names
are allocated without a look at what is there, and no time stands in a text. So the same run over
the store that it left writes the same texts to the same places. The directories that it needs are
there (`Command.writeOutput_again`), and it loads what it loaded before, as long as it has not
written over that (`Command.Loads.again`).

`Command.run_again_changes_nothing` says that the second run ends as the first one and leaves the
store as it is.
-/

set_option autoImplicit false

namespace ModelFactory.Command

open Files

/-! ## Writing again -/

section Writing

variable {store after later : Store} {files : List (String × String)}

theorem writeAll_keepsDirectories
    (h : (writeAll files : StateM Store (Except FileError Unit)) store = (.ok (), after)) :
    store.KeepsDirectories after := by
  induction files generalizing store with
  | nil =>
    cases h
    exact .refl _
  | cons file files ih =>
    obtain ⟨written, hwrite, hothers⟩ := exists_of_writeAll_cons h
    exact (Store.write_keepsDirectories hwrite).trans (ih hothers)

/-- Files that were all written can all be written in a store that keeps the directories and has
none at their places. -/
theorem writeAll_again
    (h : (writeAll files : StateM Store (Except FileError Unit)) store = (.ok (), after))
    (hkeeps : store.KeepsDirectories later)
    (hfiles : ∀ file ∈ files,
      later.itemAt? (placeOf store.workingDirectory file.1) ≠ some .directory) :
    (writeAll files : StateM Store (Except FileError Unit)) later =
      (.ok (), later.putAll
        (files.map fun file => (placeOf store.workingDirectory file.1, file.2))) := by
  -- Each file is put to its place in both stores, so the later one still keeps the directories.
  induction files generalizing store later with
  | nil => rfl
  | cons file files ih =>
    obtain ⟨written, hwrite, hothers⟩ := exists_of_writeAll_cons h
    have hagain := hkeeps.write hwrite (hfiles file List.mem_cons_self)
    obtain ⟨rfl, name, hends⟩ := Store.write_eq_put hwrite
    have hroot := hends.placeOf_ne_nil store.workingDirectory
    rw [writeAll_cons_of_ok hagain]
    apply ih hothers (hkeeps.put hroot _)
    intro other hother
    rw [Store.itemAt?_put hroot]
    split
    · simp
    · exact hfiles other (List.mem_cons_of_mem _ hother)

end Writing

section Output

variable {store after later made : Store} {mode : OutputMode} {path : String}
  {output : GenerationOutput}

/-- What was made is made again without a change, also when other directories and files have been
added. -/
theorem IsMade.again {directory? : Option String} (h : IsMade store directory? made)
    (hkeeps : made.KeepsDirectories later) : IsMade later directory? later := by
  cases h with
  | nothing => exact .nothing
  | directory h => exact .directory (Store.makeDirectories_again h hkeeps)

theorem writeOutput_keepsDirectories
    (h : (writeOutput mode path output : StateM Store (Except FileError Unit)) store =
      (.ok (), after)) : store.KeepsDirectories after := by
  obtain ⟨made, hmade, hfiles⟩ := writeOutput_eq_ok_iff.1 h
  exact hmade.adds.keepsDirectories.trans (writeAll_keepsDirectories hfiles)

/-- An output that was written is written again without a change. -/
theorem writeOutput_again
    (h : (writeOutput mode path output : StateM Store (Except FileError Unit)) store =
      (.ok (), after)) :
    (writeOutput mode path output : StateM Store (Except FileError Unit)) after =
      (.ok (), after) := by
  obtain ⟨made, hmade, hfiles⟩ := writeOutput_eq_ok_iff.1 h
  have hkeeps := writeAll_keepsDirectories hfiles
  obtain ⟨hafter, hends⟩ := writeAll_eq_putAll hfiles
  rw [writeOutput_eq_ok_iff]
  refine ⟨after, hmade.again hkeeps, ?_⟩
  rw [writeAll_again hfiles hkeeps, hafter, Store.putAll_putAll]
  -- At the places of the files are files.
  intro file hfile
  obtain ⟨name, hname⟩ := hends file hfile
  have hroot := hname.placeOf_ne_nil made.workingDirectory
  have hmem : placeOf made.workingDirectory file.1 ∈
      ((outputFiles mode path output).map fun file =>
        (placeOf made.workingDirectory file.1, file.2)).map (·.1) := by
    rw [List.map_map]
    exact List.mem_map_of_mem hfile
  obtain ⟨content, hcontent⟩ := Store.exists_getElem?_putAll hmem
  rw [hafter, Store.itemAt?, if_neg (by simpa using hroot), hcontent]
  simp

end Output

/-! ## Loading again -/

/-- Where a run has left something: a file that it wrote or a directory that it made. -/
inductive Touched (files : List (String × String)) (before after : Store) : Place → Prop
  | written {file : String × String} (h : file ∈ files) :
    Touched files before after (placeOf before.workingDirectory file.1)
  | made {place : Place} (hbefore : before.itemAt? place = none)
    (hafter : after.itemAt? place = some .directory) : Touched files before after place

/-- The paths that a run reads or looks for: that of the descriptor, and that of the configuration,
which is the usual one of the working directory if none is named. -/
def readPaths (store : Store) (options : GenerateOptions) : List String :=
  [options.input, options.defaults.config.getD (ProjectConfig.usualPath store.directoryPath)]

section Loading

variable {before after : Store} {mode : OutputMode} {path directory : String}
  {output : GenerationOutput} {options : GenerateOptions} {document : Document}
  {config : ProjectConfig}

/-- What a run has not touched is as it was. -/
theorem itemAt?_of_not_touched
    (h : (writeOutput mode path output : StateM Store (Except FileError Unit)) before =
      (.ok (), after)) {place : Place}
    (hplace : ¬ Touched (outputFiles mode path output) before after place) :
    after.itemAt? place = before.itemAt? place := by
  obtain ⟨made, hway, hafter⟩ := (writeOutput_leaves h).put
  have hother : place ∉ ((outputFiles mode path output).map fun file =>
      (placeOf before.workingDirectory file.1, file.2)).map (·.1) := by
    rw [List.map_map, List.mem_map]
    rintro ⟨file, hfile, rfl⟩
    exact hplace (.written hfile)
  have hmade : after.entries[place]? = made.entries[place]? := by
    rw [hafter, Store.getElem?_putAll_of_notMem hother]
  by_cases hroot : place = []
  · subst hroot
    rfl
  · have hitem (store : Store) : store.itemAt? place = store.entries[place]? :=
      if_neg (by simpa using hroot)
    rw [hitem, hitem, hmade]
    rcases hway.adds.entries place with hsame | ⟨hnone, hdirectory⟩
    · exact hsame
    · refine absurd (.made ?_ ?_) hplace
      · rw [hitem, hnone]
      · rw [hitem, hmade, hdirectory]

theorem isName_fileName : Store.IsName ProjectConfig.fileName :=
  ⟨by decide, by decide, by decide, by decide⟩

variable {text : String}

/-- A text is held again in a store that keeps the directories and has the same at its place. -/
theorem holdsText_again (hkeeps : before.KeepsDirectories after)
    (hsame : after.itemAt? (placeOf before.workingDirectory path) =
      before.itemAt? (placeOf before.workingDirectory path))
    (h : before.HoldsText path text) : after.HoldsText path text := by
  obtain ⟨octets, hread, htext⟩ := h
  exact ⟨octets, hkeeps.read hread hsame, htext⟩

/-- The configuration is loaded again, or it is missing again. -/
theorem loadsConfig_again (hkeeps : before.KeepsDirectories after)
    (hdirectory : before.isDirectory (.ofText directory) = true) {explicit : Option String}
    (hsame : after.itemAt? (placeOf before.workingDirectory
        (explicit.getD (ProjectConfig.usualPath directory))) =
      before.itemAt? (placeOf before.workingDirectory
        (explicit.getD (ProjectConfig.usualPath directory))))
    (h : ProjectConfig.LoadsConfig before directory explicit config) :
    ProjectConfig.LoadsConfig after directory explicit config := by
  cases h with
  | file hfile htext hconfig =>
    cases hfile with
    | named => exact .file (.named _) (holdsText_again hkeeps hsame htext) hconfig
    | usual hthere =>
      obtain ⟨octets, hread, hutf8⟩ := holdsText_again hkeeps hsame htext
      exact .file (.usual (Store.contains_of_read hread)) ⟨octets, hread, hutf8⟩ hconfig
  | absent hmissing =>
    exact .absent (Store.contains_joined_again isName_fileName hdirectory hmissing hkeeps hsame)

/-- A run loads again what it loaded before, if it has touched nothing of it. -/
theorem Loads.again (h : Loads before options path document config)
    (hkeeps : before.KeepsDirectories after)
    (hsame : ∀ read ∈ readPaths before options,
      after.itemAt? (placeOf before.workingDirectory read) =
        before.itemAt? (placeOf before.workingDirectory read)) :
    Loads after options path document config := by
  obtain ⟨hpath, ⟨text, htext, hdocument⟩, directory, project, overrides, hdirectory, hproject,
    hoverrides, rfl⟩ := h
  obtain ⟨rfl, hthere⟩ := Store.currentDirectory_eq_ok_iff.1 hdirectory
  have hinput : options.input ∈ readPaths before options := List.mem_cons_self
  have hconfig : options.defaults.config.getD (ProjectConfig.usualPath before.directoryPath) ∈
      readPaths before options := List.mem_cons_of_mem _ List.mem_cons_self
  refine ⟨hpath, ⟨text, holdsText_again hkeeps (hsame _ hinput) htext, hdocument⟩, ?_⟩
  exact ⟨_, project, overrides, hkeeps.currentDirectory hdirectory,
    loadsConfig_again hkeeps hthere (hsame _ hconfig) hproject, hoverrides, rfl⟩

end Loading

/-! ## Whole runs -/

section Runs

variable {before after : Store} {options : GenerateOptions} {path : String} {document : Document}
  {config : ProjectConfig}

/-- The status of a run that has written its output depends on the output only. -/
theorem finished_status_eq (reporter : Reporter) (mode : OutputMode) (output : GenerationOutput)
    (printed : String) :
    (finished reporter mode output printed).status = if output.hasFailures then 1 else 0 := by
  unfold finished
  cases output.hasFailures with
  | true => rfl
  | false => rfl

/-- A run that loads this and writes its output ends with the status of the output and leaves what
was written. -/
theorem run_of_written (environment : Environment) {arguments : List String}
    {invocation : Invocation} (hread : readInvocation arguments = .ok invocation)
    (hrequest : invocation.request = .generate options)
    (hloads : Loads before options path document config)
    (hwritten : (writeOutput options.mode path
        (generate (config.settings options.header) document options.input) :
      StateM Store (Except FileError Unit)) before = (.ok (), after)) :
    let result := (run environment arguments : StateM Store Outcome) before
    result.1.status =
        (if (generate (config.settings options.header) document options.input).hasFailures
          then 1 else 0) ∧
      result.2 = after := by
  intro result
  have hrun : result = _ := run_eq_runGenerate environment hread hrequest before
  obtain ⟨printed, hgenerate⟩ :=
    hloads.runGenerate_of_written (environment.coloring invocation) hwritten
  rw [hrun, hgenerate]
  exact ⟨finished_status_eq _ _ _ printed, rfl⟩

end Runs

/-- A run that generates, loads everything and writes everything can be done again over the store
that it left, also at another time and with other colours: if it has touched none of the paths that
it reads or looks for, the second run ends with the same status and leaves the store as it is. -/
theorem run_again_changes_nothing (environment later : Environment) {arguments : List String}
    {invocation : Invocation} {options : GenerateOptions}
    (hread : readInvocation arguments = .ok invocation)
    (hrequest : invocation.request = .generate options) {before after : Store} {path : String}
    {document : Document} {config : ProjectConfig}
    (hloads : Loads before options path document config)
    (hwritten : (writeOutput options.mode path
        (generate (config.settings options.header) document options.input) :
      StateM Store (Except FileError Unit)) before = (.ok (), after))
    (hapart : ∀ read ∈ readPaths before options,
      ¬ Touched (outputFiles options.mode path
          (generate (config.settings options.header) document options.input))
        before after (placeOf before.workingDirectory read)) :
    let first := (run environment arguments : StateM Store Outcome) before
    let second := (run later arguments : StateM Store Outcome) first.2
    first.2 = after ∧ second.2 = first.2 ∧ second.1.status = first.1.status := by
  intro first second
  obtain ⟨hstatus, hfirst⟩ := run_of_written environment hread hrequest hloads hwritten
  have hloadsAgain : Loads after options path document config := by
    apply hloads.again (writeOutput_keepsDirectories hwritten)
    intro read hmem
    exact itemAt?_of_not_touched hwritten (hapart read hmem)
  obtain ⟨hstatusAgain, hsecond⟩ :=
    run_of_written later hread hrequest hloadsAgain (writeOutput_again hwritten)
  have hstart : first.2 = after := hfirst
  refine ⟨hstart, ?_, ?_⟩
  · show ((run later arguments : StateM Store Outcome) first.2).2 = first.2
    rw [hstart]
    exact hsecond
  · show ((run later arguments : StateM Store Outcome) first.2).1.status = first.1.status
    rw [hstart]
    exact hstatusAgain.trans hstatus.symm

/-- The run over a class and a mixin fails, and doing it again later changes nothing. -/
theorem mixed_again_changes_nothing :
    let first := (run { clock := "[12:00:00]" } mixedArguments : StateM Store Outcome) mixedStore
    let second := (run { clock := "[12:00:05]", onTerminal := true } mixedArguments :
      StateM Store Outcome) first.2
    first.1.status = 1 ∧ second.1.status = 1 ∧ second.2 = first.2 := by
  have hread : readInvocation mixedArguments = .ok ⟨.generate mixedOptions, .auto, .auto⟩ := by
    rfl
  have hok : ((writeOutput .combined "out/all.dart" (generate {} mixed "m.json") :
      StateM Store (Except FileError Unit)) mixedStore).1.isOk = true := by decide +kernel
  have hmissing : (((writeOutput .combined "out/all.dart" (generate {} mixed "m.json") :
      StateM Store (Except FileError Unit)) mixedStore).2.itemAt?
        ["work", "factory_gen.toml"]).isNone = true := by decide +kernel
  obtain ⟨after, hafter⟩ := exists_ok_of_isOk hok
  rw [hafter] at hmissing
  have houtput : placeOf ["work"] "out/all.dart" = ["work", "out", "all.dart"] := by
    decide +kernel
  have hinput : placeOf ["work"] "m.json" = ["work", "m.json"] := by decide +kernel
  have hthere : (mixedStore.itemAt? ["work", "m.json"]).isSome = true := by decide +kernel
  have hconfig : placeOf ["work"] (ProjectConfig.usualPath "/work") =
      ["work", "factory_gen.toml"] := by decide +kernel
  -- The descriptor is neither the file of the output nor new, and no configuration is there.
  have hapart : ∀ read ∈ readPaths mixedStore mixedOptions,
      ¬ Touched (outputFiles .combined "out/all.dart" (generate {} mixed "m.json")) mixedStore after
        (placeOf mixedStore.workingDirectory read) := by
    have hread : readPaths mixedStore mixedOptions =
        ["m.json", ProjectConfig.usualPath "/work"] := by decide +kernel
    intro read hmem htouched
    rw [hread, List.mem_pair] at hmem
    generalize hplace : placeOf mixedStore.workingDirectory read = place at htouched
    cases htouched with
    | written hfile =>
      rw [List.mem_singleton.1 hfile] at hplace
      rcases hmem with rfl | rfl
      · exact absurd (hinput.symm.trans (hplace.trans houtput)) (by decide)
      · exact absurd (hconfig.symm.trans (hplace.trans houtput)) (by decide)
    | made hbefore hafter =>
      rcases hmem with rfl | rfl
      · rw [← hplace, show placeOf mixedStore.workingDirectory "m.json" = _ from hinput] at hbefore
        rw [hbefore] at hthere
        cases hthere
      · rw [← hplace, show placeOf mixedStore.workingDirectory _ = _ from hconfig] at hafter
        rw [hafter] at hmissing
        cases hmissing
  intro first second
  obtain ⟨-, hstore, hstatus⟩ := run_again_changes_nothing
    { clock := "[12:00:00]" } { clock := "[12:00:05]", onTerminal := true } hread rfl loads_mixed
    hafter hapart
  have hfirst : first.1.status = 1 := by
    have h := (run_of_written { clock := "[12:00:00]" } hread rfl loads_mixed hafter).1
    rw [show first.1.status = _ from h]
    decide +kernel
  exact ⟨hfirst, hstatus.trans hfirst, hstore⟩

end ModelFactory.Command
