import ModelFactory.Proofs.Command.Again
import ModelFactory.Proofs.Files.Outside

/-!
# The file that decides the configuration

One file decides what configuration is loaded, and a broken one is never passed over. Over any file
system, what is loaded from a file follows from what reading it answers (`ProjectConfig.HeldBy`,
`ProjectConfig.Unusable`). Without a name the usual file of the directory decides: the defaults hold
if it is not there, and whatever keeps it from being used is an error that names it.

A file that is named leaves the usual one without influence, unless its path leads through that one.
Over two stores that are the same outside the usual file, a run that works on other files is done
alike (`Command.invocation_run_alike`). `Command.one_file_decides` says all of this.
-/

set_option autoImplicit false

namespace ModelFactory

open Files

/-- The message of the fault ends with the path. -/
def ConfigFault.Names (fault : ConfigFault) (path : String) : Prop :=
  ∃ words, fault.context = words ++ path

namespace ProjectConfig

/-! ## What a file holds -/

/-- What reading a file answered is text that holds the configuration. -/
def HeldBy (config : ProjectConfig) (answer : Except FileError ByteArray) : Prop :=
  ∃ octets text, answer = .ok octets ∧ Text.ofUtf8 octets = .ok text ∧
    configOfToml text = .ok config

/-- What reading a file answered holds no configuration. -/
inductive Unusable : Except FileError ByteArray → Prop where
  | unreadable (error : FileError) : Unusable (.error error)
  | notUtf8 {octets : ByteArray} {flaw : Text.Utf8Flaw} (h : Text.ofUtf8 octets = .error flaw) :
    Unusable (.ok octets)
  | invalid {octets : ByteArray} {text : String} {fault : Toml.Fault}
    (h : Text.ofUtf8 octets = .ok text) (hfault : configOfToml text = .error fault) :
    Unusable (.ok octets)

variable {config : ProjectConfig} {answer : Except FileError ByteArray}

theorem HeldBy.unique {other : ProjectConfig} (h : config.HeldBy answer)
    (hother : other.HeldBy answer) : config = other := by
  obtain ⟨octets, text, rfl, htext, hconfig⟩ := h
  obtain ⟨octets', text', hoctets, htext', hconfig'⟩ := hother
  cases hoctets
  rw [htext] at htext'
  cases htext'
  rw [hconfig] at hconfig'
  cases hconfig'
  rfl

theorem HeldBy.not_unusable (h : config.HeldBy answer) : ¬ Unusable answer := by
  obtain ⟨octets, text, rfl, htext, hconfig⟩ := h
  intro hunusable
  cases hunusable with
  | notUtf8 hflaw =>
    rw [htext] at hflaw
    cases hflaw
  | invalid htext' hfault =>
    rw [htext] at htext'
    cases htext'
    rw [hconfig] at hfault
    cases hfault

/-! ## Loading from any file system -/

section AnyFileSystem

variable {σ : Type} [FileAccess (StateM σ)]

/-- What reading a file answers. -/
def readIn (state : σ) (path : String) : Except FileError ByteArray :=
  ((FileAccess.readFile path : StateM σ (Except FileError ByteArray)) state).1

/-- Whether a path names anything, and the state after this was asked. -/
def askedIn (state : σ) (path : String) : Except FileError Bool × σ :=
  (FileAccess.isThere path : StateM σ (Except FileError Bool)) state

/-- The configuration of a file. -/
def fileIn (state : σ) (path : String) : Except ConfigFault ProjectConfig :=
  ((loadFile path : StateM σ (Except ConfigFault ProjectConfig)) state).1

/-- The configuration that is loaded. -/
def loadedIn (state : σ) (explicit : Option String) (directory : String) :
    Except ConfigFault ProjectConfig :=
  ((load explicit directory : StateM σ (Except ConfigFault ProjectConfig)) state).1

variable (state : σ)

/-- A file gives the configuration that it holds, or an error that names it. -/
theorem fileIn_cases (path : String) :
    (∃ config, fileIn state path = .ok config ∧ config.HeldBy (readIn state path)) ∨
      (∃ fault, fileIn state path = .error fault ∧ fault.Names path ∧
        Unusable (readIn state path)) := by
  obtain ⟨answer, after, hread⟩ : ∃ answer after,
      (FileAccess.readFile path : StateM σ (Except FileError ByteArray)) state =
        (answer, after) := ⟨_, _, rfl⟩
  have hanswer : readIn state path = answer := congrArg Prod.fst hread
  rw [hanswer]
  cases answer with
  | error error =>
    right
    refine ⟨.unreadable path error, ?_, ⟨_, rfl⟩, .unreadable error⟩
    simp only [fileIn, loadFile, bind, StateT.bind, hread]
    rfl
  | ok octets =>
    cases htext : Text.ofUtf8 octets with
    | error flaw =>
      right
      refine ⟨.unreadable path .notText, ?_, ⟨_, rfl⟩, .notUtf8 htext⟩
      simp only [fileIn, loadFile, bind, StateT.bind, hread, htext]
      rfl
    | ok text =>
      have hfile : fileIn state path = (configOfToml text).mapError (.invalid path text) := by
        simp only [fileIn, loadFile, bind, StateT.bind, hread, htext]
        rfl
      rw [hfile]
      cases hconfig : configOfToml text with
      | error fault =>
        exact .inr ⟨.invalid path text fault, rfl, ⟨_, rfl⟩, .invalid htext hconfig⟩
      | ok config => exact .inl ⟨config, rfl, octets, text, rfl, htext, hconfig⟩

/-- A file gives a configuration exactly if it holds it. -/
theorem fileIn_eq_ok_iff (path : String) (config : ProjectConfig) :
    fileIn state path = .ok config ↔ config.HeldBy (readIn state path) := by
  rcases fileIn_cases state path with
    ⟨loaded, hloaded, hheld⟩ | ⟨fault, hfault, -, hunusable⟩
  · rw [hloaded]
    constructor
    · intro h
      cases h
      exact hheld
    · intro h
      rw [h.unique hheld]
  · rw [hfault]
    constructor
    · intro h
      cases h
    · intro h
      exact absurd hunusable h.not_unusable

/-- A file that cannot be used is an error that names it. -/
theorem exists_fault_of_unusable {path : String} (h : Unusable (readIn state path)) :
    ∃ fault, fileIn state path = .error fault ∧ fault.Names path := by
  rcases fileIn_cases state path with ⟨loaded, -, hheld⟩ | ⟨fault, hfault, hnames, -⟩
  · exact absurd h hheld.not_unusable
  · exact ⟨fault, hfault, hnames⟩

/-- Without a name, what is loaded is decided by the usual file. -/
theorem loadedIn_none (directory : String) :
    loadedIn state none directory =
      match askedIn state (usualPath directory) with
      | (.error error, _) => .error (.unknown (usualPath directory) error)
      | (.ok false, _) => .ok {}
      | (.ok true, after) => fileIn after (usualPath directory) := by
  obtain ⟨answer, after, hasked⟩ : ∃ answer after,
      askedIn state (usualPath directory) = (answer, after) := ⟨_, _, rfl⟩
  have hthere : (FileAccess.isThere (Path.joined directory fileName) :
      StateM σ (Except FileError Bool)) state = (answer, after) := hasked
  rw [hasked]
  simp only [loadedIn, load, bind, StateT.bind, hthere]
  cases answer with
  | error error => rfl
  | ok found =>
    cases found with
    | false => rfl
    | true => rfl

/-- One file decides what is loaded: the one that is named, or else the usual one of the directory.
If it cannot be used, an error names it. -/
structure Decided (directory : String) : Prop where
  named : ∀ path config,
    loadedIn state (some path) directory = .ok config ↔ config.HeldBy (readIn state path)
  namedRefused : ∀ path, Unusable (readIn state path) →
    ∃ fault, loadedIn state (some path) directory = .error fault ∧ fault.Names path
  defaults :
    let (there, after) := askedIn state (usualPath directory)
    loadedIn state none directory = .ok {} ↔
      there = .ok false ∨ (there = .ok true ∧ HeldBy {} (readIn after (usualPath directory)))
  usualRefused :
    let (there, after) := askedIn state (usualPath directory)
    (∃ error, there = .error error) ∨
        (there = .ok true ∧ Unusable (readIn after (usualPath directory))) →
      ∃ fault, loadedIn state none directory = .error fault ∧ fault.Names (usualPath directory)

theorem decided (directory : String) : Decided state directory := by
  obtain ⟨there, after, hasked⟩ : ∃ there after,
      askedIn state (usualPath directory) = (there, after) := ⟨_, _, rfl⟩
  have hloaded := loadedIn_none state directory
  rw [hasked] at hloaded
  refine ⟨fileIn_eq_ok_iff state, fun path => exists_fault_of_unusable state, ?_, ?_⟩
  · rw [hasked, hloaded]
    cases there with
    | error error => simp
    | ok found =>
      cases found with
      | false => simp
      | true => simpa using fileIn_eq_ok_iff after (usualPath directory) {}
  · rw [hasked, hloaded]
    rintro (⟨error, rfl⟩ | ⟨rfl, hunusable⟩)
    · exact ⟨_, rfl, _, rfl⟩
    · exact exists_fault_of_unusable after hunusable

end AnyFileSystem

/-! ## Loading from a store -/

section Stores

variable {store : Store} {directory : String}

/-- The path of the usual file ends in its name. -/
theorem isEmpty_usualPath (directory : String) :
    (Path.ofText (usualPath directory)).isEmpty = false := by
  have hlast : (Path.ofText (usualPath directory)).last? = some fileName :=
    Path.last?_joined directory fileName
  unfold Path.last? at hlast
  rw [Path.isEmpty]
  by_cases hnone : (Path.ofText (usualPath directory)).parts = [""]
  · rw [hnone] at hlast
    exact absurd hlast (by decide)
  · have hsome : (Path.ofText (usualPath directory)).parts ≠ [] := by
      intro h
      rw [h] at hlast
      cases hlast
    simp [hnone, hsome]

/-- A directory that is there has the usual file or not. Without it, and if it holds them, the
defaults are loaded. -/
theorem loadedIn_none_eq_default_iff
    (hdirectory : store.isDirectory (.ofText directory) = true)
    (hchecked : Store.checked (usualPath directory) = .ok (.ofText (usualPath directory))) :
    let item? := store.itemAt? (placeOf store.workingDirectory (usualPath directory))
    loadedIn store none directory = .ok {} ↔
      item? = none ∨ ∃ octets, item? = some (.file octets) ∧ HeldBy {} (.ok octets) := by
  intro item?
  obtain ⟨hnotEmpty, around, haround, hitem⟩ := Store.isDirectory_iff.1 hdirectory
  have hne : directory ≠ "" := by
    rintro rfl
    cases hnotEmpty
  have hfollow : store.follow (store.start (.ofText (usualPath directory)))
      (Path.ofText (usualPath directory)).parts = .ok (around ++ [fileName]) := by
    rw [usualPath, Store.follow_joined Command.isName_fileName.slash hne haround,
      Command.isName_fileName.step hitem]
  -- Where the path leads in the store is where its names lead.
  have hplace : around ++ [fileName] = placeOf store.workingDirectory (usualPath directory) :=
    Store.follow_eq_walk hfollow
  rw [hplace] at hfollow
  have hempty := isEmpty_usualPath directory
  have hread (octets : ByteArray) : store.read (usualPath directory) = .ok octets ↔
      item? = some (.file octets) := by
    rw [Store.read_eq_ok_iff]
    exact ⟨fun h => h.2.2.2, fun h => ⟨hchecked, hempty, hfollow, h⟩⟩
  have hdefaults : loadedIn store none directory = .ok {} ↔
      store.contains (usualPath directory) = .ok false ∨
        (store.contains (usualPath directory) = .ok true ∧
          HeldBy {} (store.read (usualPath directory))) := (decided store directory).defaults
  rw [hdefaults, Store.contains_eq_false_iff hchecked hempty hfollow]
  constructor
  · rintro (hnone | ⟨-, octets, text, hoctets, hheld⟩)
    · exact .inl hnone
    · exact .inr ⟨octets, (hread octets).1 hoctets, octets, text, rfl, hheld⟩
  · rintro (hnone | ⟨octets, hfile, octets', text, hoctets, hheld⟩)
    · exact .inl hnone
    · cases hoctets
      have hoctets := (hread octets).2 hfile
      exact .inr ⟨Store.contains_of_read hoctets, octets, text, hoctets, hheld⟩

end Stores

end ProjectConfig

namespace Command

open Store (DoneAlike SameOutside)

variable {start place : Place} {store other : Store}

/-! ## What is loaded alike -/

theorem load_document_alike (h : SameOutside start place store other) {path : String}
    (hpath : ¬ (Path.ofText path).Enters start place) :
    DoneAlike start place store other ((Descriptor.load path : StateM Store _) store)
      ((Descriptor.load path : StateM Store _) other) := by
  unfold Descriptor.load
  apply DoneAlike.bind (h.readFile hpath)
  intro store' other' h
  cases ((FileAccess.readFile path : StateM Store (Except FileError ByteArray)) store).1 with
  | error error => exact .nothing h _
  | ok octets => exact .nothing h _

theorem loadFile_alike (h : SameOutside start place store other) {path : String}
    (hpath : ¬ (Path.ofText path).Enters start place) :
    DoneAlike start place store other ((ProjectConfig.loadFile path : StateM Store _) store)
      ((ProjectConfig.loadFile path : StateM Store _) other) := by
  unfold ProjectConfig.loadFile
  apply DoneAlike.bind (h.readFile hpath)
  intro store' other' h
  cases ((FileAccess.readFile path : StateM Store (Except FileError ByteArray)) store).1 with
  | error error => exact .nothing h _
  | ok octets =>
    dsimp only
    cases Text.ofUtf8 octets with
    | error flaw => exact .nothing h _
    | ok text => exact .nothing h _

/-- With the configuration named, it is loaded alike. -/
theorem loadConfig_alike (h : SameOutside start place store other) (hstart : ¬ place <+: start)
    {explicit : String} (hconfig : ¬ (Path.ofText explicit).Enters start place)
    (entries : List String) :
    DoneAlike start place store other
      ((loadConfig (some explicit) entries : StateM Store _) store)
      ((loadConfig (some explicit) entries : StateM Store _) other) := by
  have hdirectory : DoneAlike start place store other
      ((FileAccess.workingDirectory : StateM Store (Except FileError String)) store)
      ((FileAccess.workingDirectory : StateM Store (Except FileError String)) other) := by
    show DoneAlike start place store other (store.currentDirectory, store)
      (other.currentDirectory, other)
    rw [h.currentDirectory_eq hstart]
    exact .nothing h _
  unfold loadConfig
  cases typeDefaultsOf entries with
  | error fault => exact .nothing h _
  | ok overrides =>
    apply DoneAlike.bind hdirectory
    intro store' other' h
    cases ((FileAccess.workingDirectory : StateM Store (Except FileError String)) store).1 with
    | error error => exact .nothing h _
    | ok directory =>
      apply DoneAlike.bind (loadFile_alike h hconfig)
      intro store'' other'' h
      cases ((ProjectConfig.loadFile explicit : StateM Store _) store').1 with
      | error fault => exact .nothing h _
      | ok config => exact .nothing h _

/-- With the configuration named, everything is loaded alike. -/
theorem loadInputs_alike (h : SameOutside start place store other) (hstart : ¬ place <+: start)
    {input : String} {defaults : DefaultsOptions} {explicit : String}
    (hexplicit : defaults.config = some explicit)
    (hinput : ¬ (Path.ofText input).Enters start place)
    (hconfig : ¬ (Path.ofText explicit).Enters start place) :
    DoneAlike start place store other
      ((loadInputs input defaults.config defaults.typeDefaults : StateM Store _) store)
      ((loadInputs input defaults.config defaults.typeDefaults : StateM Store _) other) := by
  rw [hexplicit]
  unfold loadInputs
  apply DoneAlike.bind (load_document_alike h hinput)
  intro store' other' h
  cases ((Descriptor.load input : StateM Store _) store).1 with
  | error fault => exact .nothing h _
  | ok document =>
    apply DoneAlike.bind (loadConfig_alike h hstart hconfig defaults.typeDefaults)
    intro store'' other'' h
    cases ((loadConfig (some explicit) defaults.typeDefaults : StateM Store _) store').1 with
    | error fault => exact .nothing h _
    | ok config => exact .nothing h _

/-! ## What is written alike -/

theorem writeAll_alike {files : List (String × String)} (h : SameOutside start place store other)
    (hfiles : ∀ file ∈ files, ¬ (Path.ofText file.1).Enters start place) :
    DoneAlike start place store other
      ((writeAll files : StateM Store (Except FileError Unit)) store)
      ((writeAll files : StateM Store (Except FileError Unit)) other) := by
  induction files generalizing store other with
  | nil => exact .nothing h _
  | cons file files ih =>
    unfold writeAll
    apply DoneAlike.bind (h.writeFile (hfiles file List.mem_cons_self) file.2)
    intro store' other' h
    cases ((FileAccess.writeFile file.1 file.2 :
      StateM Store (Except FileError Unit)) store).1 with
    | error error => exact .nothing h _
    | ok done => exact ih h fun file hfile => hfiles file (List.mem_cons_of_mem _ hfile)

/-- A directory is made alike and what follows is done alike. -/
theorem makeDirectories_then_alike (h : SameOutside start place store other) {directory : String}
    (hdirectory : ¬ (Path.ofText directory).Enters start place)
    {next : StateM Store (Except FileError Unit)}
    (hnext : ∀ store' other', SameOutside start place store' other' →
      DoneAlike start place store' other' (next store') (next other')) :
    let program : StateM Store (Except FileError Unit) := do
      match ← FileAccess.makeDirectories directory with
      | .error error => return .error error
      | .ok () => next
    DoneAlike start place store other (program store) (program other) := by
  intro program
  apply DoneAlike.bind (h.makeDirectories hdirectory)
  intro store' other' h
  cases ((FileAccess.makeDirectories directory :
    StateM Store (Except FileError Unit)) store).1 with
  | error error => exact .nothing h _
  | ok done => exact hnext store' other' h

theorem writeOutput_alike (h : SameOutside start place store other) {mode : OutputMode}
    {path : String} {output : GenerationOutput} (hpath : ¬ (Path.ofText path).Enters start place)
    (hfiles : ∀ file ∈ outputFiles mode path output, ¬ (Path.ofText file.1).Enters start place) :
    DoneAlike start place store other
      ((writeOutput mode path output : StateM Store (Except FileError Unit)) store)
      ((writeOutput mode path output : StateM Store (Except FileError Unit)) other) := by
  cases mode with
  | perClass => exact makeDirectories_then_alike h hpath fun _ _ h => writeAll_alike h hfiles
  | combined =>
    have hfile (store' other' : Store) (h : SameOutside start place store' other') :=
      h.writeFile hpath output.combined
    -- The directory around the file is made first, if the path has one in front of its name.
    unfold writeOutput writeCombined
    cases hparent : (Path.ofText path).parent? with
    | none => exact hfile _ _ h
    | some parent =>
      cases hempty : parent.isEmpty with
      | true =>
        simp only [hempty]
        exact hfile _ _ h
      | false =>
        simp only [hempty]
        apply makeDirectories_then_alike h _ hfile
        intro hparents
        exact hpath (hparents.of_parent_text hparent hempty)

/-! ## Runs that are alike -/

/-- Where a request takes type defaults from. -/
def Request.defaults : Request → DefaultsOptions
  | .list options => options.defaults
  | .generate options => options.defaults

/-- The descriptor of a request. -/
def Request.input : Request → String
  | .list options => options.input
  | .generate options => options.input

/-- The paths of a request: of what it reads, and of what it writes if everything is loaded. -/
inductive Uses (store : Store) : Request → String → Prop where
  | input (request : Request) : Uses store request request.input
  | config {request : Request} {path : String} (h : request.defaults.config = some path) :
    Uses store request path
  | output {options : GenerateOptions} {path : String} (h : options.outputPath = .ok path) :
    Uses store (.generate options) path
  | file {options : GenerateOptions} {path : String} {document : Document} {config : ProjectConfig}
    {file : String × String} (h : Loads store options path document config)
    (hfile : file ∈ outputFiles options.mode path
      (generate (config.settings options.header) document options.input)) :
    Uses store (.generate options) file.1

theorem generateLoaded_alike (h : SameOutside start place store other) (reporter : Reporter)
    {options : GenerateOptions} {path : String} {document : Document} {config : ProjectConfig}
    (printed : String) (hpath : ¬ (Path.ofText path).Enters start place)
    (hfiles : ∀ file ∈ outputFiles options.mode path
        (generate (config.settings options.header) document options.input),
      ¬ (Path.ofText file.1).Enters start place) :
    DoneAlike start place store other
      ((generateLoaded reporter options path document config printed : StateM Store Outcome) store)
      ((generateLoaded reporter options path document config printed : StateM Store Outcome)
        other) := by
  unfold generateLoaded
  apply DoneAlike.bind (writeOutput_alike h hpath hfiles)
  intro store' other' h
  cases ((writeOutput options.mode path (generate (config.settings options.header) document
    options.input) : StateM Store (Except FileError Unit)) store).1 with
  | error error => exact .nothing h _
  | ok done => exact .nothing h _

/-- With the configuration named, listing is done alike. -/
theorem runList_alike (h : SameOutside start place store other) (hstart : ¬ place <+: start)
    (environment : Environment) (coloring : Coloring) {options : ListOptions} {explicit : String}
    (hexplicit : options.defaults.config = some explicit)
    (huses : ∀ path, Uses store (.list options) path →
      ¬ (Path.ofText path).Enters start place) :
    DoneAlike start place store other
      ((runList environment coloring options : StateM Store Outcome) store)
      ((runList environment coloring options : StateM Store Outcome) other) := by
  have hinput : ¬ (Path.ofText options.input).Enters start place := huses _ (.input _)
  unfold runList
  apply DoneAlike.bind (loadInputs_alike h hstart hexplicit hinput (huses _ (.config hexplicit)))
  intro store' other' h
  cases ((loadInputs options.input options.defaults.config options.defaults.typeDefaults :
    StateM Store _) store).1 with
  | error fault => exact .nothing h _
  | ok loaded => exact .nothing h _

/-- With the configuration named, generating is done alike. -/
theorem runGenerate_alike (h : SameOutside start place store other) (hstart : ¬ place <+: start)
    (environment : Environment) (coloring : Coloring) {options : GenerateOptions} {explicit : String}
    (hexplicit : options.defaults.config = some explicit)
    (huses : ∀ path, Uses store (.generate options) path →
      ¬ (Path.ofText path).Enters start place) :
    DoneAlike start place store other
      ((runGenerate environment coloring options : StateM Store Outcome) store)
      ((runGenerate environment coloring options : StateM Store Outcome) other) := by
  have hinput : ¬ (Path.ofText options.input).Enters start place := huses _ (.input _)
  unfold runGenerate
  cases hpath : options.outputPath with
  | error fault => exact .nothing h _
  | ok path =>
    apply DoneAlike.bind (loadInputs_alike h hstart hexplicit hinput (huses _ (.config hexplicit)))
    intro store' other' h
    -- What is loaded in one store is loaded in the other, so the same files are written.
    rcases loadInputs_cases store options.input options.defaults with
      ⟨document, config, hloaded, hinputs⟩ | ⟨fault, hloaded, -⟩
    · rw [hloaded]
      apply generateLoaded_alike h _ _ (huses path (.output hpath))
      intro file hfile
      exact huses file.1 (.file ⟨hpath, hinputs⟩ hfile)
    · rw [hloaded]
      exact .nothing h _

/-- A request that names its configuration is run alike in two stores that are the same outside a
place, if nothing that it uses comes there. -/
theorem invocation_run_alike (h : SameOutside start place store other) (hstart : ¬ place <+: start)
    (environment : Environment) (invocation : Invocation) {explicit : String}
    (hexplicit : invocation.request.defaults.config = some explicit)
    (huses : ∀ path, Uses store invocation.request path →
      ¬ (Path.ofText path).Enters start place) :
    DoneAlike start place store other ((invocation.run environment : StateM Store Outcome) store)
      ((invocation.run environment : StateM Store Outcome) other) := by
  unfold Invocation.run
  cases hrequest : invocation.request with
  | list options =>
    rw [hrequest] at hexplicit huses
    exact runList_alike h hstart environment _ hexplicit huses
  | generate options =>
    rw [hrequest] at hexplicit huses
    exact runGenerate_alike h hstart environment _ hexplicit huses

/-- The usual file of the working directory is not around that directory. -/
theorem not_leads_to_usualPlace (store : Store) :
    ¬ placeOf store.workingDirectory (ProjectConfig.usualPath store.directoryPath) <+:
      store.workingDirectory := by
  have hplace : placeOf store.workingDirectory (ProjectConfig.usualPath store.directoryPath) =
      store.workingDirectory ++ [ProjectConfig.fileName] := by
    rw [ProjectConfig.usualPath, placeOf_joined, store.placeOf_directoryPath]
    exact Place.walk_names (by decide) _
  intro hprefix
  have hlength := hprefix.length_le
  rw [hplace, List.length_append, List.length_singleton] at hlength
  omega

/-- One file decides the configuration, whatever the file system answers. In a store, a directory
that is there gives the defaults exactly if it has no usual file or that file holds them. A file
that is named by a path that does not come through the usual one decides alone: in two stores that
differ only at the usual file, the same is loaded from it, and a run whose other paths do not come
through there either ends the same, prints the same and writes the same. -/
theorem one_file_decides :
    (∀ {σ : Type} [FileAccess (StateM σ)] (state : σ) (directory : String),
      ProjectConfig.Decided state directory) ∧
    (∀ (store : Store) (directory : String),
      let usual := ProjectConfig.usualPath directory
      let item? := store.itemAt? (placeOf store.workingDirectory usual)
      store.isDirectory (.ofText directory) = true → Store.checked usual = .ok (.ofText usual) →
        (ProjectConfig.loadedIn store none directory = .ok {} ↔
          item? = none ∨
            ∃ octets, item? = some (.file octets) ∧ ProjectConfig.HeldBy {} (.ok octets))) ∧
    (∀ (store other : Store) (directory explicit : String),
      let start := store.workingDirectory
      let place := placeOf start (ProjectConfig.usualPath directory)
      SameOutside start place store other → ¬ (Path.ofText explicit).Enters start place →
        ProjectConfig.loadedIn other (some explicit) directory =
          ProjectConfig.loadedIn store (some explicit) directory) ∧
    (∀ (environment : Environment) (arguments : List String) (invocation : Invocation)
        (explicit : String) (store other : Store),
      let start := store.workingDirectory
      let place := placeOf start (ProjectConfig.usualPath store.directoryPath)
      readInvocation arguments = .ok invocation →
      invocation.request.defaults.config = some explicit →
      SameOutside start place store other →
      (∀ path, Uses store invocation.request path →
        ¬ (Path.ofText path).Enters start place) →
        DoneAlike start place store other
          ((run environment arguments : StateM Store Outcome) store)
          ((run environment arguments : StateM Store Outcome) other)) := by
  refine ⟨ProjectConfig.decided, ?_, ?_, ?_⟩
  · intro store directory usual item? hdirectory hchecked
    exact ProjectConfig.loadedIn_none_eq_default_iff hdirectory hchecked
  · intro store other directory explicit start place h hexplicit
    exact (loadFile_alike h hexplicit).answer
  · intro environment arguments invocation explicit store other start place hread hexplicit h huses
    simp only [run, hread]
    exact invocation_run_alike h (not_leads_to_usualPlace store) environment invocation hexplicit
      huses

/-- The store of `mixedStore` with a configuration that is named. -/
def settledStore : Store := mixedStore.put ["work", "settings.toml"] (.file "".toUTF8)

/-- The place of the usual file in the working directory. -/
def usualPlace : Place := placeOf ["work"] (ProjectConfig.usualPath "/work")

/-- The same store, with a usual file that is broken. -/
def brokenStore : Store := settledStore.put usualPlace (.file "]".toUTF8)

/-- What is asked for with a configuration that is named. -/
def settledOptions : GenerateOptions :=
  { mixedOptions with defaults := { config := some "settings.toml" } }

/-- Nothing that the run uses comes to the usual file. -/
theorem settled_uses {path : String}
    (h : Uses settledStore (.generate settledOptions) path) :
    ¬ (Path.ofText path).Enters ["work"] usualPlace := by
  have houtput : ¬ (Path.ofText "out/all.dart").Enters ["work"] usualPlace := by decide
  cases h with
  | input => decide
  | config h =>
    cases h
    decide
  | output h =>
    cases h
    exact houtput
  | file h hfile =>
    obtain ⟨⟨⟩, -⟩ := h
    rw [List.mem_singleton.1 hfile]
    exact houtput

theorem read_broken :
    brokenStore.read (ProjectConfig.usualPath "/work") = .ok "]".toUTF8 := by
  have hfollow : brokenStore.follow [] ["work", "factory_gen.toml"] = .ok usualPlace := by
    decide +kernel
  rw [Store.read_eq_ok_iff]
  refine ⟨by decide +kernel, by decide, hfollow, ?_⟩
  exact (Store.itemAt?_put (by decide) settledStore _).trans (if_pos rfl)

/-- A bracket is no configuration. -/
theorem bracket_unusable : ProjectConfig.Unusable (.ok "]".toUTF8) := by
  have hnone : (Text.ofUtf8 "]".toUTF8).toOption.bind
      (fun text => (configOfToml text).toOption) = none := by decide +kernel
  cases htext : Text.ofUtf8 "]".toUTF8 with
  | error flaw => exact .notUtf8 htext
  | ok text =>
    cases hconfig : configOfToml text with
    | error fault => exact .invalid htext hconfig
    | ok config =>
      rw [htext, Except.toOption, Option.bind_some, hconfig] at hnone
      cases hnone

/-- The broken file is an error without a name, and it makes no difference to a run that names
another. -/
theorem broken_file_decides_alone :
    let environment : Environment := { clock := "[12:00:00]" }
    let arguments :=
      ["generate", "-i", "m.json", "-o", "out/all.dart", "--config", "settings.toml"]
    readInvocation arguments = .ok ⟨.generate settledOptions, .auto, .auto⟩ ∧
      SameOutside ["work"] usualPlace settledStore brokenStore ∧
      (∃ fault, ProjectConfig.loadedIn brokenStore none "/work" = .error fault ∧
        fault.Names "/work/factory_gen.toml") ∧
      ProjectConfig.loadedIn settledStore none "/work" = .ok {} ∧
      ProjectConfig.loadedIn brokenStore (some "settings.toml") "/work" =
        ProjectConfig.loadedIn settledStore (some "settings.toml") "/work" ∧
      DoneAlike ["work"] usualPlace settledStore brokenStore
        ((run environment arguments : StateM Store Outcome) settledStore)
        ((run environment arguments : StateM Store Outcome) brokenStore) := by
  intro environment arguments
  have hread : readInvocation arguments = .ok ⟨.generate settledOptions, .auto, .auto⟩ := by rfl
  have hsame : SameOutside ["work"] usualPlace settledStore brokenStore :=
    .of_put settledStore usualPlace _
  obtain ⟨hdecided, hdefault, hload, hrun⟩ := one_file_decides
  refine ⟨hread, hsame, ?_, ?_, ?_, ?_⟩
  · apply (hdecided brokenStore "/work").usualRefused
    right
    refine ⟨Store.contains_of_read read_broken, ?_⟩
    show ProjectConfig.Unusable (brokenStore.read (ProjectConfig.usualPath "/work"))
    rw [read_broken]
    exact bracket_unusable
  · apply (hdefault settledStore "/work" (by decide +kernel) (by decide +kernel)).2
    left
    decide +kernel
  · exact hload settledStore brokenStore "/work" "settings.toml" hsame (by decide)
  · exact hrun environment arguments _ "settings.toml" settledStore brokenStore hread rfl hsame
      fun path => settled_uses

/-- The store of `mixedStore` with a configuration of a file suffix. -/
def suffixStore : Store :=
  mixedStore.put ["work", "s.toml"] (.file "[factory_gen]\nfile_suffix = \".x\"\n".toUTF8)

/-- The path leads to another file than the usual one, but through it. Where the usual file is
missing the load fails, and where a directory has its name the load succeeds. -/
theorem path_through_usual_file :
    let explicit := "factory_gen.toml/../s.toml"
    let other := suffixStore.put usualPlace .directory
    suffixStore.workingDirectory = ["work"] ∧ usualPlace = ["work", "factory_gen.toml"] ∧
      placeOf ["work"] explicit = ["work", "s.toml"] ∧
      SameOutside ["work"] usualPlace suffixStore other ∧
      ProjectConfig.loadedIn suffixStore (some explicit) "/work" =
        .error (.unreadable explicit .missing) ∧
      ProjectConfig.loadedIn other (some explicit) "/work" = .ok { fileSuffix := ".x" } := by
  intro explicit other
  exact ⟨rfl, by decide +kernel, by decide +kernel, .of_put suffixStore usualPlace _,
    by decide +kernel, by decide +kernel⟩

end Command

end ModelFactory
