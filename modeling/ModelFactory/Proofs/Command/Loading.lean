import ModelFactory.Command.Options
import ModelFactory.Command.Outcome
import ModelFactory.Files.Store
import ModelFactory.Proofs.Results

/-!
# What a run loads

Loading is told by what the files of a store hold: a path holds a text (`Store.HoldsText`), or there
is no text to be read from it (`Store.NoText`). From that follow what a run loads
(`Command.LoadsInputs`) and why it is refused (`Command.InputsRefused`): one of the two is always so
(`Command.loadInputs_cases`), never both (`Command.LoadsInputs.not_refused`), and the store stays as
it is.
-/

set_option autoImplicit false

namespace ModelFactory

open Files (FileError Store)

/-! ## Text in files -/

namespace Files.Store

/-- The file that the path leads to holds the text. -/
def HoldsText (store : Store) (path text : String) : Prop :=
  ∃ octets, store.read path = .ok octets ∧ Text.ofUtf8 octets = .ok text

/-- No text can be read from the path. -/
inductive NoText (store : Store) (path : String) : Prop where
  | unreadable {error : FileError} (h : store.read path = .error error)
  | notUtf8 {octets : ByteArray} {flaw : Text.Utf8Flaw} (h : store.read path = .ok octets)
    (hflaw : Text.ofUtf8 octets = .error flaw)

variable {store : Store} {path text : String}

theorem HoldsText.not_noText (h : store.HoldsText path text) : ¬ store.NoText path := by
  obtain ⟨octets, hread, htext⟩ := h
  intro hno
  cases hno with
  | unreadable herror =>
    rw [hread] at herror
    cases herror
  | notUtf8 hoctets hflaw =>
    rw [hread] at hoctets
    cases hoctets
    rw [htext] at hflaw
    cases hflaw

/-- A path holds one text. -/
theorem HoldsText.unique {other : String} (h : store.HoldsText path text)
    (hother : store.HoldsText path other) : text = other := by
  obtain ⟨octets, hread, htext⟩ := h
  obtain ⟨octets', hread', htext'⟩ := hother
  rw [hread] at hread'
  cases hread'
  rw [htext] at htext'
  cases htext'
  rfl

end Files.Store

/-! ## The descriptor -/

namespace Descriptor

variable {store : Store} {path : String}

/-- The path holds the document, in the format that the path tells. -/
def LoadsDocument (store : Store) (path : String) (document : Document) : Prop :=
  ∃ text, store.HoldsText path text ∧ documentOf (.ofPath path) text = .ok document

/-- No document can be loaded from the path. -/
inductive DocumentRefused (store : Store) (path : String) : Prop where
  | noText (h : store.NoText path)
  | invalid {text : String} {fault : TextFault} (h : store.HoldsText path text)
    (hfault : documentOf (.ofPath path) text = .error fault)

theorem LoadsDocument.not_refused {document : Document} (h : LoadsDocument store path document) :
    ¬ DocumentRefused store path := by
  obtain ⟨text, htext, hdocument⟩ := h
  intro hrefused
  cases hrefused with
  | noText hno => exact htext.not_noText hno
  | invalid hother hfault =>
    rw [← htext.unique hother, hdocument] at hfault
    cases hfault

/-- A path holds one document. -/
theorem LoadsDocument.unique {document other : Document} (h : LoadsDocument store path document)
    (hother : LoadsDocument store path other) : document = other := by
  obtain ⟨text, htext, hdocument⟩ := h
  obtain ⟨text', htext', hdocument'⟩ := hother
  rw [← htext.unique htext', hdocument] at hdocument'
  cases hdocument'
  rfl

/-- Loading a document gives the document that the path holds, or there is none. -/
theorem load_cases (store : Store) (path : String) :
    (∃ document, (load path : StateM Store _) store = (.ok document, store) ∧
      LoadsDocument store path document) ∨
    (∃ fault, (load path : StateM Store _) store = (.error fault, store) ∧
      DocumentRefused store path) := by
  cases hread : store.read path with
  | error error =>
    right
    refine ⟨.unreadable path (mappingError error), ?_, .noText (.unreadable hread)⟩
    simp only [load, bind, StateT.bind, Files.FileAccess.readFile, hread]
    rfl
  | ok octets =>
    have hload : (load path : StateM Store _) store =
        (documentOfOctets (.ofPath path) octets, store) := by
      simp only [load, bind, StateT.bind, Files.FileAccess.readFile, hread]
      rfl
    rw [hload]
    cases htext : Text.ofUtf8 octets with
    | error flaw =>
      right
      refine ⟨.noText flaw, ?_, .noText (.notUtf8 hread htext)⟩
      simp only [documentOfOctets, htext]
      rfl
    | ok text =>
      cases hdocument : documentOf (.ofPath path) text with
      | error fault =>
        right
        refine ⟨.invalid text fault, ?_, .invalid ⟨octets, hread, htext⟩ hdocument⟩
        simp only [documentOfOctets, htext, hdocument, Except.mapError, bind, Except.bind]
      | ok document =>
        left
        refine ⟨document, ?_, text, ⟨octets, hread, htext⟩, hdocument⟩
        simp only [documentOfOctets, htext, hdocument, Except.mapError, bind, Except.bind]

end Descriptor

/-! ## The configuration -/

namespace ProjectConfig

variable {store : Store} {directory : String} {explicit : Option String}

/-- The path of the usual file in a directory. -/
def usualPath (directory : String) : String := Files.Path.joined directory fileName

/-- The file that the configuration has to be in: the one that is named, or the usual one if it is
there. -/
inductive ConfigFile (store : Store) (directory : String) : Option String → String → Prop where
  | named (path : String) : ConfigFile store directory (some path) path
  | usual (h : store.contains (usualPath directory) = .ok true) :
    ConfigFile store directory none (usualPath directory)

/-- The configuration is loaded from its file, or there is no such file and the defaults hold. -/
inductive LoadsConfig (store : Store) (directory : String) :
    Option String → ProjectConfig → Prop where
  | file {explicit : Option String} {path text : String} {config : ProjectConfig}
    (hfile : ConfigFile store directory explicit path) (h : store.HoldsText path text)
    (hconfig : configOfToml text = .ok config) : LoadsConfig store directory explicit config
  | absent (h : store.contains (usualPath directory) = .ok false) :
    LoadsConfig store directory none {}

/-- No configuration can be loaded. -/
inductive ConfigRefused (store : Store) (directory : String) : Option String → Prop where
  /-- It cannot be told whether the usual file is there. -/
  | unknown {error : FileError} (h : store.contains (usualPath directory) = .error error) :
    ConfigRefused store directory none
  | noText {explicit : Option String} {path : String}
    (hfile : ConfigFile store directory explicit path) (h : store.NoText path) :
    ConfigRefused store directory explicit
  | invalid {explicit : Option String} {path text : String} {fault : Toml.Fault}
    (hfile : ConfigFile store directory explicit path) (h : store.HoldsText path text)
    (hfault : configOfToml text = .error fault) : ConfigRefused store directory explicit

theorem ConfigFile.unique {path other : String} (h : ConfigFile store directory explicit path)
    (hother : ConfigFile store directory explicit other) : path = other := by
  cases h with
  | named => cases hother; rfl
  | usual => cases hother; rfl

theorem LoadsConfig.not_refused {config : ProjectConfig}
    (h : LoadsConfig store directory explicit config) :
    ¬ ConfigRefused store directory explicit := by
  intro hrefused
  cases h with
  | file hfile htext hconfig =>
    cases hrefused with
    | unknown herror =>
      cases hfile with
      | usual hthere =>
        rw [hthere] at herror
        cases herror
    | noText hother hno =>
      obtain rfl := hfile.unique hother
      exact htext.not_noText hno
    | invalid hother htext' hfault =>
      obtain rfl := hfile.unique hother
      rw [← htext.unique htext', hconfig] at hfault
      cases hfault
  | absent hmissing =>
    -- Without the usual file there is no file to be refused.
    have hnone {path : String} (hfile : ConfigFile store directory none path) : False := by
      cases hfile with
      | usual hthere =>
        rw [hmissing] at hthere
        cases hthere
    cases hrefused with
    | unknown herror =>
      rw [hmissing] at herror
      cases herror
    | noText hfile => exact hnone hfile
    | invalid hfile => exact hnone hfile

/-- One configuration is loaded. -/
theorem LoadsConfig.unique {config other : ProjectConfig}
    (h : LoadsConfig store directory explicit config)
    (hother : LoadsConfig store directory explicit other) : config = other := by
  cases h with
  | file hfile htext hconfig =>
    cases hother with
    | file hfile' htext' hconfig' =>
      obtain rfl := hfile.unique hfile'
      rw [← htext.unique htext', hconfig] at hconfig'
      cases hconfig'
      rfl
    | absent hmissing =>
      cases hfile with
      | usual hthere =>
        rw [hthere] at hmissing
        cases hmissing
  | absent hmissing =>
    cases hother with
    | file hfile' =>
      cases hfile' with
      | usual hthere =>
        rw [hmissing] at hthere
        cases hthere
    | absent => rfl

theorem loadFile_cases {path : String} (hfile : ConfigFile store directory explicit path) :
    (∃ config, (loadFile path : StateM Store _) store = (.ok config, store) ∧
      LoadsConfig store directory explicit config) ∨
    (∃ fault, (loadFile path : StateM Store _) store = (.error fault, store) ∧
      ConfigRefused store directory explicit) := by
  cases hread : store.read path with
  | error error =>
    right
    refine ⟨.unreadable path error, ?_, .noText hfile (.unreadable hread)⟩
    simp only [loadFile, bind, StateT.bind, Files.FileAccess.readFile, hread]
    rfl
  | ok octets =>
    cases htext : Text.ofUtf8 octets with
    | error flaw =>
      right
      refine ⟨.unreadable path .notText, ?_, .noText hfile (.notUtf8 hread htext)⟩
      simp only [loadFile, bind, StateT.bind, Files.FileAccess.readFile, hread, htext]
      rfl
    | ok text =>
      have hload : (loadFile path : StateM Store _) store =
          ((configOfToml text).mapError (.invalid path text), store) := by
        simp only [loadFile, bind, StateT.bind, Files.FileAccess.readFile, hread, htext]
        rfl
      rw [hload]
      cases hconfig : configOfToml text with
      | error fault =>
        right
        exact ⟨.invalid path text fault, rfl, .invalid hfile ⟨octets, hread, htext⟩ hconfig⟩
      | ok config =>
        left
        exact ⟨config, rfl, .file hfile ⟨octets, hread, htext⟩ hconfig⟩

/-- Loading a configuration gives the one of the store, or there is none. -/
theorem load_cases (store : Store) (explicit : Option String) (directory : String) :
    (∃ config, (load explicit directory : StateM Store _) store = (.ok config, store) ∧
      LoadsConfig store directory explicit config) ∨
    (∃ fault, (load explicit directory : StateM Store _) store = (.error fault, store) ∧
      ConfigRefused store directory explicit) := by
  cases explicit with
  | some path => exact loadFile_cases (.named path)
  | none =>
    cases hthere : store.contains (usualPath directory) with
    | error error =>
      right
      refine ⟨.unknown (usualPath directory) error, ?_, .unknown hthere⟩
      rw [usualPath] at hthere ⊢
      simp only [load, bind, StateT.bind, Files.FileAccess.isThere, hthere]
      rfl
    | ok found =>
      cases found with
      | false =>
        left
        refine ⟨{}, ?_, .absent hthere⟩
        rw [usualPath] at hthere
        simp only [load, bind, StateT.bind, Files.FileAccess.isThere, hthere]
        rfl
      | true =>
        have hload : (load none directory : StateM Store _) store =
            (loadFile (usualPath directory) : StateM Store _) store := by
          rw [usualPath] at hthere ⊢
          simp only [load, bind, StateT.bind, Files.FileAccess.isThere, hthere]
        rw [hload]
        exact loadFile_cases (.usual hthere)

end ProjectConfig

/-! ## Type defaults of the command line -/

namespace Command

/-- The entry has no equals sign, or nothing but blanks before the first one. -/
def Malformed (entry : String) : Prop :=
  '=' ∉ entry.toList ∨ Unicode.trimmed (.ofList (entry.toList.takeWhile (· != '='))) = ""

theorem splitAtEquals?_eq_none_iff (chars : List Char) :
    splitAtEquals? chars = none ↔ '=' ∉ chars := by
  fun_induction splitAtEquals? chars with
  | case1 => simp
  | case2 rest => simp
  | case3 char rest hchar ih =>
    have hne : ¬ '=' = char := fun h => hchar h.symm
    rw [Option.map_eq_none_iff, ih, List.mem_cons, not_or]
    exact ⟨fun h => ⟨hne, h⟩, fun h => h.2⟩

/-- The type stands before the first equals sign. -/
theorem splitAtEquals?_type {chars type expression : List Char}
    (h : splitAtEquals? chars = some (type, expression)) : type = chars.takeWhile (· != '=') := by
  fun_induction splitAtEquals? chars generalizing type with
  | case1 => cases h
  | case2 rest =>
    cases h
    rfl
  | case3 char rest hchar ih =>
    obtain ⟨⟨type', expression'⟩, hrest, heq⟩ := Option.map_eq_some_iff.1 h
    cases heq
    rw [List.takeWhile_cons_of_pos (by simpa using hchar), ih hrest]

/-- An entry is refused if it is malformed. -/
theorem malformed_iff (entry : String) :
    Malformed entry ↔ ∃ fault, readEntry entry = .error fault := by
  unfold Malformed readEntry
  rw [← splitAtEquals?_eq_none_iff]
  cases hsplit : splitAtEquals? entry.toList with
  | none => exact ⟨fun _ => ⟨_, rfl⟩, fun _ => .inl rfl⟩
  | some parts =>
    obtain ⟨type, expression⟩ := parts
    rw [← splitAtEquals?_type hsplit]
    dsimp only
    by_cases hempty : Unicode.trimmed (.ofList type) = ""
    · rw [if_pos hempty]
      exact ⟨fun _ => ⟨_, rfl⟩, fun _ => .inr hempty⟩
    · rw [if_neg hempty]
      constructor
      · rintro (h | h)
        · cases h
        · exact absurd h hempty
      · rintro ⟨fault, h⟩
        cases h

/-- The entries of the command line, each with a type, give the table. -/
def LoadsTypeDefaults (entries : List String) (overrides : OverrideTable) : Prop :=
  ∃ given, List.Forall₂ (fun entry given => readEntry entry = .ok given) entries given ∧
    overrides = .ofEntries given

theorem LoadsTypeDefaults.not_malformed {entries : List String} {overrides : OverrideTable}
    (h : LoadsTypeDefaults entries overrides) : ∀ entry ∈ entries, ¬ Malformed entry := by
  obtain ⟨given, hgiven, -⟩ := h
  intro entry hentry hmalformed
  obtain ⟨fault, hfault⟩ := (malformed_iff entry).1 hmalformed
  induction hgiven with
  | nil => cases hentry
  | cons hfirst hrest ih =>
    rcases List.mem_cons.1 hentry with rfl | hentry
    · rw [hfirst] at hfault
      cases hfault
    · exact ih hentry

theorem LoadsTypeDefaults.unique {entries : List String} {overrides other : OverrideTable}
    (h : LoadsTypeDefaults entries overrides) (hother : LoadsTypeDefaults entries other) :
    overrides = other := by
  obtain ⟨given, hgiven, rfl⟩ := h
  obtain ⟨given', hgiven', rfl⟩ := hother
  rw [← Results.mapM_eq_ok_iff] at hgiven hgiven'
  rw [hgiven] at hgiven'
  cases hgiven'
  rfl

/-- The entries give a table, or one of them is malformed. -/
theorem typeDefaultsOf_cases (entries : List String) :
    (∃ overrides, typeDefaultsOf entries = .ok overrides ∧ LoadsTypeDefaults entries overrides) ∨
    (∃ fault, typeDefaultsOf entries = .error fault ∧ ∃ entry ∈ entries, Malformed entry) := by
  unfold typeDefaultsOf
  cases hgiven : entries.mapM readEntry with
  | error fault =>
    right
    obtain ⟨entry, hentry, hfault⟩ := Results.exists_of_mapM_eq_error hgiven
    exact ⟨fault, rfl, entry, hentry, (malformed_iff entry).2 ⟨fault, hfault⟩⟩
  | ok given =>
    left
    exact ⟨.ofEntries given, rfl, given, Results.mapM_eq_ok_iff.1 hgiven, rfl⟩

/-! ## Everything that is loaded -/

variable {store : Store} {input : String} {defaults : DefaultsOptions}

/-- The document and the configuration that a run loads, the type defaults of the command line laid
over those of the project. The working directory is there, also if the configuration is named. -/
structure LoadsInputs (store : Store) (input : String) (defaults : DefaultsOptions)
    (document : Document) (config : ProjectConfig) : Prop where
  document : Descriptor.LoadsDocument store input document
  config : ∃ directory project overrides, store.currentDirectory = .ok directory ∧
    ProjectConfig.LoadsConfig store directory defaults.config project ∧
      LoadsTypeDefaults defaults.typeDefaults overrides ∧
        config = project.withTypeDefaults overrides

/-- Something that a run has to load is refused. Without a working directory no configuration is
loaded, not even one that is named. -/
inductive InputsRefused (store : Store) (input : String) (defaults : DefaultsOptions) : Prop where
  | document (h : Descriptor.DocumentRefused store input)
  | typeDefault {entry : String} (hentry : entry ∈ defaults.typeDefaults) (h : Malformed entry)
  | noDirectory {error : FileError} (h : store.currentDirectory = .error error)
  | config {directory : String} (hdirectory : store.currentDirectory = .ok directory)
    (h : ProjectConfig.ConfigRefused store directory defaults.config)

theorem LoadsInputs.not_refused {document : Document} {config : ProjectConfig}
    (h : LoadsInputs store input defaults document config) :
    ¬ InputsRefused store input defaults := by
  obtain ⟨hdocument, directory, project, overrides, hdirectory, hconfig, hoverrides, -⟩ := h
  intro hrefused
  cases hrefused with
  | document hrefused => exact hdocument.not_refused hrefused
  | typeDefault hentry hmalformed => exact hoverrides.not_malformed _ hentry hmalformed
  | noDirectory hgone =>
    rw [hdirectory] at hgone
    cases hgone
  | config hother hrefused =>
    rw [hdirectory] at hother
    cases hother
    exact hconfig.not_refused hrefused

/-- A run loads one document and one configuration. -/
theorem LoadsInputs.unique {document document' : Document} {config config' : ProjectConfig}
    (h : LoadsInputs store input defaults document config)
    (h' : LoadsInputs store input defaults document' config') :
    document = document' ∧ config = config' := by
  obtain ⟨hdocument, directory, project, overrides, hdirectory, hconfig, hoverrides, rfl⟩ := h
  obtain ⟨hdocument', directory', project', overrides', hdirectory', hconfig', hoverrides', rfl⟩ :=
    h'
  rw [hdirectory] at hdirectory'
  cases hdirectory'
  refine ⟨hdocument.unique hdocument', ?_⟩
  rw [hconfig.unique hconfig', hoverrides.unique hoverrides']

/-- The configuration of a run is loaded, or there is none to be loaded. -/
theorem loadConfig_cases (store : Store) (defaults : DefaultsOptions) :
    (∃ directory project overrides,
      (loadConfig defaults.config defaults.typeDefaults : StateM Store _) store =
        (.ok (project.withTypeDefaults overrides), store) ∧
      store.currentDirectory = .ok directory ∧
      ProjectConfig.LoadsConfig store directory defaults.config project ∧
      LoadsTypeDefaults defaults.typeDefaults overrides) ∨
    (∃ fault, (loadConfig defaults.config defaults.typeDefaults : StateM Store _) store =
        (.error fault, store) ∧
      ∀ input, InputsRefused store input defaults) := by
  rcases typeDefaultsOf_cases defaults.typeDefaults with
    ⟨overrides, hgiven, hoverrides⟩ | ⟨fault, hgiven, entry, hentry, hmalformed⟩
  · cases hdirectory : store.currentDirectory with
    | error error =>
      right
      refine ⟨.noDirectory error, ?_, fun input => .noDirectory hdirectory⟩
      simp only [loadConfig, bind, StateT.bind, hgiven, Files.FileAccess.workingDirectory,
        hdirectory]
      rfl
    | ok directory =>
      rcases ProjectConfig.load_cases store defaults.config directory with
        ⟨project, hproject, hconfig⟩ | ⟨fault, hproject, hrefused⟩
      · left
        refine ⟨directory, project, overrides, ?_, rfl, hconfig, hoverrides⟩
        simp only [loadConfig, bind, StateT.bind, hgiven, Files.FileAccess.workingDirectory,
          hdirectory, hproject]
        rfl
      · right
        refine ⟨.config fault, ?_, fun input => .config hdirectory hrefused⟩
        simp only [loadConfig, bind, StateT.bind, hgiven, Files.FileAccess.workingDirectory,
          hdirectory, hproject]
        rfl
  · right
    refine ⟨.typeDefault fault, ?_, fun input => .typeDefault hentry hmalformed⟩
    simp only [loadConfig, hgiven]
    rfl

/-- A run loads everything, or something is refused. Either way the store stays as it is. -/
theorem loadInputs_cases (store : Store) (input : String) (defaults : DefaultsOptions) :
    (∃ document config,
      (loadInputs input defaults.config defaults.typeDefaults : StateM Store _) store =
        (.ok (document, config), store) ∧
      LoadsInputs store input defaults document config) ∨
    (∃ fault,
      (loadInputs input defaults.config defaults.typeDefaults : StateM Store _) store =
        (.error fault, store) ∧
      InputsRefused store input defaults) := by
  rcases Descriptor.load_cases store input with
    ⟨document, hload, hdocument⟩ | ⟨fault, hload, hrefused⟩
  · rcases loadConfig_cases store defaults with
      ⟨directory, project, overrides, hloaded, hdirectory, hconfig, hoverrides⟩ |
      ⟨fault, hloaded, hrefused⟩
    · left
      refine ⟨document, project.withTypeDefaults overrides, ?_, hdocument, directory, project,
        overrides, hdirectory, hconfig, hoverrides, rfl⟩
      simp only [loadInputs, bind, StateT.bind, hload, hloaded]
      rfl
    · right
      refine ⟨fault, ?_, hrefused input⟩
      simp only [loadInputs, bind, StateT.bind, hload, hloaded]
      rfl
  · right
    refine ⟨.descriptor fault, ?_, .document hrefused⟩
    simp only [loadInputs, bind, StateT.bind, hload]
    rfl

/-- What loading gives is loaded. -/
theorem LoadsInputs.of_toOption {store : Store} {input : String} {defaults : DefaultsOptions}
    {document : Document} {config : ProjectConfig}
    (h : ((loadInputs input defaults.config defaults.typeDefaults : StateM Store _)
      store).1.toOption = some (document, config)) :
    LoadsInputs store input defaults document config := by
  rcases loadInputs_cases store input defaults with
    ⟨document', config', hload, hinputs⟩ | ⟨fault, hload, -⟩
  · rw [hload] at h
    cases h
    exact hinputs
  · rw [hload] at h
    cases h

end Command

end ModelFactory
