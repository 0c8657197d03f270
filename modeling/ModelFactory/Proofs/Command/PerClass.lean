import Mathlib.Data.List.Dedup
import ModelFactory.Command.Generate
import ModelFactory.Proofs.Files.Writes
import ModelFactory.Proofs.Generation.Run
import ModelFactory.Proofs.Text.SnakeCase

/-!
# One file for each class

A run that writes a file for each class joins the file names to the output directory. The file names
of a run differ as texts, but the paths are followed part by part, and the name of a class may hold
slashes and dots. `Command.writeOutput_oneFileEach_iff` says exactly when every factory has a file
of its own right in the directory: the parts of each file name before its last one have to lead back
to the directory, and the last parts have to differ. That holds when no slash stands in the names of
the classes and in the suffix.
-/

set_option autoImplicit false

namespace ModelFactory

/-! ## File names without slashes -/

namespace FileNames

/-- The name that a model gets has no slash if the model and the suffix have none. -/
theorem slash_notMem_nextName {names : FileNames} {model : String}
    (hsuffix : '/' ∉ names.suffix.toList) (hmodel : '/' ∉ model.toList) :
    '/' ∉ (names.nextName model).toList := by
  have hstem : '/' ∉ (Text.snakeCase model).toList :=
    fun h => hmodel (Text.slash_mem_of_snakeCase h)
  rw [nextName_eq, candidate]
  split
  · simp [hstem, hsuffix]
  · simp only [String.toList_append, List.mem_append, not_or]
    exact ⟨⟨⟨hstem, by decide⟩, Text.notMem_toString (by decide) _⟩, hsuffix⟩

theorem slash_notMem_allocateAll (names : FileNames) {models : List String}
    (hsuffix : '/' ∉ names.suffix.toList) (hmodels : ∀ model ∈ models, '/' ∉ model.toList) :
    ∀ name ∈ (names.allocateAll models).map (·.1), '/' ∉ name.toList := by
  induction models generalizing names with
  | nil => simp
  | cons model models ih =>
    intro name hname
    rw [allocateAll_cons, List.map_cons, List.mem_cons] at hname
    rcases hname with rfl | hname
    · exact slash_notMem_nextName hsuffix (hmodels model List.mem_cons_self)
    · apply ih (names.allocate model).2.2 hsuffix _ name hname
      intro other hother
      exact hmodels other (List.mem_cons_of_mem _ hother)

end FileNames

theorem slash_notMem_fileNames {settings : GeneratorSettings} {document : Document}
    (sourcePath : String) (hsuffix : '/' ∉ settings.fileSuffix.toList)
    (hclasses : ∀ declaration ∈ document.declarations, declaration.kind = .classLike →
      '/' ∉ declaration.name.toList) :
    ∀ factory ∈ (generate settings document sourcePath).factories,
      '/' ∉ factory.fileName.toList := by
  have hnames : ∀ name ∈ (FileNames.allocateAll { suffix := settings.fileSuffix }
      ((classesOf document.declarations).map (·.name))).map (·.1), '/' ∉ name.toList := by
    apply FileNames.slash_notMem_allocateAll { suffix := settings.fileSuffix } hsuffix
    intro model hmodel
    obtain ⟨declaration, hdeclaration, rfl⟩ := List.mem_map.1 hmodel
    obtain ⟨hmem, hkind⟩ := List.mem_filter.1 hdeclaration
    exact hclasses declaration hmem (by simpa using hkind)
  intro factory hfactory
  apply hnames
  rw [← fileNames_factoriesFrom settings, ← generate_factories settings document sourcePath]
  exact List.mem_map_of_mem hfactory

namespace Command

open Files

/-! ## Writing files one after the other -/

section Writing

variable {store after : Store}

theorem writeAll_cons_of_ok {path text : String} (h : store.write path text = .ok after)
    (files : List (String × String)) :
    (writeAll ((path, text) :: files) : StateM Store (Except FileError Unit)) store =
      (writeAll files : StateM Store (Except FileError Unit)) after := by
  simp only [writeAll, bind, StateT.bind, FileAccess.writeFile, h]

theorem writeAll_cons_of_error {path text : String} {error : FileError}
    (h : store.write path text = .error error) (files : List (String × String)) :
    (writeAll ((path, text) :: files) : StateM Store (Except FileError Unit)) store =
      (.error error, store) := by
  simp only [writeAll, bind, StateT.bind, FileAccess.writeFile, h]
  rfl

/-- Where all files are written, the first one is and then the others are. -/
theorem exists_of_writeAll_cons {file : String × String} {files : List (String × String)}
    (h : (writeAll (file :: files) : StateM Store (Except FileError Unit)) store =
      (.ok (), after)) :
    ∃ written, store.write file.1 file.2 = .ok written ∧
      (writeAll files : StateM Store (Except FileError Unit)) written = (.ok (), after) := by
  cases hwrite : store.write file.1 file.2 with
  | error error =>
    rw [writeAll_cons_of_error hwrite] at h
    cases h
  | ok written =>
    rw [writeAll_cons_of_ok hwrite] at h
    exact ⟨written, rfl, h⟩

/-- Files that are all written are put at the places of their paths, each of which ends in a
name. -/
theorem writeAll_eq_putAll {files : List (String × String)}
    (h : (writeAll files : StateM Store (Except FileError Unit)) store = (.ok (), after)) :
    after = store.putAll
        (files.map fun file => (placeOf store.workingDirectory file.1, file.2)) ∧
      ∀ file ∈ files, ∃ name, (Path.ofText file.1).EndsIn name := by
  induction files generalizing store with
  | nil =>
    cases h
    exact ⟨rfl, fun _ hfile => absurd hfile List.not_mem_nil⟩
  | cons file files ih =>
    obtain ⟨written, hwrite, hothers⟩ := exists_of_writeAll_cons h
    obtain ⟨rfl, hends⟩ := Store.write_eq_put hwrite
    obtain ⟨hafter, hrest⟩ := ih hothers
    refine ⟨hafter, ?_⟩
    intro other hother
    rcases List.mem_cons.1 hother with rfl | hother
    · exact hends
    · exact hrest other hother

/-- The directory has been made with those around it, if there is one to be made. -/
inductive IsMade (store : Store) : Option String → Store → Prop
  | nothing : IsMade store none store
  | directory {directory : String} {made : Store}
    (h : (FileAccess.makeDirectories directory : StateM Store (Except FileError Unit)) store =
      (.ok (), made)) : IsMade store (some directory) made

theorem IsMade.adds {directory? : Option String} {made : Store}
    (h : IsMade store directory? made) : Store.AddsDirectories store made := by
  cases h with
  | nothing => exact .refl _
  | @directory directory made h =>
    have hadds := Store.makeDirectories_adds store directory
    rwa [h] at hadds

/-- What follows the making of a directory is done if that succeeds. -/
theorem makeDirectories_then_eq_ok_iff {directory : String}
    {next : StateM Store (Except FileError Unit)} :
    ((do
        match ← FileAccess.makeDirectories directory with
        | .error error => return .error error
        | .ok () => next : StateM Store (Except FileError Unit)) store = (.ok (), after)) ↔
      ∃ made, IsMade store (some directory) made ∧ next made = (.ok (), after) := by
  obtain ⟨result, made, hmade⟩ : ∃ result made,
      (FileAccess.makeDirectories directory : StateM Store (Except FileError Unit)) store =
        (result, made) := ⟨_, _, rfl⟩
  simp only [bind, StateT.bind, hmade]
  cases result with
  | error error =>
    constructor
    · intro h
      cases h
    · rintro ⟨other, hother, -⟩
      cases hother with
      | directory hother =>
        rw [hmade] at hother
        cases hother
  | ok done =>
    constructor
    · intro h
      exact ⟨made, .directory hmade, h⟩
    · rintro ⟨other, hother, h⟩
      cases hother with
      | directory hother =>
        rw [hmade] at hother
        cases hother
        exact h

/-- Files that are all written into a directory are put at the places of their paths, once the
directory is made. -/
theorem writePerClass_eq_putAll {directory : String} {files : List (String × String)}
    (h : (writePerClass directory files : StateM Store (Except FileError Unit)) store =
      (.ok (), after)) :
    ∃ made, Store.AddsDirectories store made ∧
      after = made.putAll (files.map fun file =>
        (placeOf store.workingDirectory (Path.joined directory file.1), file.2)) ∧
      ∀ file ∈ files, ∃ name, (Path.ofText (Path.joined directory file.1)).EndsIn name := by
  obtain ⟨made, hmade, hwritten⟩ := makeDirectories_then_eq_ok_iff.1 h
  obtain ⟨hafter, hends⟩ := writeAll_eq_putAll hwritten
  -- Making directories does not move the directory that relative paths start from.
  rw [hmade.adds.workingDirectory, filesIn, List.map_map] at hafter
  refine ⟨made, hmade.adds, hafter, fun file hfile => ?_⟩
  exact hends (Path.joined directory file.1, file.2) (List.mem_map_of_mem hfile)

end Writing

/-! ## A file for every factory -/

/-- The parts of a written path before its last one lead back to the place where they start. -/
def LeadsBack (place : Place) (text : String) : Prop :=
  (Path.ofText text).around.placeFrom place = place

/-- The place of the file of a factory. -/
def placeIn (start : Place) (directory : String) (factory : GeneratedFactory) : Place :=
  placeOf start (Path.joined directory factory.fileName)

/-- Every factory of the output has a file of its own, right in the directory and with its text, and
besides these files there is nothing new but directories. -/
structure OneFileEach (output : GenerationOutput) (directory : String) (before after : Store) :
    Prop where
  inside : ∀ factory ∈ output.factories, ∃ name,
    placeIn before.workingDirectory directory factory =
      placeOf before.workingDirectory directory ++ [name]
  distinct : (output.factories.map
    (placeIn before.workingDirectory directory)).dedup.length = output.factories.length
  contents : ∀ factory ∈ output.factories,
    after.itemAt? (placeIn before.workingDirectory directory factory) =
      some (.file (output.underHeader factory.code).toUTF8)
  elsewhere : ∀ place ∉ output.factories.map (placeIn before.workingDirectory directory),
    after.entries[place]? = before.entries[place]? ∨
      (before.entries[place]? = none ∧ after.entries[place]? = some .directory)

section OneFileEach

variable {output : GenerationOutput} {directory : String} {store after : Store}

/-- A run that has written all its files has one for each factory exactly if their places are right
in the directory and differ. -/
theorem oneFileEach_iff_places
    (h : (writePerClass directory output.perClass : StateM Store (Except FileError Unit)) store =
      (.ok (), after)) :
    OneFileEach output directory store after ↔
      (∀ factory ∈ output.factories, ∃ name,
        placeIn store.workingDirectory directory factory =
          placeOf store.workingDirectory directory ++ [name]) ∧
        (output.factories.map (placeIn store.workingDirectory directory)).Nodup := by
  obtain ⟨made, hadds, hafter, -⟩ := writePerClass_eq_putAll h
  have htexts : output.perClass.map (fun file =>
      (placeOf store.workingDirectory (Path.joined directory file.1), file.2)) =
        output.factories.map fun factory =>
          (placeIn store.workingDirectory directory factory, output.underHeader factory.code) :=
    List.map_map
  have hplaces : (output.factories.map fun factory =>
      (placeIn store.workingDirectory directory factory, output.underHeader factory.code)).map
        (·.1) = output.factories.map (placeIn store.workingDirectory directory) := by
    simp only [List.map_map, Function.comp_def]
  rw [htexts] at hafter
  constructor
  · rintro ⟨hinside, hdistinct, -, -⟩
    refine ⟨hinside, ?_⟩
    rw [← List.dedup_eq_self]
    apply (List.dedup_sublist _).eq_of_length
    rw [hdistinct, List.length_map]
  · rintro ⟨hinside, hnodup⟩
    refine ⟨hinside, ?_, ?_, ?_⟩
    · rw [List.dedup_eq_self.2 hnodup, List.length_map]
    · -- No later text is put to the same place.
      intro factory hfactory
      obtain ⟨name, hname⟩ := hinside factory hfactory
      rw [← hplaces] at hnodup
      have hwritten := Store.getElem?_putAll_of_mem hnodup (List.mem_map_of_mem hfactory) made
      rw [hafter, Store.itemAt?, hname, if_neg (by simp), ← hname]
      exact hwritten
    · intro place hother
      rw [← hplaces] at hother
      rw [hafter, Store.getElem?_putAll_of_notMem hother]
      exact hadds.entries place

/-- Where the file of a factory is: the parts of the file name before its last one lead from the
directory to that name. -/
theorem placeIn_eq (start : Place) {factory : GeneratedFactory} {name : String}
    (h : (Path.ofText (Path.joined directory factory.fileName)).EndsIn name) :
    (Path.ofText factory.fileName).last? = some name ∧
      placeIn start directory factory =
        (Path.ofText factory.fileName).around.placeFrom (placeOf start directory) ++ [name] := by
  have hlast : (Path.ofText factory.fileName).last? = some name := by
    rw [← Path.last?_joined directory]
    exact h.last
  have hends : (Path.ofText factory.fileName).EndsIn name := ⟨hlast, h.stays, h.up⟩
  refine ⟨hlast, ?_⟩
  rw [placeIn, placeOf_joined, placeOf, hends.placeFrom]

/-- Right in the directory are the files whose names lead back to it up to their last parts, and
their places differ where the last parts do. -/
theorem places_iff {start : Place} {factories : List GeneratedFactory} (hnodup : factories.Nodup)
    (hends : ∀ factory ∈ factories, ∃ name,
      (Path.ofText (Path.joined directory factory.fileName)).EndsIn name) :
    ((∀ factory ∈ factories, ∃ name,
        placeIn start directory factory = placeOf start directory ++ [name]) ∧
      (factories.map (placeIn start directory)).Nodup) ↔
      (∀ factory ∈ factories, LeadsBack (placeOf start directory) factory.fileName) ∧
        (factories.map fun factory => (Path.ofText factory.fileName).last?).Nodup := by
  have hinside : (∀ factory ∈ factories, ∃ name,
      placeIn start directory factory = placeOf start directory ++ [name]) ↔
        ∀ factory ∈ factories, LeadsBack (placeOf start directory) factory.fileName := by
    apply forall₂_congr
    intro factory hfactory
    obtain ⟨name, hname⟩ := hends factory hfactory
    rw [(placeIn_eq start hname).2]
    constructor
    · rintro ⟨other, hother⟩
      exact (List.append_inj' hother rfl).1
    · intro hback
      exact ⟨name, by rw [hback]⟩
  rw [hinside]
  refine and_congr_right fun hback => ?_
  -- Right in the directory two places are equal where the last parts are.
  rw [List.nodup_map_iff_inj_on hnodup, List.nodup_map_iff_inj_on hnodup]
  apply forall₂_congr
  intro first hfirst
  apply forall₂_congr
  intro second hsecond
  obtain ⟨name, hname⟩ := hends first hfirst
  obtain ⟨other, hother⟩ := hends second hsecond
  obtain ⟨hlast, hplace⟩ := placeIn_eq start hname
  obtain ⟨hlast', hplace'⟩ := placeIn_eq start hother
  rw [hplace, hplace', hback first hfirst, hback second hsecond, hlast, hlast']
  simp

/-- A run that has written all its files has one for each factory exactly if their names lead back
to the directory up to their last parts and these differ. -/
theorem oneFileEach_iff (hnames : (output.factories.map (·.fileName)).Nodup)
    (h : (writePerClass directory output.perClass : StateM Store (Except FileError Unit)) store =
      (.ok (), after)) :
    OneFileEach output directory store after ↔
      (∀ factory ∈ output.factories,
        LeadsBack (placeOf store.workingDirectory directory) factory.fileName) ∧
        (output.factories.map fun factory => (Path.ofText factory.fileName).last?).Nodup := by
  obtain ⟨-, -, -, hends⟩ := writePerClass_eq_putAll h
  rw [oneFileEach_iff_places h]
  apply places_iff (hnames.of_map _)
  intro factory hfactory
  exact hends (factory.fileName, output.underHeader factory.code) (List.mem_map_of_mem hfactory)

/-- A file name without slashes leads back, and it is its own last part. -/
theorem leadsBack_of_notMem {text : String} (h : '/' ∉ text.toList) (place : Place) :
    LeadsBack place text ∧ (Path.ofText text).last? = some text := by
  rw [LeadsBack, Path.ofText_of_notMem h]
  exact ⟨rfl, rfl⟩

/-- File names without slashes are one file for each factory, since they differ as texts. -/
theorem oneFileEach_of_notMem (hnames : (output.factories.map (·.fileName)).Nodup)
    (hslash : ∀ factory ∈ output.factories, '/' ∉ factory.fileName.toList)
    (h : (writePerClass directory output.perClass : StateM Store (Except FileError Unit)) store =
      (.ok (), after)) :
    OneFileEach output directory store after := by
  rw [oneFileEach_iff hnames h]
  constructor
  · intro factory hfactory
    exact (leadsBack_of_notMem (hslash factory hfactory) _).1
  · have hlast : (output.factories.map fun factory => (Path.ofText factory.fileName).last?) =
        (output.factories.map (·.fileName)).map some := by
      rw [List.map_map]
      apply List.map_congr_left
      intro factory hfactory
      exact (leadsBack_of_notMem (hslash factory hfactory) []).2
    rw [hlast]
    exact hnames.map fun _ _ => Option.some.inj

end OneFileEach

/-- A run that has written a file for each class has a file of its own for every factory, right in
the output directory and nowhere else, exactly if every file name leads back to that directory up to
its last part and no two of them have one last part. This holds if no slash stands in the suffix and
in the names of the classes. -/
theorem writeOutput_oneFileEach_iff (settings : GeneratorSettings) (document : Document)
    (sourcePath directory : String) {store after : Store}
    (h : (writeOutput .perClass directory (generate settings document sourcePath) :
      StateM Store (Except FileError Unit)) store = (.ok (), after)) :
    let output := generate settings document sourcePath
    (OneFileEach output directory store after ↔
      (∀ factory ∈ output.factories,
        LeadsBack (placeOf store.workingDirectory directory) factory.fileName) ∧
        (output.factories.map fun factory => (Path.ofText factory.fileName).last?).Nodup) ∧
      ('/' ∉ settings.fileSuffix.toList →
        (∀ declaration ∈ document.declarations, declaration.kind = .classLike →
          '/' ∉ declaration.name.toList) →
        OneFileEach output directory store after) := by
  have hnames := generate_fileNames_nodup settings document sourcePath
  refine ⟨oneFileEach_iff hnames h, fun hsuffix hclasses => ?_⟩
  exact oneFileEach_of_notMem hnames (slash_notMem_fileNames sourcePath hsuffix hclasses) h

/-! ## Two runs -/

/-- Work goes on in an empty directory. -/
def workStore : Store where
  entries := Std.ExtTreeMap.empty.insert ["work"] .directory
  workingDirectory := ["work"]

/-- Two classes with one natural file name. -/
def users : Document := { declarations := [{ name := "User" }, { name := "user" }] }

/-- A class whose name leads up. -/
def upward : Document := { declarations := [{ name := "../user" }] }

theorem exists_ok_of_isOk {result : Except FileError Unit × Store} (h : result.1.isOk = true) :
    ∃ after, result = (.ok (), after) := by
  obtain ⟨answer, after⟩ := result
  cases answer with
  | error error => cases h
  | ok done => exact ⟨after, rfl⟩

theorem users_oneFileEach :
    ∃ after, (writeOutput .perClass "out" (generate {} users "m.json") :
        StateM Store (Except FileError Unit)) workStore = (.ok (), after) ∧
      OneFileEach (generate {} users "m.json") "out" workStore after := by
  have hok : ((writeOutput .perClass "out" (generate {} users "m.json") :
      StateM Store (Except FileError Unit)) workStore).1.isOk = true := by decide +kernel
  obtain ⟨after, hafter⟩ := exists_ok_of_isOk hok
  exact ⟨after, hafter,
    (writeOutput_oneFileEach_iff {} users "m.json" "out" hafter).2 (by decide) (by decide)⟩

/-- The file of a class whose name leads up is not in the output directory. -/
theorem upward_not_oneFileEach :
    ∃ after, (writeOutput .perClass "out" (generate {} upward "m.json") :
        StateM Store (Except FileError Unit)) workStore = (.ok (), after) ∧
      ¬ OneFileEach (generate {} upward "m.json") "out" workStore after := by
  have hok : ((writeOutput .perClass "out" (generate {} upward "m.json") :
      StateM Store (Except FileError Unit)) workStore).1.isOk = true := by decide +kernel
  obtain ⟨after, hafter⟩ := exists_ok_of_isOk hok
  refine ⟨after, hafter, ?_⟩
  rintro ⟨hinside, -, -, -⟩
  have hplaces : (generate {} upward "m.json").factories.map (placeIn ["work"] "out") =
      [["work", "user.factory.dart"]] := by decide +kernel
  have hdirectory : placeOf ["work"] "out" = ["work", "out"] := by decide +kernel
  obtain ⟨factory, hfactory, hplace⟩ : ∃ factory ∈ (generate {} upward "m.json").factories,
      placeIn ["work"] "out" factory = ["work", "user.factory.dart"] := by
    rw [← List.mem_map, hplaces]
    exact List.mem_singleton_self _
  obtain ⟨name, hname⟩ := hinside factory hfactory
  have hshort := congrArg List.length (hplace.symm.trans hname)
  rw [show placeOf workStore.workingDirectory "out" = ["work", "out"] from hdirectory] at hshort
  cases hshort

end Command

end ModelFactory
