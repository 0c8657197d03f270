import Mathlib.Data.List.Forall2
import Mathlib.Data.List.Nodup
import ModelFactory.Proofs.Generation.Run
import ModelFactory.Proofs.Results

/-!
# Warnings and what they say

A model whose natural file name is taken gets a numbered one, and the run warns that the model and
the owner of the name both map to it. The owner is the model that the name was handed out to. Most
often it is its natural name, but it may have got it as a numbered name: of `UserDTO`, `UserDto` and
`UserDto_2` the second gets the natural name of the third, and the warning about the third says of
the second what is not so (`numberedTransfers_warning_false`).

`RunState.Warns` ties the warnings to the factories: there is one for each factory without its
natural name, and it names a factory before that one as the owner. Every pass keeps it
(`RunState.Warns.pass`), so it holds of every run. From it follows when all that a run warns of is
so (`generate_warnings_true_iff`).
-/

set_option autoImplicit false

namespace ModelFactory

/-! ## One warning -/

/-- What a warning says is so: both models have the natural file name that it gives. -/
structure NameClash.IsTrue (suffix : String) (clash : NameClash) : Prop where
  model : Text.snakeCase clash.model ++ suffix = clash.natural
  owner : Text.snakeCase clash.owner ++ suffix = clash.natural

/-- A warning is about a factory: it names its model, its natural file name and the file name that
it has instead, and as owner the model of a factory before it that has the natural name. -/
structure NameClash.IsAbout (suffix : String) (factories : List GeneratedFactory)
    (factory : GeneratedFactory) (clash : NameClash) : Prop where
  model : clash.model = factory.definition.model
  natural : clash.natural = Text.snakeCase factory.definition.model ++ suffix
  assigned : clash.assigned = factory.fileName
  message : clash.message = "`" ++ factory.definition.model ++ "` and `" ++ clash.owner
    ++ "` both map to `" ++ (Text.snakeCase factory.definition.model ++ suffix)
    ++ "`; writing `" ++ factory.fileName ++ "` instead"
  owner : ∃ holder, [holder, factory].Sublist factories ∧ holder.fileName = clash.natural ∧
    holder.definition.model = clash.owner

/-- The factories that do not have their natural file names. -/
def renamed (suffix : String) (factories : List GeneratedFactory) : List GeneratedFactory :=
  factories.filter fun factory =>
    factory.fileName ≠ Text.snakeCase factory.definition.model ++ suffix

theorem renamed_append (suffix : String) (factories others : List GeneratedFactory) :
    renamed suffix (factories ++ others) = renamed suffix factories ++ renamed suffix others :=
  List.filter_append ..

/-- Further factories do not change what a warning is about. -/
theorem NameClash.IsAbout.append {suffix : String} {factories : List GeneratedFactory}
    {factory : GeneratedFactory} {clash : NameClash} (h : clash.IsAbout suffix factories factory)
    (others : List GeneratedFactory) : clash.IsAbout suffix (factories ++ others) factory := by
  obtain ⟨holder, hbefore, hname, hmodel⟩ := h.owner
  exact ⟨h.model, h.natural, h.assigned, h.message,
    holder, hbefore.trans (List.sublist_append_left _ _), hname, hmodel⟩

/-- A clash is met with the owner of the natural name. -/
theorem FileNames.clash?_eq_some_iff {names : FileNames} {model : String} {clash : NameClash} :
    names.clash? model = some clash ↔
      ∃ owner, names.owners[Text.snakeCase model ++ names.suffix]? = some owner ∧
        clash = ⟨model, owner, Text.snakeCase model ++ names.suffix, names.nextName model⟩ := by
  rw [clash?, Option.map_eq_some_iff]
  constructor
  · rintro ⟨owner, howner, rfl⟩
    exact ⟨owner, howner, rfl⟩
  · rintro ⟨owner, howner, rfl⟩
    exact ⟨owner, howner, rfl⟩

/-! ## The warnings of a run -/

namespace RunState

variable {settings : GeneratorSettings} {state : RunState}

/-- Every name that is taken is the file name of a factory of its owner, every factory has a
candidate of its model as file name, and the warnings are about the factories that were renamed, in
their order. -/
structure Warns (settings : GeneratorSettings) (state : RunState) : Prop where
  suffix : state.names.suffix = settings.fileSuffix
  owners : ∀ name owner, state.names.owners[name]? = some owner →
    ∃ factory ∈ state.output.factories,
      factory.fileName = name ∧ factory.definition.model = owner
  names : ∀ factory ∈ state.output.factories, ∃ number, 1 ≤ number ∧ factory.fileName =
    FileNames.candidate settings.fileSuffix (Text.snakeCase factory.definition.model) number
  warnings : List.Forall₂
    (fun factory clash => clash.IsAbout settings.fileSuffix state.output.factories factory)
    (renamed settings.fileSuffix state.output.factories) state.output.statistics.warnings

theorem Warns.start (settings : GeneratorSettings) :
    Warns settings { names := { suffix := settings.fileSuffix } } := by
  refine ⟨rfl, ?_, ?_, .nil⟩
  · intro name owner howner
    rw [Std.ExtTreeMap.getElem?_empty] at howner
    cases howner
  · intro factory hfactory
    cases hfactory

/-- The factory that a class gets is warned of exactly if it does not have its natural name, and
then with the owner of that name. -/
theorem Warns.next (h : Warns settings state) (declaration : Declaration) :
    let factory := factoryUnder settings declaration (state.names.nextName declaration.name)
    List.Forall₂ (fun factory' clash =>
        clash.IsAbout settings.fileSuffix (state.output.factories ++ [factory]) factory')
      (renamed settings.fileSuffix [factory]) (state.names.clash? declaration.name).toList := by
  intro factory
  have hnone := state.names.clash?_eq_none_iff declaration.name
  rw [h.suffix] at hnone
  cases hmet : state.names.clash? declaration.name with
  | none =>
    have hname : factory.fileName =
        Text.snakeCase factory.definition.model ++ settings.fileSuffix := hnone.1 hmet
    simp [renamed, hname]
  | some clash =>
    have hname : factory.fileName ≠
        Text.snakeCase factory.definition.model ++ settings.fileSuffix := by
      intro hname
      have hfree := hnone.2 hname
      rw [hmet] at hfree
      cases hfree
    obtain ⟨owner, howner, rfl⟩ := FileNames.clash?_eq_some_iff.1 hmet
    -- The owner has a factory already, and the new one stands behind it.
    obtain ⟨holder, hholder, hheld, hmodel⟩ := h.owners _ _ howner
    have hbefore : [holder, factory].Sublist (state.output.factories ++ [factory]) :=
      (List.singleton_sublist.2 hholder).append (List.Sublist.refl [factory])
    have hone : renamed settings.fileSuffix [factory] = [factory] := by
      simp [renamed, hname]
    rw [hone]
    rw [h.suffix] at hheld ⊢
    exact .cons ⟨rfl, rfl, rfl, rfl, holder, hbefore, hheld, hmodel⟩ .nil

/-- A pass keeps the warnings about the factories: a class adds its factory and, if it is renamed,
the warning about it; another declaration adds neither. -/
theorem Warns.pass (h : Warns settings state) (declaration : Declaration) :
    Warns settings (pass settings state declaration) := by
  by_cases hclass : declaration.kind = .classLike
  · have hnext := h.next declaration
    rw [pass_of_class hclass]
    constructor
    case suffix => exact h.suffix
    case owners =>
      intro name owner howner
      have hinserted : (state.names.owners.insert (state.names.nextName declaration.name)
          declaration.name)[name]? = some owner := howner
      rw [Std.ExtTreeMap.getElem?_insert] at hinserted
      split at hinserted
      · rename_i hname
        cases hinserted
        refine ⟨_, List.mem_append_right _ (List.mem_singleton_self _), ?_, rfl⟩
        exact Std.LawfulEqCmp.eq_of_compare hname
      · obtain ⟨factory, hfactory, hheld, hmodel⟩ := h.owners name owner hinserted
        exact ⟨factory, List.mem_append_left _ hfactory, hheld, hmodel⟩
    case names =>
      intro factory hfactory
      rcases List.mem_append.1 hfactory with hfactory | hfactory
      · exact h.names factory hfactory
      · obtain rfl := List.mem_singleton.1 hfactory
        rw [← h.suffix]
        exact ⟨_, state.names.one_le_nextNumber declaration.name,
          state.names.nextName_eq declaration.name⟩
    case warnings =>
      have hkept := h.warnings.imp fun factory clash habout => habout.append
        [factoryUnder settings declaration (state.names.nextName declaration.name)]
      simp only [Statistics.recordFactory, renamed_append]
      exact List.rel_append hkept hnext
  · rw [pass_of_other hclass]
    exact ⟨h.suffix, h.owners, h.names, h.warnings⟩

/-- Passes over declarations keep the warnings about the factories. -/
theorem Warns.foldl_pass (h : Warns settings state) (declarations : List Declaration) :
    Warns settings (declarations.foldl (RunState.pass settings) state) := by
  induction declarations generalizing state with
  | nil => exact h
  | cons declaration rest ih => exact ih (h.pass declaration)

end RunState

/-! ## When the warnings are so -/

section Output

variable (settings : GeneratorSettings) (document : Document) (sourcePath : String)

theorem generate_warns :
    let output := generate settings document sourcePath
    (∀ factory ∈ output.factories, ∃ number, 1 ≤ number ∧ factory.fileName =
      FileNames.candidate settings.fileSuffix (Text.snakeCase factory.definition.model) number) ∧
      List.Forall₂ (fun factory clash => clash.IsAbout settings.fileSuffix output.factories factory)
        (renamed settings.fileSuffix output.factories) output.statistics.warnings := by
  have h := (RunState.Warns.start settings).foldl_pass document.declarations
  exact ⟨h.names, h.warnings⟩

/-- All that a run warns of is so exactly if every factory that has the natural file name of a later
one has it as its own natural name. -/
theorem isTrue_warnings_iff :
    let output := generate settings document sourcePath
    (∀ clash ∈ output.statistics.warnings, clash.IsTrue settings.fileSuffix) ↔
      output.factories.Pairwise fun earlier later =>
        earlier.fileName = Text.snakeCase later.definition.model ++ settings.fileSuffix →
          earlier.fileName = Text.snakeCase earlier.definition.model ++ settings.fileSuffix := by
  intro output
  obtain ⟨-, hwarnings⟩ := generate_warns settings document sourcePath
  have hnodup := generate_fileNames_nodup settings document sourcePath
  constructor
  · intro htrue
    rw [List.pairwise_iff_forall_sublist]
    intro earlier later hbefore hname
    -- The later factory is renamed, for the earlier one has its natural name.
    have hne : earlier.fileName ≠ later.fileName := by
      have hnames := hnodup.sublist (hbefore.map (·.fileName))
      simpa using hnames
    have hrenamed : later ∈ renamed settings.fileSuffix output.factories := by
      refine List.mem_filter.2 ⟨hbefore.subset (by simp), ?_⟩
      rw [hname] at hne
      simpa using Ne.symm hne
    obtain ⟨clash, hclash, habout⟩ := Results.exists_mem_of_forall₂ hwarnings hrenamed
    obtain ⟨holder, hholder, hheld, hmodel⟩ := habout.owner
    -- So the warning names the earlier factory, the only one with that file name.
    have hsame : holder = earlier := by
      apply List.inj_on_of_nodup_map hnodup (hholder.subset (by simp))
        (hbefore.subset (by simp))
      rw [hheld, habout.natural, hname]
    have howner := (htrue clash hclash).owner
    rw [← hmodel, hsame, ← hheld, hsame] at howner
    exact howner.symm
  · intro hpairs clash hclash
    obtain ⟨factory, -, habout⟩ := Results.exists_mem_of_forall₂ hwarnings.flip hclash
    obtain ⟨holder, hholder, hheld, hmodel⟩ := habout.owner
    have howner := List.pairwise_iff_forall_sublist.1 hpairs hholder
      (hheld.trans habout.natural)
    refine ⟨?_, ?_⟩
    · rw [habout.model, habout.natural]
    · rw [← hmodel, ← howner, hheld]

/-- No factory has a numbered name that is the natural name of a later one, if no class name in
snake case is that of a class before it with an underscore and a number from 2 on behind it. -/
theorem isTrue_warnings_of_stems
    (hstems : (classesOf document.declarations).Pairwise fun earlier later => ∀ number, 2 ≤ number →
      Text.snakeCase later.name ≠ Text.snakeCase earlier.name ++ "_" ++ toString number) :
    ∀ clash ∈ (generate settings document sourcePath).statistics.warnings,
      clash.IsTrue settings.fileSuffix := by
  have hmodels : (generate settings document sourcePath).factories.map (·.definition.model) =
      (classesOf document.declarations).map (·.name) := by
    have hdefinitions := congrArg (List.map (·.model)) (definitions_factoriesFrom settings
      { suffix := settings.fileSuffix } (classesOf document.declarations))
    rw [List.map_map, List.map_map] at hdefinitions
    rw [generate_factories]
    exact hdefinitions
  have hdiffers : ((classesOf document.declarations).map (·.name)).Pairwise fun earlier later =>
      ∀ number, 2 ≤ number →
        Text.snakeCase later ≠ Text.snakeCase earlier ++ "_" ++ toString number :=
    List.pairwise_map.2 hstems
  rw [← hmodels, List.pairwise_map] at hdiffers
  obtain ⟨hnames, -⟩ := generate_warns settings document sourcePath
  apply (isTrue_warnings_iff settings document sourcePath).2
  refine hdiffers.imp_of_mem fun {earlier later} hearlier _ hdiffer hname => ?_
  obtain ⟨number, hone, hcandidate⟩ := hnames earlier hearlier
  rcases Nat.eq_or_lt_of_le hone with rfl | htwo
  · exact hcandidate
  · rw [hcandidate, FileNames.candidate_of_two_le htwo, String.append_left_inj] at hname
    exact absurd hname.symm (hdiffer number htwo)

end Output

/-- A run warns once of every factory that does not have its natural file name, in document order.
The warning names the model of that factory, its natural name, the file name that it has instead,
and as the other model that of a factory before it which has the natural name.

All that is warned of is so, that is both models have the natural name, exactly if no factory has
the natural name of a later one without its being its own. In particular it is so if no class name
in snake case is that of a class before it with an underscore and a number from 2 on behind it. -/
theorem generate_warnings_true_iff (settings : GeneratorSettings) (document : Document)
    (sourcePath : String) :
    let output := generate settings document sourcePath
    let natural (model : String) := Text.snakeCase model ++ settings.fileSuffix
    List.Forall₂ (fun factory clash => clash.IsAbout settings.fileSuffix output.factories factory)
      (output.factories.filter fun factory => factory.fileName ≠ natural factory.definition.model)
      output.statistics.warnings ∧
    ((∀ clash ∈ output.statistics.warnings, clash.IsTrue settings.fileSuffix) ↔
      output.factories.Pairwise fun earlier later =>
        earlier.fileName = natural later.definition.model →
          earlier.fileName = natural earlier.definition.model) ∧
    ((document.declarations.filter fun declaration => declaration.kind = .classLike).Pairwise
        (fun earlier later => ∀ number, 2 ≤ number →
          Text.snakeCase later.name ≠ Text.snakeCase earlier.name ++ "_" ++ toString number) →
      ∀ clash ∈ output.statistics.warnings, clash.IsTrue settings.fileSuffix) := by
  intro output natural
  obtain ⟨-, hwarnings⟩ := generate_warns settings document sourcePath
  exact ⟨hwarnings, isTrue_warnings_iff settings document sourcePath,
    isTrue_warnings_of_stems settings document sourcePath⟩

/-- Two classes with one natural file name. -/
def transfers : Document := { declarations := [{ name := "UserDTO" }, { name := "UserDto" }] }

/-- A third class has the name in snake case that the second one got as a numbered file name. -/
def numberedTransfers : Document :=
  { declarations := [{ name := "UserDTO" }, { name := "UserDto" }, { name := "UserDto_2" }] }

/-- The one warning about `transfers` is so. -/
theorem transfers_warnings_true :
    (generate {} transfers "m.json").statistics.warnings =
        [⟨"UserDto", "UserDTO", "user_dto.factory.dart", "user_dto_2.factory.dart"⟩] ∧
      ∀ clash ∈ (generate {} transfers "m.json").statistics.warnings,
        clash.IsTrue ".factory.dart" := by
  have hwarnings : (generate {} transfers "m.json").statistics.warnings =
      [⟨"UserDto", "UserDTO", "user_dto.factory.dart", "user_dto_2.factory.dart"⟩] := by
    decide +kernel
  refine ⟨hwarnings, (generate_warnings_true_iff {} transfers "m.json").2.2 ?_⟩
  have hclasses : (transfers.declarations.filter fun declaration => declaration.kind = .classLike) =
      [{ name := "UserDTO" }, { name := "UserDto" }] := by decide
  have hstem : Text.snakeCase "UserDto" = Text.snakeCase "UserDTO" := by decide +kernel
  rw [hclasses, List.pairwise_pair]
  intro number _ hname
  have hlength := congrArg String.length hname
  simp only [hstem, String.length_append] at hlength
  have hline : ("_" : String).length = 1 := rfl
  omega

/-- The natural name of the third class is not that of the second, which the warning says. -/
theorem numberedTransfers_warning_false :
    ∃ clash ∈ (generate {} numberedTransfers "m.json").statistics.warnings,
      clash.message = "`UserDto_2` and `UserDto` both map to `user_dto_2.factory.dart`; "
        ++ "writing `user_dto_2_2.factory.dart` instead" ∧
      Text.snakeCase "UserDto" ++ ".factory.dart" = "user_dto.factory.dart" ∧
      ¬ clash.IsTrue ".factory.dart" := by
  have hwarnings : (generate {} numberedTransfers "m.json").statistics.warnings =
      [⟨"UserDto", "UserDTO", "user_dto.factory.dart", "user_dto_2.factory.dart"⟩,
        ⟨"UserDto_2", "UserDto", "user_dto_2.factory.dart", "user_dto_2_2.factory.dart"⟩] := by
    decide +kernel
  have hnatural : Text.snakeCase "UserDto" ++ ".factory.dart" = "user_dto.factory.dart" := by
    decide +kernel
  refine ⟨⟨"UserDto_2", "UserDto", "user_dto_2.factory.dart", "user_dto_2_2.factory.dart"⟩, ?_, ?_,
    hnatural, ?_⟩
  · rw [hwarnings]
    exact List.mem_cons_of_mem _ (List.mem_singleton_self _)
  · decide +kernel
  · intro htrue
    have howner := htrue.owner
    rw [hnatural] at howner
    exact absurd howner (by decide)

end ModelFactory
