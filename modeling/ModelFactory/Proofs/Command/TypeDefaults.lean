import ModelFactory.Proofs.Command.Loading
import ModelFactory.Proofs.Command.PerClass
import ModelFactory.Proofs.Default.Lookups
import ModelFactory.Proofs.Generation.Run
import ModelFactory.Proofs.Overrides
import ModelFactory.Proofs.Text.Trimmed

/-!
# What the type defaults of the command line say

An entry gives one type its expression (`Command.Gives`): the type is what stands before the first
equals sign, without the blanks around it, and the expression is all that stands behind. The entries
are refused as soon as one of them is not well formed, and otherwise their table answers a type with
the last entry that gives it (`Command.getElem?_typeDefaultsOf`).

Since the table is laid over the one of the project and is asked before anything built in, the last
entry decides for all fields of its type that leave their default to it
(`typeDefaultsOf_exact_and_decisive`).
-/

set_option autoImplicit false

namespace ModelFactory

open Files (Store)

namespace Command

/-! ## One entry -/

/-- The entry has an equals sign, and not only blanks before the first one. -/
def WellFormed (entry : String) : Prop :=
  '=' ∈ entry.toList ∧ ∃ char ∈ entry.toList.takeWhile (· != '='), ¬ Unicode.isBlank char

instance (entry : String) : Decidable (WellFormed entry) :=
  decidable_of_iff ('=' ∈ entry.toList ∧
      (entry.toList.takeWhile (· != '=')).any fun char => !Unicode.isBlank char)
    (by simp [WellFormed])

/-- The entry is the type, with blanks around it or none, the first equals sign, and the expression
as it stands. -/
def Gives (entry type expression : String) : Prop :=
  ∃ written, entry = written ++ "=" ++ expression ∧ '=' ∉ written.toList ∧
    Unicode.TrimsTo written type

/-- An entry is cut at its first equals sign. -/
theorem splitAtEquals?_eq_some_iff {chars type expression : List Char} :
    splitAtEquals? chars = some (type, expression) ↔
      chars = type ++ '=' :: expression ∧ '=' ∉ type := by
  fun_induction splitAtEquals? chars generalizing type with
  | case1 => simp
  | case2 rest =>
    constructor
    · intro h
      cases h
      exact ⟨rfl, List.not_mem_nil⟩
    · rintro ⟨hchars, hnone⟩
      cases type with
      | nil =>
        cases hchars
        rfl
      | cons first type =>
        cases hchars
        exact absurd List.mem_cons_self hnone
  | case3 char rest hchar ih =>
    have hne : '=' ≠ char := fun h => hchar h.symm
    constructor
    · intro h
      obtain ⟨⟨inner, behind⟩, hrest, heq⟩ := Option.map_eq_some_iff.1 h
      cases heq
      obtain ⟨rfl, hinner⟩ := ih.1 hrest
      exact ⟨rfl, by simp [hne, hinner]⟩
    · rintro ⟨hchars, hnone⟩
      cases type with
      | nil => exact absurd (List.cons.inj hchars).1 hchar
      | cons first type =>
        obtain ⟨rfl, rfl⟩ := List.cons.inj hchars
        have hinner : '=' ∉ type := fun h => hnone (List.mem_cons_of_mem _ h)
        rw [ih.2 ⟨rfl, hinner⟩]
        rfl

/-- What an entry gives is what it is cut into, the type without the blanks around it. -/
theorem gives_iff {entry type expression : String} :
    Gives entry type expression ↔
      ∃ written, splitAtEquals? entry.toList = some (written, expression.toList) ∧
        Unicode.trimmed (.ofList written) = type := by
  constructor
  · rintro ⟨written, rfl, hnone, htrims⟩
    refine ⟨written.toList, splitAtEquals?_eq_some_iff.2 ⟨by simp, hnone⟩, ?_⟩
    rw [String.ofList_toList]
    exact Unicode.trimmed_eq_iff.2 htrims
  · rintro ⟨written, hsplit, htrims⟩
    obtain ⟨hentry, hnone⟩ := splitAtEquals?_eq_some_iff.1 hsplit
    refine ⟨.ofList written, ?_, by simpa using hnone, Unicode.trimmed_eq_iff.1 htrims⟩
    apply String.toList_inj.1
    simpa using hentry

/-- An entry gives one type one expression. -/
theorem Gives.unique {entry type expression type' expression' : String}
    (h : Gives entry type expression) (h' : Gives entry type' expression') :
    type = type' ∧ expression = expression' := by
  obtain ⟨written, hsplit, rfl⟩ := gives_iff.1 h
  obtain ⟨written', hsplit', rfl⟩ := gives_iff.1 h'
  obtain ⟨rfl, hexpression⟩ := Prod.mk.inj (Option.some.inj (hsplit.symm.trans hsplit'))
  exact ⟨rfl, String.toList_inj.1 hexpression⟩

/-- An entry that is read gives its type the expression. -/
theorem readEntry_eq_ok_iff {entry type expression : String} :
    readEntry entry = .ok (type, expression) ↔ Gives entry type expression ∧ type ≠ "" := by
  rw [gives_iff]
  unfold readEntry
  constructor
  · intro h
    split at h
    · cases h
    · rename_i written behind hsplit
      dsimp only at h
      split at h
      · cases h
      · rename_i hne
        cases h
        exact ⟨⟨written, by rw [hsplit, String.toList_ofList], rfl⟩, hne⟩
  · rintro ⟨⟨written, hsplit, rfl⟩, hne⟩
    simp only [hsplit, if_neg hne, String.ofList_toList]

/-- An entry is refused for want of an equals sign, or of a type before it. -/
theorem readEntry_eq_error_iff {entry : String} {fault : TypeDefaultFault} :
    readEntry entry = .error fault ↔
      ('=' ∉ entry.toList ∧ fault = .noExpression entry) ∨
      ('=' ∈ entry.toList ∧
        (∀ char ∈ entry.toList.takeWhile (· != '='), Unicode.isBlank char) ∧
        fault = .noType entry) := by
  unfold readEntry
  cases hsplit : splitAtEquals? entry.toList with
  | none =>
    have hnone := (splitAtEquals?_eq_none_iff _).1 hsplit
    constructor
    · intro h
      cases h
      exact .inl ⟨hnone, rfl⟩
    · rintro (⟨-, rfl⟩ | ⟨hsome, -, -⟩)
      · rfl
      · exact absurd hsome hnone
  | some parts =>
    obtain ⟨written, behind⟩ := parts
    have hsome : '=' ∈ entry.toList := by
      rw [(splitAtEquals?_eq_some_iff.1 hsplit).1]
      simp
    rw [← splitAtEquals?_type hsplit]
    dsimp only
    by_cases hempty : Unicode.trimmed (.ofList written) = ""
    · have hblank := Unicode.trimmed_eq_empty_iff.1 hempty
      rw [String.toList_ofList] at hblank
      rw [if_pos hempty]
      constructor
      · intro h
        cases h
        exact .inr ⟨hsome, hblank, rfl⟩
      · rintro (⟨hnone, -⟩ | ⟨-, -, rfl⟩)
        · exact absurd hsome hnone
        · rfl
    · have hnot : ¬ ∀ char ∈ written, Unicode.isBlank char := by
        rwa [Unicode.trimmed_eq_empty_iff, String.toList_ofList] at hempty
      rw [if_neg hempty]
      constructor
      · intro h
        cases h
      · rintro (⟨hnone, -⟩ | ⟨-, hblank, -⟩)
        · exact absurd hsome hnone
        · exact absurd hblank hnot

/-- The entries that are read are those that are well formed. -/
theorem wellFormed_iff {entry : String} :
    WellFormed entry ↔ ∃ given, readEntry entry = .ok given := by
  have hmalformed : ¬ Malformed entry ↔ WellFormed entry := by
    rw [Malformed, Unicode.trimmed_eq_empty_iff, String.toList_ofList, WellFormed]
    push Not
    rfl
  rw [← hmalformed, malformed_iff]
  cases readEntry entry with
  | error fault => simp
  | ok given => simp

/-! ## All entries -/

/-- The entry gives the type its expression, and no entry behind it gives that type another. -/
def LastGives (entries : List String) (type expression : String) : Prop :=
  ∃ before entry after, entries = before ++ entry :: after ∧ Gives entry type expression ∧
    ∀ later ∈ after, ∀ other, ¬ Gives later type other

/-- One more entry speaks for its own type, and leaves the others as they are. -/
theorem lastGives_concat_iff {entries : List String} {entry type expression : String} :
    LastGives (entries ++ [entry]) type expression ↔
      Gives entry type expression ∨
        (∀ other, ¬ Gives entry type other) ∧ LastGives entries type expression := by
  constructor
  · rintro ⟨before, given, after, hsplit, hgives, hlater⟩
    rcases List.eq_nil_or_concat after with rfl | ⟨front, last, rfl⟩
    · obtain ⟨rfl, heq⟩ := List.append_inj' hsplit rfl
      cases heq
      exact .inl hgives
    · rw [List.concat_eq_append, ← List.cons_append, ← List.append_assoc] at hsplit
      obtain ⟨rfl, heq⟩ := List.append_inj' hsplit rfl
      cases heq
      refine .inr ⟨hlater entry (by simp), before, given, front, rfl, hgives, ?_⟩
      intro later hfront
      exact hlater later (by simp [hfront])
  · rintro (hgives | ⟨hother, before, given, after, rfl, hgives, hlater⟩)
    · exact ⟨entries, entry, [], rfl, hgives, by simp⟩
    · refine ⟨before, given, after ++ [entry], by simp, hgives, ?_⟩
      intro later hmem
      rcases List.mem_append.1 hmem with hafter | hlast
      · exact hlater later hafter
      · rw [List.mem_singleton.1 hlast]
        exact hother

/-- One more entry is put over the table of those before it. -/
theorem typeDefaultsOf_concat_iff {entries : List String} {entry : String}
    {table : OverrideTable} :
    typeDefaultsOf (entries ++ [entry]) = .ok table ↔
      ∃ lower type expression, typeDefaultsOf entries = .ok lower ∧
        readEntry entry = .ok (type, expression) ∧ table = lower.insert type expression := by
  have hconcat : typeDefaultsOf (entries ++ [entry]) = (do
      let given ← entries.mapM readEntry
      return .ofEntries (given ++ [← readEntry entry])) := by
    simp only [typeDefaultsOf, List.mapM_append, List.mapM_cons, List.mapM_nil, Except.map]
    cases entries.mapM readEntry with
    | error fault => rfl
    | ok given =>
      cases readEntry entry with
      | error fault => rfl
      | ok last => rfl
  rw [hconcat, typeDefaultsOf]
  cases entries.mapM readEntry with
  | error fault =>
    constructor
    · intro h
      cases h
    · rintro ⟨lower, type, expression, hlower, -⟩
      cases hlower
  | ok given =>
    cases readEntry entry with
    | error fault =>
      constructor
      · intro h
        cases h
      · rintro ⟨lower, type, expression, -, hread, -⟩
        cases hread
    | ok last =>
      constructor
      · intro h
        cases h
        exact ⟨_, last.1, last.2, rfl, rfl, OverrideTable.ofEntries_concat given last⟩
      · rintro ⟨lower, type, expression, hlower, hread, rfl⟩
        cases hlower
        cases hread
        exact congrArg Except.ok (OverrideTable.ofEntries_concat given (type, expression))

/-- The table answers a type with the last entry that gives it. -/
theorem getElem?_typeDefaultsOf {entries : List String} {table : OverrideTable}
    (h : typeDefaultsOf entries = .ok table) (type expression : String) :
    table[type]? = some expression ↔ LastGives entries type expression := by
  -- From the right, since the entry that is put in last is the one that answers.
  induction entries using List.reverseRecOn generalizing table with
  | nil =>
    cases h
    simp [LastGives, OverrideTable.ofEntries]
  | append_singleton front entry ih =>
    obtain ⟨lower, given, text, hlower, hread, rfl⟩ := typeDefaultsOf_concat_iff.1 h
    have hgives := (readEntry_eq_ok_iff.1 hread).1
    rw [lastGives_concat_iff, Std.ExtTreeMap.getElem?_insert, ← ih hlower]
    by_cases htype : given = type
    · subst htype
      have hnot : ¬ ∀ other, ¬ Gives entry given other := fun h => h text hgives
      simp only [Std.ReflCmp.compare_self, if_true, Option.some.injEq, hnot, false_and, or_false]
      constructor
      · rintro rfl
        exact hgives
      · intro hother
        exact (hgives.unique hother).2
    · have hnone (other : String) : ¬ Gives entry type other := fun hother =>
        htype (hgives.unique hother).1
      simp [htype, hnone]

/-- Entries are refused with the message of the first that is not well formed. -/
theorem typeDefaultsOf_eq_error_iff {entries : List String} {fault : TypeDefaultFault} :
    typeDefaultsOf entries = .error fault ↔
      ∃ before entry after, entries = before ++ entry :: after ∧
        (∀ earlier ∈ before, WellFormed earlier) ∧ readEntry entry = .error fault := by
  have hmapM : typeDefaultsOf entries = .error fault ↔
      entries.mapM readEntry = .error fault := by
    unfold typeDefaultsOf
    cases entries.mapM readEntry with
    | error other => simp [Except.map]
    | ok given => simp [Except.map]
  simp only [hmapM, Results.mapM_eq_error_iff, wellFormed_iff]

/-- A table is made exactly if all entries are well formed. -/
theorem exists_typeDefaultsOf_iff {entries : List String} :
    (∃ table, typeDefaultsOf entries = .ok table) ↔ ∀ entry ∈ entries, WellFormed entry := by
  constructor
  · rintro ⟨table, htable⟩ entry hentry
    obtain ⟨given, hgiven, -⟩ : LoadsTypeDefaults entries table := by
      rcases typeDefaultsOf_cases entries with ⟨overrides, hmade, hloads⟩ | ⟨fault, hfault, -⟩
      · rw [htable] at hmade
        cases hmade
        exact hloads
      · rw [htable] at hfault
        cases hfault
    obtain ⟨read, -, hread⟩ := Results.exists_mem_of_forall₂ hgiven hentry
    exact wellFormed_iff.2 ⟨read, hread⟩
  · intro h
    cases hmade : typeDefaultsOf entries with
    | ok table => exact ⟨table, rfl⟩
    | error fault =>
      obtain ⟨before, entry, after, rfl, -, hrefused⟩ := typeDefaultsOf_eq_error_iff.1 hmade
      obtain ⟨given, hgiven⟩ := wellFormed_iff.1 (h entry (by simp))
      rw [hgiven] at hrefused
      cases hrefused

/-! ## The last entry decides -/

/-- An entry of the command line can name the type: it is not empty, it has no equals sign, and it
has no blanks at its ends. -/
structure Nameable (type : String) : Prop where
  nonempty : type ≠ ""
  noEquals : '=' ∉ type.toList
  bare : Unicode.BareEnds type.toList

theorem Nameable.gives {type : String} (h : Nameable type) (expression : String) :
    Gives (type ++ "=" ++ expression) type expression :=
  ⟨type, rfl, h.noEquals, Unicode.trimsTo_self h.bare⟩

theorem Nameable.readEntry {type : String} (h : Nameable type) (expression : String) :
    readEntry (type ++ "=" ++ expression) = .ok (type, expression) :=
  readEntry_eq_ok_iff.2 ⟨h.gives expression, h.nonempty⟩

section Loading

variable {store after : Store} {explicit : Option String} {entries : List String}
  {loaded : ProjectConfig}

/-- The configuration of a run is that of the project under the table of the entries. -/
theorem loadConfig_eq_ok_iff :
    (loadConfig explicit entries : StateM Store _) store = (.ok loaded, after) ↔
      ∃ table directory project, typeDefaultsOf entries = .ok table ∧
        store.currentDirectory = .ok directory ∧
        (ProjectConfig.load explicit directory : StateM Store _) store = (.ok project, after) ∧
        loaded = project.withTypeDefaults table := by
  cases htable : typeDefaultsOf entries with
  | error fault =>
    constructor
    · intro h
      simp only [loadConfig, htable] at h
      cases h
    · rintro ⟨table, directory, project, hmade, -⟩
      cases hmade
  | ok table =>
    cases hdirectory : store.currentDirectory with
    | error error =>
      simp only [loadConfig, htable, bind, StateT.bind, Files.FileAccess.workingDirectory,
        hdirectory]
      constructor
      · intro h
        cases h
      · rintro ⟨table, directory, project, -, hthere, -⟩
        cases hthere
    | ok directory =>
      rcases hload : (ProjectConfig.load explicit directory : StateM Store _) store with
        ⟨result, left⟩
      simp only [loadConfig, htable, bind, StateT.bind, Files.FileAccess.workingDirectory,
        hdirectory, hload]
      cases result with
      | error fault =>
        constructor
        · intro h
          cases h
        · rintro ⟨table, directory', project, -, hthere, hproject, -⟩
          cases hthere
          rw [hload] at hproject
          cases hproject
      | ok project =>
        constructor
        · intro h
          cases h
          exact ⟨table, directory, project, rfl, rfl, hload, rfl⟩
        · rintro ⟨table', directory', project', hmade, hthere, hproject, rfl⟩
          cases hmade
          cases hthere
          rw [hload] at hproject
          cases hproject
          rfl

/-- A type that can be named does not keep the configuration from being loaded. -/
theorem loadConfig_concat {type : String} (h : Nameable type) (expression : String)
    (hload : (loadConfig explicit entries : StateM Store _) store =
      (.ok loaded, after)) :
    ∃ decided, (loadConfig explicit (entries ++ [type ++ "=" ++ expression]) :
      StateM Store _) store = (.ok decided, after) := by
  obtain ⟨table, directory, project, hmade, hdirectory, hproject, -⟩ :=
    loadConfig_eq_ok_iff.1 hload
  have hlonger := typeDefaultsOf_concat_iff.2
    ⟨table, type, expression, hmade, h.readEntry expression, rfl⟩
  exact ⟨_, loadConfig_eq_ok_iff.2 ⟨_, directory, project, hlonger, hdirectory, hproject, rfl⟩⟩

/-- The last entry is in the configuration, whatever the project and the other entries say. -/
theorem getElem?_loadConfig_concat {type expression : String} (h : Nameable type)
    (hload : (loadConfig explicit (entries ++ [type ++ "=" ++ expression]) :
      StateM Store _) store = (.ok loaded, after)) :
    loaded.typeDefaults[type]? = some expression := by
  obtain ⟨table, -, project, hmade, -, -, rfl⟩ := loadConfig_eq_ok_iff.1 hload
  have hlast : LastGives (entries ++ [type ++ "=" ++ expression]) type expression :=
    lastGives_concat_iff.2 (.inl (h.gives expression))
  have htable : table[type]? = some expression := (getElem?_typeDefaultsOf hmade _ _).2 hlast
  rw [ProjectConfig.withTypeDefaults, OverrideTable.getElem?_layeredOver, htable]
  rfl

end Loading

end Command

/-! ## Fields and factories -/

open Command

/-- What holds of every field of the classes and of the parameter for it holds all through the
factories of a run. -/
theorem generate_parameters {settings : GeneratorSettings}
    {P : Declaration → Field → FactoryParameter → Prop}
    (h : ∀ declaration field, P declaration field
      (.ofField ⟨declaration.overrides settings.typeDefaults, settings.sentinelDate⟩ field))
    (document : Document) (sourcePath : String) :
    List.Forall₂ (fun declaration factory =>
        List.Forall₂ (P declaration) declaration.fields factory.definition.parameters)
      (classesOf document.declarations) (generate settings document sourcePath).factories := by
  rw [← List.forall₂_map_right_iff (f := GeneratedFactory.definition) (R := fun declaration
    (definition : FactoryDefinition) =>
      List.Forall₂ (P declaration) declaration.fields definition.parameters)]
  rw [generate_factories, definitions_factoriesFrom, List.forall₂_map_right_iff, List.forall₂_same]
  intro declaration _
  refine List.forall₂_map_right_iff.2 (List.forall₂_same.2 ?_)
  intro field _
  exact h declaration field

/-- Type defaults of the command line are read exactly. They are taken exactly if every entry has an
equals sign and not only blanks before the first one; then the table has an expression for a type
exactly if the last entry that names the type gives it, as it stands behind the first equals sign.
Otherwise the message is about the first bad entry in list order, and tells an entry without an
equals sign from one without a type.

They reach every default. An entry given last for a type that can be named, the type as it is
rendered and then any expression, can always be loaded where the rest can, and then decides for every
declaration: each of its fields that is of this type, is not nullable and has no override by name
gets the expression, from the tier of overridden types, whatever the project and the other entries
say; so has the parameter for it in the factories of a run. -/
theorem typeDefaultsOf_exact_and_decisive :
    (∀ entries, (∃ table, typeDefaultsOf entries = .ok table) ↔
      ∀ entry ∈ entries, WellFormed entry) ∧
    (∀ entries table, typeDefaultsOf entries = .ok table → ∀ type expression,
      table[type]? = some expression ↔ LastGives entries type expression) ∧
    (∀ entries message,
      (∃ fault, typeDefaultsOf entries = .error fault ∧ fault.message = message) ↔
      ∃ before entry after, entries = before ++ entry :: after ∧
        (∀ earlier ∈ before, WellFormed earlier) ∧
        (('=' ∉ entry.toList ∧ message = "Invalid type default '" ++ entry ++
            "': expected TYPE=EXPR (e.g., String='lorem')") ∨
          ('=' ∈ entry.toList ∧
            (∀ char ∈ entry.toList.takeWhile (· != '='), Unicode.isBlank char) ∧
            message = "Invalid type default '" ++ entry ++ "': type name is empty"))) ∧
    (∀ entry other : String,
      "Invalid type default '" ++ entry ++ "': expected TYPE=EXPR (e.g., String='lorem')" ≠
        "Invalid type default '" ++ other ++ "': type name is empty") ∧
    (∀ (type : FieldType) (expression : String), Nameable type.rendered →
      ∀ (entries : List String) (store : Store) (explicit : Option String),
        let load (entries : List String) : Except RunFault ProjectConfig × Store :=
          (loadConfig explicit entries : StateM Store _) store
        let longer := entries ++ [type.rendered ++ "=" ++ expression]
        (∀ shorter after, load entries = (.ok shorter, after) →
          ∃ config, load longer = (.ok config, after)) ∧
        ∀ config after, load longer = (.ok config, after) →
          (∀ (declaration : Declaration), ∀ field ∈ declaration.fields,
            field.type.rendered = type.rendered →
            (declaration.overrides config.typeDefaults).LeavesToType field →
            Resolver.resolve ⟨declaration.overrides config.typeDefaults, config.sentinelDate⟩
              field = ⟨expression, .typeOverride⟩) ∧
          ∀ (document : Document) (header : Bool) (sourcePath : String),
            List.Forall₂ (fun declaration factory =>
                List.Forall₂ (fun field parameter => field.type.rendered = type.rendered →
                    (declaration.overrides config.typeDefaults).LeavesToType field →
                    parameter.fallback = expression ∧ parameter.source = .typeOverride)
                  declaration.fields factory.definition.parameters)
              (document.declarations.filter fun declaration => declaration.kind = .classLike)
              (generate (config.settings header) document sourcePath).factories) := by
  refine ⟨fun entries => exists_typeDefaultsOf_iff, fun entries table => getElem?_typeDefaultsOf,
    ?_, ?_, ?_⟩
  · intro entries message
    constructor
    · rintro ⟨fault, hfault, rfl⟩
      obtain ⟨before, entry, after, hsplit, hbefore, hread⟩ := typeDefaultsOf_eq_error_iff.1 hfault
      refine ⟨before, entry, after, hsplit, hbefore, ?_⟩
      rcases readEntry_eq_error_iff.1 hread with ⟨hnone, rfl⟩ | ⟨hsome, hblank, rfl⟩
      · exact .inl ⟨hnone, rfl⟩
      · exact .inr ⟨hsome, hblank, rfl⟩
    · rintro ⟨before, entry, after, hsplit, hbefore, hmessage⟩
      -- Either way the entry is refused, with the fault that has this message.
      have hrefused : ∃ fault, readEntry entry = .error fault ∧ fault.message = message := by
        rcases hmessage with ⟨hnone, rfl⟩ | ⟨hsome, hblank, rfl⟩
        · exact ⟨.noExpression entry, readEntry_eq_error_iff.2 (.inl ⟨hnone, rfl⟩), rfl⟩
        · exact ⟨.noType entry, readEntry_eq_error_iff.2 (.inr ⟨hsome, hblank, rfl⟩), rfl⟩
      obtain ⟨fault, hread, hsays⟩ := hrefused
      exact ⟨fault, typeDefaultsOf_eq_error_iff.2 ⟨before, entry, after, hsplit, hbefore, hread⟩,
        hsays⟩
  · intro entry other h
    -- The two messages end with different characters.
    have hbracket : ("': expected TYPE=EXPR (e.g., String='lorem')" : String).toList.getLast? =
        some ')' := by decide
    have hword : ("': type name is empty" : String).toList.getLast? = some 'y' := by decide
    have hlast := congrArg (fun message : String => message.toList.getLast?) h
    simp only [String.toList_append, List.getLast?_append, hbracket, hword, Option.some_or] at hlast
    exact absurd (Option.some.inj hlast) (by decide)
  · intro type expression hnameable entries store explicit load longer
    refine ⟨fun shorter after => loadConfig_concat hnameable expression, ?_⟩
    intro config after hload
    have htype := getElem?_loadConfig_concat hnameable hload
    have hresolve : ∀ (declaration : Declaration) (field : Field),
        field.type.rendered = type.rendered →
        (declaration.overrides config.typeDefaults).LeavesToType field →
        Resolver.resolve ⟨declaration.overrides config.typeDefaults, config.sentinelDate⟩ field =
          ⟨expression, .typeOverride⟩ := by
      intro declaration field hrendered hleaves
      refine hleaves.resolve_eq ?_ config.sentinelDate
      rw [hrendered]
      exact htype
    refine ⟨fun declaration field _ => hresolve declaration field, ?_⟩
    intro document header sourcePath
    refine generate_parameters ?_ document sourcePath
    intro declaration field hrendered hleaves
    have hresolved := hresolve declaration field hrendered hleaves
    exact ⟨congrArg ResolvedDefault.expression hresolved, congrArg ResolvedDefault.source hresolved⟩

/-- The working directory has a configuration with a default for lists of numbers. -/
def configuredStore : Store :=
  workStore.put ["work", "factory_gen.toml"]
    (.file "[factory_gen.type_defaults]\n\"List<int>\" = \"[0]\"\n".toUTF8)

/-- A class with a list of numbers. -/
def cells : Document where
  declarations := [{ name := "Grid", fields := [⟨"cells", .list (.primitive .integer), false⟩] }]

/-- Of three entries the last decides for lists of numbers, over an earlier one and over the project;
blanks around a type do not count, and a second equals sign stands in the expression. Without one the
first such entry is told to the user. -/
theorem cells_decided_by_last_entry :
    (∃ table, typeDefaultsOf [" int =a=b", "int =  c==d"] = .ok table ∧
      table["int"]? = some "  c==d") ∧
    (∃ fault, typeDefaultsOf ["int=1", "bool", " =2"] = .error fault ∧ fault.message =
      "Invalid type default 'bool': expected TYPE=EXPR (e.g., String='lorem')") ∧
    Nameable (FieldType.list (.primitive .integer)).rendered ∧
    ∃ config after, (loadConfig none ["List<int>=[1]", "int=7", "List<int>=a == b"] :
        StateM Store _) configuredStore = (.ok config, after) ∧
      ∀ sourcePath, ∃ factory parameter,
        (generate (config.settings true) cells sourcePath).factories = [factory] ∧
          factory.definition.parameters = [parameter] ∧ parameter.fallback = "a == b" ∧
          parameter.source = .typeOverride := by
  obtain ⟨hmade, hanswer, hrefused, -, hdecides⟩ := typeDefaultsOf_exact_and_decisive
  have hnameable : Nameable (FieldType.list (.primitive .integer)).rendered :=
    ⟨by decide, by decide, by decide⟩
  refine ⟨?_, ?_, hnameable, ?_⟩
  · obtain ⟨table, htable⟩ := (hmade [" int =a=b", "int =  c==d"]).2 (by decide +kernel)
    refine ⟨table, htable, (hanswer _ _ htable "int" "  c==d").2 ?_⟩
    exact ⟨[" int =a=b"], "int =  c==d", [], rfl,
      gives_iff.2 ⟨"int ".toList, by decide +kernel, by decide +kernel⟩, by simp⟩
  · exact (hrefused _ _).2 ⟨["int=1"], "bool", [" =2"], rfl, by decide +kernel,
      .inl ⟨by decide, rfl⟩⟩
  · obtain ⟨hloads, hfields⟩ := hdecides (.list (.primitive .integer)) "a == b" hnameable
      ["List<int>=[1]", "int=7"] configuredStore none
    have hok : ((loadConfig none ["List<int>=[1]", "int=7"] : StateM Store _)
        configuredStore).1.isOk = true := by decide +kernel
    rcases hshorter : (loadConfig none ["List<int>=[1]", "int=7"] : StateM Store _)
      configuredStore with ⟨_ | shorter, after⟩
    · rw [hshorter] at hok
      cases hok
    · obtain ⟨config, hload⟩ := hloads shorter after hshorter
      refine ⟨config, after, hload, fun sourcePath => ?_⟩
      -- The only class has one field, and nothing but its type speaks for it.
      obtain ⟨factory, rest, hfactory, hrest, hfactories⟩ :=
        List.forall₂_cons_left_iff.1 ((hfields config after hload).2 cells true sourcePath)
      obtain ⟨parameter, others, hparameter, hothers, hparameters⟩ :=
        List.forall₂_cons_left_iff.1 hfactory
      obtain rfl := List.forall₂_nil_left_iff.1 hrest
      obtain rfl := List.forall₂_nil_left_iff.1 hothers
      obtain ⟨hfallback, hsource⟩ := hparameter rfl ⟨rfl, rfl, rfl⟩
      exact ⟨factory, parameter, hfactories, hparameters, hfallback, hsource⟩

end ModelFactory
