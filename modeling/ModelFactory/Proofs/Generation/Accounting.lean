import Mathlib.Algebra.GroupWithZero.Nat
import Mathlib.Data.List.Basic
import ModelFactory.Proofs.Generation.Run

/-!
# The counts of a run

The counts of a run grow in several places: every declaration is seen, a class is recorded with its
parameters one after the other and with the clash of its file name, and any other declaration is
recorded as a failure. `RunState.Accounts` ties them to what the run has given so far. It holds
before the first pass, and every pass keeps it (`RunState.Accounts.pass`), so it holds after the
passes over any declarations (`RunState.Accounts.foldl_pass`).

`generate_accounts` reads it off for a whole run, with the counts of the tiers as reports list them.
-/

set_option autoImplicit false

namespace ModelFactory

/-! ## Counts of the tiers -/

namespace Statistics

/-- Each default is counted under its own tier. -/
theorem foldl_countDefault (sources : List DefaultSource) (counts : DefaultSource → Nat)
    (source : DefaultSource) :
    sources.foldl countDefault counts source = counts source + sources.count source := by
  induction sources generalizing counts with
  | nil => simp
  | cons first rest ih =>
    rw [List.foldl_cons, ih, List.count_cons]
    unfold countDefault
    by_cases h : source = first
    · simp only [h, if_true, beq_self_eq_true]
      omega
    · simp [h, Ne.symm h]

/-- Every default has one of the tiers. -/
theorem sum_count_all (sources : List DefaultSource) :
    (DefaultSource.all.map fun source => sources.count source).sum = sources.length := by
  induction sources with
  | nil => rfl
  | cons source rest ih =>
    simp only [DefaultSource.all, List.map_cons, List.map_nil, List.sum_cons, List.sum_nil] at ih ⊢
    cases source with
    | _ =>
      simp only [List.count_cons, List.length_cons]
      simp only [beq_self_eq_true, if_true, beq_iff_eq, reduceCtorEq, if_false]
      omega

variable (statistics : Statistics)

/-- The tiers are listed in the order in which they are asked, without those that gave nothing. -/
theorem defaultsBySource_eq :
    statistics.defaultsBySource =
      (DefaultSource.all.filter fun source => statistics.defaultsFrom source ≠ 0).map
        fun source => (source, statistics.defaultsFrom source) := by
  rw [← List.filterMap_eq_map, List.filterMap_filter]
  unfold defaultsBySource
  congr 1
  funext source
  by_cases h : statistics.defaultsFrom source = 0
  · simp [h]
  · simp [h]

/-- A tier is listed with its count, unless that is zero. -/
theorem mem_defaultsBySource {source : DefaultSource} {count : Nat} :
    (source, count) ∈ statistics.defaultsBySource ↔
      0 < count ∧ count = statistics.defaultsFrom source := by
  rw [defaultsBySource_eq]
  simp only [List.mem_map, List.mem_filter, Prod.mk.injEq, decide_eq_true_eq]
  constructor
  · rintro ⟨tier, ⟨-, hcount⟩, rfl, rfl⟩
    exact ⟨Nat.pos_of_ne_zero hcount, rfl⟩
  · rintro ⟨hpos, rfl⟩
    exact ⟨source, ⟨DefaultSource.mem_all source, Nat.ne_of_gt hpos⟩, rfl, rfl⟩

/-- No tier is listed twice. -/
theorem nodup_defaultsBySource : (statistics.defaultsBySource.map (·.1)).Nodup := by
  have hall : DefaultSource.all.Nodup := by decide
  rw [defaultsBySource_eq, List.map_map]
  simpa [Function.comp_def] using hall.filter _

/-- Nothing is lost with the tiers that are not listed. -/
theorem sum_defaultsBySource :
    (statistics.defaultsBySource.map (·.2)).sum =
      (DefaultSource.all.map statistics.defaultsFrom).sum := by
  rw [defaultsBySource_eq, List.map_map]
  induction DefaultSource.all with
  | nil => rfl
  | cons tier tiers ih =>
    by_cases h : statistics.defaultsFrom tier = 0
    · simpa [h] using ih
    · simpa [h] using ih

end Statistics

/-! ## What the counts stand for -/

/-- The parameters of factories. -/
def parametersOf (factories : List GeneratedFactory) : List FactoryParameter :=
  factories.flatMap (·.definition.parameters)

theorem parametersOf_concat (factories : List GeneratedFactory) (factory : GeneratedFactory) :
    parametersOf (factories ++ [factory]) =
      parametersOf factories ++ factory.definition.parameters := by
  simp [parametersOf]

/-- A clash is met exactly by a model that does not get its natural name. -/
theorem FileNames.length_clash? (names : FileNames) (model : String) :
    (names.clash? model).toList.length =
      if names.nextName model ≠ Text.snakeCase model ++ names.suffix then 1 else 0 := by
  have hnone := clash?_eq_none_iff names model
  cases h : names.clash? model with
  | none => simp [hnone.1 h]
  | some clash =>
    have hne : names.nextName model ≠ Text.snakeCase model ++ names.suffix := by
      rw [Ne, ← hnone, h]
      exact Option.some_ne_none clash
    simp [hne]

namespace RunState

variable {settings : GeneratorSettings} {count : Nat} {state : RunState}

/-- The counts tell what the run has given so far, after passes over so many declarations. -/
structure Accounts (settings : GeneratorSettings) (count : Nat) (state : RunState) : Prop where
  suffix : state.names.suffix = settings.fileSuffix
  seen : state.output.statistics.elementsSeen = count
  parted : count = state.output.factories.length + state.output.failures.length
  factories : state.output.statistics.factoriesGenerated = state.output.factories.length
  failures : state.output.statistics.failures = state.output.failures.length
  fields : state.output.statistics.fieldsResolved = (parametersOf state.output.factories).length
  sources : ∀ source, state.output.statistics.defaultsFrom source =
    ((parametersOf state.output.factories).map (·.source)).count source
  warnings : state.output.statistics.warnings.length =
    state.output.factories.countP fun factory =>
      factory.fileName ≠ Text.snakeCase factory.definition.model ++ settings.fileSuffix

theorem Accounts.start (settings : GeneratorSettings) :
    Accounts settings 0 { names := { suffix := settings.fileSuffix } } := by
  constructor
  all_goals simp [parametersOf]

/-- A pass counts what it gives: a factory with its parameters and its clash, or a failure. -/
theorem Accounts.pass (h : Accounts settings count state) (declaration : Declaration) :
    Accounts settings (count + 1) (pass settings state declaration) := by
  by_cases hclass : declaration.kind = .classLike
  · rw [pass_of_class hclass]
    constructor
    case suffix => exact h.suffix
    case seen => exact congrArg (· + 1) h.seen
    case parted =>
      simp only [List.length_append, List.length_singleton, h.parted]
      omega
    case factories => simp [Statistics.recordFactory, h.factories]
    case failures => exact h.failures
    case fields =>
      simp only [Statistics.recordFactory, h.fields, parametersOf_concat, List.length_append]
      rfl
    case sources =>
      intro source
      simp only [Statistics.recordFactory, Statistics.foldl_countDefault, h.sources,
        parametersOf_concat, List.map_append, List.count_append]
      rfl
    case warnings =>
      have hclash := state.names.length_clash? declaration.name
      rw [h.suffix] at hclash
      simp only [Statistics.recordFactory, List.length_append, List.countP_append, h.warnings,
        hclash, List.countP_singleton, decide_eq_true_eq]
      rfl
  · rw [pass_of_other hclass]
    constructor
    case suffix => exact h.suffix
    case seen => exact congrArg (· + 1) h.seen
    case parted =>
      simp only [List.length_append, List.length_singleton, h.parted]
      omega
    case factories => exact h.factories
    case failures => simp [Statistics.recordFailure, h.failures]
    case fields => exact h.fields
    case sources => exact h.sources
    case warnings => exact h.warnings

/-- Passes over declarations keep the counts true of what the run has given. -/
theorem Accounts.foldl_pass (h : Accounts settings count state) (declarations : List Declaration) :
    Accounts settings (count + declarations.length)
      (declarations.foldl (RunState.pass settings) state) := by
  induction declarations generalizing count state with
  | nil => exact h
  | cons declaration rest ih =>
    rw [List.foldl_cons, List.length_cons, Nat.add_comm rest.length, ← Nat.add_assoc]
    exact ih (h.pass declaration)

end RunState

/-- The counts of a run account for everything. Every declaration that is seen has a factory or a
failure. Every parameter of a factory is a field that was resolved, and it is counted once, under
the tier of its default: a tier is listed exactly if it gave some default, once and with the number
of defaults that it gave. There are as many warnings as factories without their natural file
name. -/
theorem generate_accounts (settings : GeneratorSettings) (document : Document)
    (sourcePath : String) :
    let output := generate settings document sourcePath
    let counts := output.statistics
    let parameters := output.factories.flatMap (·.definition.parameters)
    (counts.elementsSeen = document.declarations.length ∧
      counts.elementsSeen = counts.factoriesGenerated + counts.failures) ∧
    (counts.factoriesGenerated = output.factories.length ∧
      counts.failures = output.failures.length) ∧
    (counts.fieldsResolved = parameters.length ∧
      counts.fieldsResolved = (counts.defaultsBySource.map (·.2)).sum) ∧
    ((counts.defaultsBySource.map (·.1)).Nodup ∧
      ∀ source count, (source, count) ∈ counts.defaultsBySource ↔
        (∃ parameter ∈ parameters, parameter.source = source) ∧
          count = (parameters.map (·.source)).count source) ∧
    counts.warnings.length = output.factories.countP fun factory =>
      factory.fileName ≠ Text.snakeCase factory.definition.model ++ settings.fileSuffix := by
  intro output counts parameters
  have h := (RunState.Accounts.start settings).foldl_pass document.declarations
  rw [Nat.zero_add] at h
  have hfields : counts.fieldsResolved = parameters.length := h.fields
  have hsources (source : DefaultSource) :
      counts.defaultsFrom source = (parameters.map (·.source)).count source := h.sources source
  refine ⟨⟨h.seen, ?_⟩, ⟨h.factories, h.failures⟩, ⟨hfields, ?_⟩,
    ⟨counts.nodup_defaultsBySource, ?_⟩, h.warnings⟩
  · have hparted := h.parted
    rw [← h.factories, ← h.failures] at hparted
    exact h.seen.trans hparted
  · -- The counts of all tiers together are the number of parameters.
    have hsum := Statistics.sum_count_all (parameters.map (·.source))
    simp only [← hsources, List.length_map] at hsum
    rw [counts.sum_defaultsBySource, hsum, hfields]
  · intro source count
    rw [counts.mem_defaultsBySource, hsources]
    constructor
    · rintro ⟨hpos, rfl⟩
      exact ⟨List.mem_map.1 (List.count_pos_iff.1 hpos), rfl⟩
    · rintro ⟨hgave, rfl⟩
      exact ⟨List.count_pos_iff.2 (List.mem_map.2 hgave), rfl⟩

end ModelFactory
