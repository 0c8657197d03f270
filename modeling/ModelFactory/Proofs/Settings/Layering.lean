import Mathlib.Data.List.Induction
import ModelFactory.Proofs.Settings.TypeDefaults

/-!
# Layers of type defaults

A project is configured step by step: a text is loaded, type defaults are laid over the table, the
settings of a run are taken. Only a text that is read replaces the configuration, and only from
there on count the layers. `configAfter_layers` says what any steps come to: the newest layer that
has a type decides, below all layers lies the table of the text that was read last, and everything
else is as that text has it.
-/

set_option autoImplicit false

namespace ModelFactory

open ProjectConfig (dateOf? fileSuffixOf? headerOf? typeDefaultOf? usesBothWords)

/-! ## Steps -/

/-- A step of configuring a project. -/
inductive ConfigStep where
  /-- A text is loaded. -/
  | load (text : String)
  /-- Type defaults are laid over those that are there. -/
  | typeDefaults (overrides : OverrideTable)
  /-- The settings of a run are taken. -/
  | settings (header : Bool)

namespace ConfigStep

/-- The configuration after a step. A text that is refused leaves it as it is. -/
def after (config : ProjectConfig) : ConfigStep → ProjectConfig
  | load text =>
    match configOfToml text with
    | .ok loaded => loaded
    | .error _ => config
  | typeDefaults overrides => config.withTypeDefaults overrides
  | settings _ => config

/-- The configuration that a step reads from a text. -/
def loaded? : ConfigStep → Option ProjectConfig
  | load text => (configOfToml text).toOption
  | _ => none

/-- The default that a step lays over the others for a type. -/
def given? (type : String) : ConfigStep → Option String
  | typeDefaults overrides => overrides[type]?
  | _ => none

end ConfigStep

/-- The configuration after some steps. At first the defaults hold. -/
def configAfter (steps : List ConfigStep) : ProjectConfig := steps.foldl ConfigStep.after {}

/-- What the last text that is read leaves, with the steps after it. If none is read, the defaults
hold and all steps count. -/
inductive LastLoad : List ConfigStep → Option String → ProjectConfig → List ConfigStep → Prop where
  | never {steps : List ConfigStep} (h : ∀ step ∈ steps, step.loaded? = none) :
    LastLoad steps none {} steps
  | last {front rest : List ConfigStep} {text : String} {loaded : ProjectConfig}
    (hload : configOfToml text = .ok loaded) (h : ∀ step ∈ rest, step.loaded? = none) :
    LastLoad (front ++ .load text :: rest) (some text) loaded rest

/-- The default of a type in the newest layer that has one. -/
def newest? (steps : List ConfigStep) (type : String) : Option String :=
  steps.reverse.findSome? (·.given? type)

/-- The configuration has the layers of the steps over the type defaults of another one, and is as
that one otherwise. -/
structure Layers (loaded : ProjectConfig) (steps : List ConfigStep) (config : ProjectConfig) :
    Prop where
  sentinelDate : config.sentinelDate = loaded.sentinelDate
  fileSuffix : config.fileSuffix = loaded.fileSuffix
  header : config.header = loaded.header
  typeDefaults : ∀ type : String,
    config.typeDefaults[type]? = (newest? steps type).or loaded.typeDefaults[type]?

/-! ## Steps after the last text that is read -/

section Layers

variable {loaded config : ProjectConfig} {steps : List ConfigStep} {step : ConfigStep}

theorem newest?_concat (steps : List ConfigStep) (step : ConfigStep) (type : String) :
    newest? (steps ++ [step]) type = (step.given? type).or (newest? steps type) := by
  unfold newest?
  rw [List.reverse_append, List.reverse_singleton, List.singleton_append, List.findSome?_cons]
  cases step.given? type with
  | none => rfl
  | some expression => rfl

/-- A step without a layer changes nothing. -/
theorem Layers.same (h : Layers loaded steps config) (hgiven : ∀ type, step.given? type = none) :
    Layers loaded (steps ++ [step]) config := by
  refine ⟨h.sentinelDate, h.fileSuffix, h.header, fun type => ?_⟩
  rw [newest?_concat, hgiven, Option.none_or]
  exact h.typeDefaults type

/-- A step that reads no text adds its layer. -/
theorem Layers.next (h : Layers loaded steps config) (hstep : step.loaded? = none) :
    Layers loaded (steps ++ [step]) (step.after config) := by
  cases step with
  | load text =>
    cases hread : configOfToml text with
    | ok other =>
      rw [ConfigStep.loaded?, hread] at hstep
      cases hstep
    | error fault =>
      have hafter : (ConfigStep.load text).after config = config := by
        simp only [ConfigStep.after, hread]
      rw [hafter]
      exact h.same fun _ => rfl
  | typeDefaults overrides =>
    refine ⟨h.sentinelDate, h.fileSuffix, h.header, fun type => ?_⟩
    show (overrides.layeredOver config.typeDefaults)[type]? = _
    rw [OverrideTable.getElem?_layeredOver, h.typeDefaults, newest?_concat, Option.or_assoc]
    rfl
  | settings header => exact h.same fun _ => rfl

/-- Steps that read no text add their layers. -/
theorem Layers.foldl_after (loaded : ProjectConfig)
    (hsteps : ∀ step ∈ steps, step.loaded? = none) :
    Layers loaded steps (steps.foldl ConfigStep.after loaded) := by
  induction steps using List.reverseRecOn with
  | nil => exact ⟨rfl, rfl, rfl, fun _ => rfl⟩
  | append_singleton front last ih =>
    rw [List.foldl_append]
    apply (ih fun step hstep => hsteps step (List.mem_append_left _ hstep)).next
    exact hsteps last (List.mem_append_right _ List.mem_cons_self)

end Layers

/-! ## Any steps -/

section Steps

variable {steps rest : List ConfigStep} {text? : Option String} {loaded : ProjectConfig}

/-- Of any steps some text is the last one that is read, or none is. -/
theorem exists_lastLoad (steps : List ConfigStep) :
    ∃ text? loaded rest, LastLoad steps text? loaded rest := by
  induction steps using List.reverseRecOn with
  | nil => exact ⟨none, {}, [], .never fun _ hstep => absurd hstep List.not_mem_nil⟩
  | append_singleton front last ih =>
    cases hlast : last.loaded? with
    | some config =>
      cases last with
      | load text =>
        cases hread : configOfToml text with
        | error fault =>
          rw [ConfigStep.loaded?, hread] at hlast
          cases hlast
        | ok loaded =>
          exact ⟨some text, loaded, [], .last hread fun _ hstep => absurd hstep List.not_mem_nil⟩
      | typeDefaults overrides => cases hlast
      | settings header => cases hlast
    | none =>
      have hrest {rest : List ConfigStep} (h : ∀ step ∈ rest, step.loaded? = none) :
          ∀ step ∈ rest ++ [last], step.loaded? = none := by
        intro step hstep
        rcases List.mem_append.1 hstep with hin | hin
        · exact h step hin
        · rw [List.mem_singleton.1 hin]
          exact hlast
      obtain ⟨text?, loaded, rest, h⟩ := ih
      cases h with
      | never h => exact ⟨none, {}, _, .never (hrest h)⟩
      | @last before rest text loaded hload h =>
        refine ⟨some text, loaded, rest ++ [last], ?_⟩
        rw [List.append_assoc, List.cons_append]
        exact .last hload (hrest h)

/-- The layers of a configuration are those after the last text that is read. -/
theorem LastLoad.layers (h : LastLoad steps text? loaded rest) :
    Layers loaded rest (configAfter steps) := by
  cases h with
  | never h => exact .foldl_after {} h
  | @last front rest text loaded hload h =>
    have hafter : configAfter (front ++ .load text :: rest) =
        rest.foldl ConfigStep.after loaded := by
      rw [configAfter, List.foldl_append, List.foldl_cons]
      simp only [ConfigStep.after, hload]
    rw [hafter]
    exact .foldl_after loaded h

/-- The lowest layer is the table of the text that was read. -/
theorem LastLoad.typeDefaults (h : LastLoad steps text? loaded rest) (type : String) :
    loaded.typeDefaults[type]? = text?.bind (typeDefaultOf? · type) := by
  cases h with
  | never h => rfl
  | last hload h => exact configOfToml_typeDefaults hload type

/-- The rest of the configuration is what the text that was read gives, or the default. -/
theorem LastLoad.entries (h : LastLoad steps text? loaded rest) :
    loaded.sentinelDate = (text?.bind dateOf?).getD .millennium ∧
      loaded.fileSuffix = (text?.bind fileSuffixOf?).getD defaultFileSuffix ∧
      loaded.header = (text?.bind headerOf?).getD true := by
  cases h with
  | never h => exact ⟨rfl, rfl, rfl⟩
  | last hload h =>
    exact ⟨configOfToml_sentinelDate hload, configOfToml_fileSuffix hload,
      configOfToml_header hload⟩

end Steps

/-- After any steps the date, the suffix and the switch of the banner are those of the last text
that was read, which has what stands in it for them and the defaults for what does not, or all of
them are the defaults. A type has the default of the newest layer after that text that has one, else
the one that the text gives. The settings that are taken then are just these, with the banner if both
the configuration and the run want it. A text that gives type defaults under both words is not
read. -/
theorem configAfter_layers (steps : List ConfigStep) :
    (∃ text? loaded rest, LastLoad steps text? loaded rest) ∧
      (∀ text? loaded rest, LastLoad steps text? loaded rest →
        let config := configAfter steps
        config.sentinelDate = loaded.sentinelDate ∧ config.fileSuffix = loaded.fileSuffix ∧
          config.header = loaded.header ∧
            (loaded.sentinelDate = (text?.bind dateOf?).getD .millennium ∧
              loaded.fileSuffix = (text?.bind fileSuffixOf?).getD defaultFileSuffix ∧
              loaded.header = (text?.bind headerOf?).getD true) ∧
            ∀ type : String, config.typeDefaults[type]? =
              (newest? rest type).or (text?.bind (typeDefaultOf? · type))) ∧
      (∀ header : Bool,
        let config := configAfter steps
        config.settings header =
          { typeDefaults := config.typeDefaults, sentinelDate := config.sentinelDate
            header := config.header && header, fileSuffix := config.fileSuffix }) ∧
      ∀ text, usesBothWords text = true → ∃ fault, configOfToml text = .error fault := by
  refine ⟨exists_lastLoad steps, ?_, fun _ => rfl, fun _ => configOfToml_refuses_both⟩
  intro text? loaded rest h
  have hlayers := h.layers
  refine ⟨hlayers.sentinelDate, hlayers.fileSuffix, hlayers.header, h.entries, fun type => ?_⟩
  rw [hlayers.typeDefaults, h.typeDefaults]

/-- A text with the other word for the type defaults. The value of one entry is no string. -/
def suffixText : String :=
  "[factory_gen]\nsentinel_date = \"1999-12-31\"\nheader = false\nfile_suffix = \".f.dart\"\n"
    ++ "defaults = \x7bString = \"'a'\", bool = \"true\", int = 5\x7d"

/-- The configuration in `suffixText`. -/
def suffixConfig : ProjectConfig where
  sentinelDate := ⟨1999, 12, 31, by decide⟩
  fileSuffix := ".f.dart"
  header := false
  typeDefaults := .ofEntries [("String", "'a'"), ("bool", "true")]

/-- A text with both words for the type defaults. -/
def bothWordsText : String :=
  "factory_gen = \x7bdefaults = \x7b\x7d, type_defaults = \x7b\x7d\x7d"

/-- What comes after `suffixText`: a layer, a text that is not read, and settings that are taken. -/
def stepsAfter : List ConfigStep :=
  [.typeDefaults (.ofEntries [("String", "'b'")]), .load bothWordsText, .settings true]

theorem layers_after_suffixText :
    configOfToml suffixText = .ok suffixConfig ∧
      let config := configAfter ([] ++ .load suffixText :: stepsAfter)
      config.sentinelDate = ⟨1999, 12, 31, by decide⟩ ∧ config.fileSuffix = ".f.dart" ∧
        dateOf? suffixText = some ⟨1999, 12, 31, by decide⟩ ∧
        config.typeDefaults["String"]? = some "'b'" ∧
        config.typeDefaults["bool"]? = some "true" ∧ config.typeDefaults["int"]? = none ∧
          (config.settings true).header = false ∧
            ∃ fault, configOfToml bothWordsText = .error fault := by
  have hload : configOfToml suffixText = .ok suffixConfig := by
    have h : (configOfToml suffixText).toOption = some suffixConfig := by decide +kernel
    cases hread : configOfToml suffixText with
    | error fault => rw [hread] at h; cases h
    | ok config => rw [hread] at h; cases h; rfl
  obtain ⟨-, hlayers, hsettings, hboth⟩ :=
    configAfter_layers ([] ++ .load suffixText :: stepsAfter)
  obtain ⟨fault, hfault⟩ := hboth bothWordsText (by decide +kernel)
  have hafter : ∀ step ∈ stepsAfter, step.loaded? = none := by
    simp [stepsAfter, ConfigStep.loaded?, hfault, Except.toOption]
  obtain ⟨hdate, hsuffix, hheader, -, htypes⟩ := hlayers _ _ _ (.last hload hafter)
  refine ⟨hload, hdate, hsuffix, by decide +kernel, ?_, ?_, ?_, ?_, fault, hfault⟩
  · rw [htypes]
    decide +kernel
  · rw [htypes]
    decide +kernel
  · rw [htypes]
    decide +kernel
  · simp only [hsettings, hheader, suffixConfig, Bool.false_and]

end ModelFactory
