import ModelFactory.Proofs.Command.AllOrNothing
import ModelFactory.Proofs.Command.Painted
import ModelFactory.Proofs.Command.Restyled

/-!
# Presentation changes no result

How a run presents itself changes nothing that it does. Colours and theme leave the work as it is,
and what is told of it looks the same (`Command.invocation_run_looksSame`). Whether a run is quiet
or verbose changes neither its status nor its errors (`Command.WorkEnd.told_anyVoice`).
`Command.presentation_changes_nothing` says both of whole runs over any file system.
-/

set_option autoImplicit false

namespace ModelFactory.Command

open Files (FileAccess Store)
open Text (IsTime)

section Runs

variable {σ : Type} [FileAccess (StateM σ)]

/-- Two invocations with one request, in surroundings that agree on what is not presentation. -/
theorem invocation_run_looksSame (environment other : Environment)
    (hwidth : other.width = environment.width) (hwording : other.wording = environment.wording)
    (hclock : IsTime environment.clock)
    (hotherClock : IsTime other.clock) {invocation otherInvocation : Invocation}
    (hrequest : otherInvocation.request = invocation.request) (state : σ) :
    let result := (invocation.run environment : StateM σ Outcome) state
    let otherResult := (otherInvocation.run other : StateM σ Outcome) state
    otherResult.2 = result.2 ∧ LooksSame result.1 otherResult.1 := by
  unfold Invocation.run
  rw [hrequest]
  cases invocation.request with
  | list options =>
    dsimp only
    rw [runList_eq, runList_eq, hwidth]
    exact ⟨rfl, toldList_looksSame hwording _ _⟩
  | generate options =>
    dsimp only
    rw [runGenerate_eq, runGenerate_eq]
    have hvoice : SameVoice (options.reporter environment (environment.coloring invocation))
        (options.reporter other (other.coloring otherInvocation)) :=
      ⟨rfl, rfl, hwording, hclock, hotherClock⟩
    exact ⟨rfl, hvoice.told options ((work options : StateM σ WorkEnd) state).1⟩

/-- In one colouring, the status and the errors are told with any voice. -/
theorem WorkEnd.told_anyVoice {reporter other : Reporter} (h : other.coloring = reporter.coloring)
    (hwording : other.wording = reporter.wording) (options : GenerateOptions)
    (verbose quiet : Bool) (finish : WorkEnd) :
    let outcome := finish.told reporter options
    let otherOutcome := finish.told other { options with verbose, quiet }
    otherOutcome.status = outcome.status ∧ otherOutcome.errors = outcome.errors := by
  cases finish with
  | noPath fault =>
    rw [told, told, hwording]
    exact ⟨rfl, rfl⟩
  | notLoaded fault =>
    rw [told, told, hwording]
    exact ⟨rfl, rfl⟩
  | notWritten path output error => exact ⟨rfl, rfl⟩
  | written path output =>
    have hfailures : other.failures output = reporter.failures output := by
      unfold Reporter.failures Reporter.notice
      rw [h]
    simp only [told, finished, hfailures, hwording]
    cases output.hasFailures with
    | true => exact ⟨rfl, rfl⟩
    | false => exact ⟨rfl, rfl⟩

end Runs

/-- Command lines that differ in `--color` and `--theme` alone, run over any file system by programs
whose output goes to no terminal and whose `COLORFGBG` and clock may differ: the file systems are
the same afterwards, so is the status, and what is printed looks the same to a reader who does not
heed the times in it. Two invocations that generate and differ in `--verbose` and `--quiet` alone
leave the same file systems, the same status and the same errors. -/
theorem presentation_changes_nothing :
    (∀ {σ : Type} [FileAccess (StateM σ)] (environment : Environment) (colorFgBg : Option String)
        (clock : String) (arguments others : List String) (state : σ),
      let piped := { environment with onTerminal := false }
      let other := { piped with colorFgBg, clock }
      let result := (run piped arguments : StateM σ Outcome) state
      let otherResult := (run other others : StateM σ Outcome) state
      IsTime environment.clock → IsTime clock → OtherStyle arguments others →
        otherResult.2 = result.2 ∧ LooksSame result.1 otherResult.1) ∧
    (∀ {σ : Type} [FileAccess (StateM σ)] (environment : Environment) (clock : String)
        (arguments others : List String) (options : GenerateOptions) (verbose quiet : Bool)
        (color : ColorMode) (theme : ThemeMode) (state : σ),
      let result := (run environment arguments : StateM σ Outcome) state
      let otherResult := (run { environment with clock } others : StateM σ Outcome) state
      readInvocation arguments = .ok ⟨.generate options, color, theme⟩ →
      readInvocation others = .ok ⟨.generate { options with verbose, quiet }, color, theme⟩ →
        otherResult.2 = result.2 ∧ otherResult.1.status = result.1.status ∧
          otherResult.1.errors = result.1.errors) := by
  constructor
  · intro σ _ environment colorFgBg clock arguments others state piped other result otherResult
      hclock hotherClock hstyle
    have hread := hstyle.alike
    simp only [result, otherResult, run]
    generalize readInvocation arguments = read at hread
    generalize readInvocation others = otherRead at hread
    -- Refused command lines are told as they are, without colours.
    cases hread with
    | error stop => exact ⟨rfl, rfl, rfl, rfl⟩
    | ok hrequest =>
      exact invocation_run_looksSame piped other rfl rfl hclock hotherClock hrequest state
  · intro σ _ environment clock arguments others options verbose quiet color theme state result
      otherResult hread hotherRead
    simp only [result, otherResult, run, hread, hotherRead, Invocation.run, runGenerate_eq]
    let coloring := environment.coloring ⟨.generate options, color, theme⟩
    let later : Environment := { environment with clock }
    let reporter := options.reporter environment coloring
    let other := { options with verbose, quiet }.reporter later coloring
    have hcoloring : other.coloring = reporter.coloring := rfl
    exact ⟨rfl, WorkEnd.told_anyVoice hcoloring rfl options verbose quiet
      ((work options : StateM σ WorkEnd) state).1⟩

/-- Two runs in different colours leave the same store and tell the same failure, and a quiet run
fails as a run with all its lines does. -/
theorem mixed_looksSame :
    let environment : Environment := { clock := "[12:00:00]" }
    let other : Environment := { clock := "[12:00:07]", colorFgBg := some "0;15" }
    let always := (run environment (mixedArguments ++ ["--color", "always"]) :
      StateM Store Outcome) mixedStore
    let never := (run other (mixedArguments ++ ["--color", "never"]) :
      StateM Store Outcome) mixedStore
    let told := (run environment mixedArguments : StateM Store Outcome) mixedStore
    let quiet := (run environment (mixedArguments ++ ["-q"]) : StateM Store Outcome) mixedStore
    (never.2 = always.2 ∧ LooksSame always.1 never.1) ∧
      (quiet.2 = told.2 ∧ quiet.1.status = told.1.status ∧ quiet.1.errors = told.1.errors) := by
  intro environment other always never told quiet
  obtain ⟨hstyle, hvoice⟩ := presentation_changes_nothing
  have hrestyled : Restyled (mixedArguments ++ ["--color", "always"])
      (mixedArguments ++ ["--color", "never"]) := by
    have halways : StyleValue .color "always" := .color rfl
    have hnever : StyleValue .color "never" := .color rfl
    exact .same (by decide) (.same (by decide) (.same (by decide) (.same (by decide)
      (.same (by decide) (.apart halways hnever .nil)))))
  constructor
  · exact hstyle environment (some "0;15") "[12:00:07]" _ _ mixedStore (by decide) (by decide)
      (.written hrestyled (by decide))
  · exact hvoice environment "[12:00:00]" mixedArguments (mixedArguments ++ ["-q"]) mixedOptions
      false true .auto .auto mixedStore rfl rfl

end ModelFactory.Command
