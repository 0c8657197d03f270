import Mathlib.Data.List.Forall2
import ModelFactory.Proofs.Command.Work
import ModelFactory.Proofs.Text.Escapes

/-!
# What is seen of painted lines

Painting puts an escape sequence in front of a piece and one behind it, whatever the colours
(`Command.Coloring.isSequence_opening`, `Command.Coloring.isSequence_closing`). So of a painted
piece is seen what is seen of the piece, and reporters that differ in colours and clock tell lines
that are alike (`Command.SameVoice`). Then the outcomes that they tell of one piece of work look the
same (`Command.SameVoice.told`, `Command.toldList_looksSame`).
-/

set_option autoImplicit false

namespace ModelFactory.Command

open Text (EscapeState IsSequence IsTime LineAlike escapeChar masked shown unescaped)

/-! ## Painted pieces -/

namespace Coloring

theorem isSequence_reset : IsSequence (escape ++ "[39m") := by
  intro state
  cases state <;> decide

theorem isSequence_refused : IsSequence (escape ++ "[m") := by
  intro state
  cases state <;> decide

theorem isSequence_opening (coloring : Coloring) (role : Role) :
    IsSequence (coloring.opening role) := by
  cases coloring with
  | reset => exact isSequence_reset
  | refused => exact isSequence_refused
  | colored theme =>
    -- Every colour of the palette is in one of these sequences, so each of them is read.
    intro state
    cases theme <;> cases role <;> cases state <;> decide +kernel

theorem isSequence_closing (coloring : Coloring) : IsSequence coloring.closing := by
  cases coloring with
  | refused => exact isSequence_refused
  | reset => exact isSequence_reset
  | colored theme => exact isSequence_reset

variable (coloring : Coloring) (role : Role) (piece : String) {state : EscapeState}

/-- Of a painted piece is seen what is seen of the piece. -/
@[simp] theorem shown_paint : state.shown (coloring.paint role piece).toList = unescaped piece := by
  obtain ⟨hopening, hopened⟩ := coloring.isSequence_opening role state
  rw [paint, String.toList_append, String.toList_append, EscapeState.shown_append,
    EscapeState.shown_append, EscapeState.after_append, hopening, hopened, List.nil_append,
    (coloring.isSequence_closing _).1, List.append_nil]
  rfl

/-- No escape sequence goes on behind it. -/
@[simp] theorem after_paint : state.after (coloring.paint role piece).toList = .outside := by
  rw [paint, String.toList_append, EscapeState.after_append]
  exact (coloring.isSequence_closing _).2

theorem after_append_paint (text : String) :
    state.after (text ++ coloring.paint role piece).toList = .outside := by
  rw [String.toList_append, EscapeState.after_append, after_paint]

end Coloring

theorem unescaped_append (text other : String) :
    unescaped (text ++ other) =
      unescaped text ++ (EscapeState.outside.after text.toList).shown other.toList := by
  rw [unescaped, String.toList_append, EscapeState.shown_append]
  rfl

/-- What is plain is shown, and what follows it is seen by itself. -/
theorem unescaped_plain_append {text : String} (h : escapeChar ∉ text.toList) (other : String) :
    unescaped (text ++ other) = text.toList ++ unescaped other := by
  obtain ⟨hshown, hafter⟩ := EscapeState.shown_outside h
  rw [unescaped_append, hafter, unescaped, hshown]
  rfl

/-! ## Painted lines -/

namespace Reporter

variable (reporter : Reporter)

/-- Behind a painted piece and a blank, a text is seen by itself. -/
theorem unescaped_paint_append (role : Role) (piece rest : String) :
    unescaped (reporter.coloring.paint role piece ++ (" " ++ rest)) =
      unescaped piece ++ ' ' :: unescaped rest := by
  have hblank : unescaped (" " ++ rest) = ' ' :: unescaped rest :=
    unescaped_plain_append (by decide) rest
  rw [unescaped_append, Coloring.after_paint, unescaped, Coloring.shown_paint, ← unescaped, hblank]

/-- Of a painted piece is seen what is seen of the piece. -/
theorem unescaped_paint (role : Role) (piece : String) :
    unescaped (reporter.coloring.paint role piece) = unescaped piece :=
  reporter.coloring.shown_paint role piece

theorem unescaped_notice (word message : String) :
    unescaped (reporter.notice word message) = unescaped word ++ ' ' :: unescaped message := by
  rw [notice, String.append_assoc, unescaped_paint_append, unescaped_paint]

/-- Behind a time, a message is seen by itself. -/
theorem masked_timed (hclock : IsTime reporter.clock) (role : Role) (message : String) :
    masked (unescaped (reporter.timed role message)) =
      Text.timeMask ++ masked (' ' :: unescaped message) := by
  have hplain : unescaped reporter.clock = reporter.clock.toList :=
    (EscapeState.shown_outside hclock.escapeChar_notMem).1
  rw [timed, String.append_assoc, unescaped_paint_append, unescaped_paint, hplain, hclock.masked]

theorem unescaped_statistic (label value : String) :
    unescaped (reporter.statistic label value) =
      "            ".toList ++ (unescaped label ++ ' ' :: unescaped value) := by
  rw [statistic, String.append_assoc, String.append_assoc, unescaped_plain_append (by decide),
    unescaped_paint_append, unescaped_paint]

theorem unescaped_parameterLine (parameter : FactoryParameter) :
    unescaped (reporter.parameterLine parameter) =
      "                ".toList ++ (unescaped parameter.name ++ ' ' ::
        (unescaped parameter.fallback ++ ' ' ::
          unescaped ("(" ++ parameter.source.label ++ ")"))) := by
  unfold parameterLine
  generalize "(" ++ parameter.source.label ++ ")" = source
  rw [String.append_assoc, String.append_assoc, String.append_assoc, String.append_assoc,
    unescaped_plain_append (by decide), unescaped_paint_append, unescaped_paint_append,
    unescaped_paint]

end Reporter

/-! ## Reporters with the same voice -/

/-- Reporters that tell the same at some time, in some colours. -/
structure SameVoice (reporter other : Reporter) : Prop where
  quiet : other.quiet = reporter.quiet
  verbose : other.verbose = reporter.verbose
  wording : other.wording = reporter.wording
  clock : IsTime reporter.clock
  otherClock : IsTime other.clock

namespace SameVoice

variable {reporter other : Reporter}

theorem timed (h : SameVoice reporter other) (role : Role) (message : String) :
    LineAlike (reporter.timed role message) (other.timed role message) where
  ends := reporter.coloring.after_append_paint role message _
  otherEnds := other.coloring.after_append_paint role message _
  shown := by rw [reporter.masked_timed h.clock, other.masked_timed h.otherClock]

theorem notice (reporter other : Reporter) (word message : String) :
    LineAlike (reporter.notice word message) (other.notice word message) where
  ends := reporter.coloring.after_append_paint .primary message _
  otherEnds := other.coloring.after_append_paint .primary message _
  shown := by rw [reporter.unescaped_notice, other.unescaped_notice]

theorem statistic (reporter other : Reporter) (label value : String) :
    LineAlike (reporter.statistic label value) (other.statistic label value) where
  ends := reporter.coloring.after_append_paint .value value _
  otherEnds := other.coloring.after_append_paint .value value _
  shown := by rw [reporter.unescaped_statistic, other.unescaped_statistic]

theorem parameterLine (reporter other : Reporter) (parameter : FactoryParameter) :
    LineAlike (reporter.parameterLine parameter) (other.parameterLine parameter) where
  ends := reporter.coloring.after_append_paint .timestamp _ _
  otherEnds := other.coloring.after_append_paint .timestamp _ _
  shown := by rw [reporter.unescaped_parameterLine, other.unescaped_parameterLine]

theorem emptyLine : LineAlike "" "" := ⟨rfl, rfl, rfl⟩

/-- Lines that are alike item by item. -/
theorem map {α : Type} {line otherLine : α → String}
    (h : ∀ item, LineAlike (line item) (otherLine item)) (items : List α) :
    List.Forall₂ LineAlike (items.map line) (items.map otherLine) := by
  rw [List.forall₂_map_left_iff, List.forall₂_map_right_iff, List.forall₂_same]
  exact fun item _ => h item

theorem paragraph {lines others : List String} (h : List.Forall₂ LineAlike lines others) :
    List.Forall₂ LineAlike (Reporter.paragraph lines) (Reporter.paragraph others) := by
  cases h with
  | nil => exact .nil
  | cons hline hrest => exact .cons emptyLine (.cons hline hrest)

theorem statistics (reporter other : Reporter) (counts : Statistics) :
    List.Forall₂ LineAlike (reporter.statistics counts) (other.statistics counts) := by
  have hline := statistic reporter other
  unfold Reporter.statistics
  apply List.rel_append
  · apply List.rel_append
    · apply List.rel_append
      · exact .cons (hline _ _) (.cons (hline _ _) (.cons (hline _ _) .nil))
      · exact map (fun _ => hline _ _) counts.defaultsBySource
    · split
      · exact .cons (hline _ _) .nil
      · exact .nil
  · split
    · exact .nil
    · exact .cons (hline _ _) .nil

theorem resolvedDefaults (h : SameVoice reporter other) (output : GenerationOutput) :
    List.Forall₂ LineAlike (reporter.resolvedDefaults output) (other.resolvedDefaults output) := by
  have hfactory (factory : GeneratedFactory) :
      List.Forall₂ LineAlike (reporter.factoryLines factory) (other.factoryLines factory) := by
    refine .cons emptyLine (.cons ?_ (map (parameterLine reporter other) _))
    refine ⟨reporter.coloring.after_append_paint .accent _ _,
      other.coloring.after_append_paint .accent _ _, ?_⟩
    rw [unescaped_plain_append (by decide), unescaped_plain_append (by decide),
      reporter.unescaped_paint, other.unescaped_paint]
  unfold Reporter.resolvedDefaults
  rw [h.verbose]
  cases reporter.verbose with
  | false => exact .nil
  | true =>
    simp only [if_true]
    -- Factory by factory, as each has an empty line and its parameters.
    induction output.factories with
    | nil => exact .nil
    | cons factory rest ih =>
      rw [List.flatMap_cons, List.flatMap_cons]
      exact List.rel_append (hfactory factory) ih

theorem summary (h : SameVoice reporter other) (output : GenerationOutput) :
    List.Forall₂ LineAlike (reporter.summary output) (other.summary output) := by
  unfold Reporter.summary
  apply List.rel_append
  · apply List.rel_append
    · exact .cons (h.timed _ _) (statistics reporter other _)
    · exact paragraph (map (fun _ => notice reporter other _ _) _)
  · exact h.resolvedDefaults output

theorem beforeWriting (h : SameVoice reporter other) (options : GenerateOptions) (path : String)
    (output : GenerationOutput) :
    List.Forall₂ LineAlike (reporter.beforeWriting options path output)
      (other.beforeWriting options path output) := by
  apply List.rel_append
  · exact .cons (h.timed _ _) .nil
  · exact List.rel_append (h.summary output) (map (fun _ => h.timed _ _) _)

theorem afterWriting (h : SameVoice reporter other) (options : GenerateOptions) (path : String)
    (output : GenerationOutput) :
    List.Forall₂ LineAlike (reporter.afterWriting options path output)
      (other.afterWriting options path output) :=
  map (fun _ => h.timed _ _) _

theorem success (h : SameVoice reporter other) (mode : OutputMode) :
    List.Forall₂ LineAlike (reporter.success mode) (other.success mode) :=
  .cons emptyLine (.cons (h.timed _ _) .nil)

theorem failures (reporter other : Reporter) (output : GenerationOutput) :
    List.Forall₂ LineAlike (reporter.failures output) (other.failures output) :=
  paragraph (map (fun _ => notice reporter other _ _) _)

/-- Lines that are alike look the same when they are told. -/
theorem say (h : SameVoice reporter other) {lines others : List String}
    (hlines : List.Forall₂ LineAlike lines others) :
    shown (other.say others) = shown (reporter.say lines) := by
  unfold Reporter.say
  rw [h.quiet]
  cases reporter.quiet with
  | true => rfl
  | false => exact (Text.shown_lined hlines).symm

end SameVoice

/-! ## Outcomes that look the same -/

/-- Two runs that end with the same status, and that look the same whenever they were. -/
structure LooksSame (outcome other : Outcome) : Prop where
  status : other.status = outcome.status
  output : shown other.output = shown outcome.output
  errors : shown other.errors = shown outcome.errors

section LooksSame

variable {reporter other : Reporter}

/-- What is told of the work looks the same. -/
theorem SameVoice.told (h : SameVoice reporter other) (options : GenerateOptions)
    (finish : WorkEnd) : LooksSame (finish.told reporter options) (finish.told other options) := by
  have hfailed (fault : RunFault) (output otherOutput : String)
      (houtput : shown otherOutput = shown output) :
      LooksSame (.failed reporter.wording fault output "")
        (.failed other.wording fault otherOutput "") := by
    rw [h.wording]
    exact ⟨rfl, houtput, rfl⟩
  cases finish with
  | noPath fault => exact hfailed fault _ _ rfl
  | notLoaded fault => exact hfailed fault _ _ (h.say (.cons (h.timed _ _) .nil))
  | notWritten path output error =>
    exact hfailed (.notWritten error) _ _ (h.say (h.beforeWriting options path output))
  | written path output =>
    have hlines := List.rel_append (h.beforeWriting options path output)
      (h.afterWriting options path output)
    have hfailures := SameVoice.failures reporter other output
    simp only [WorkEnd.told, finished]
    cases output.hasFailures with
    | true => exact ⟨rfl, h.say hlines, (Text.shown_lined_append hfailures _).symm⟩
    | false =>
      refine ⟨rfl, ?_, (Text.shown_lined hfailures).symm⟩
      simp only [Bool.false_eq_true, if_false]
      rw [← Reporter.say_append, ← Reporter.say_append]
      exact h.say (List.rel_append hlines (h.success options.mode))

/-- So does what is told of a list. -/
theorem toldList_looksSame (h : other.wording = reporter.wording) (width : Nat)
    (loaded : Except RunFault (Document × ProjectConfig)) :
    LooksSame (toldList reporter width loaded) (toldList other width loaded) := by
  cases loaded with
  | error fault =>
    simp only [toldList, h]
    exact ⟨rfl, rfl, rfl⟩
  | ok loaded =>
    have hskipped := SameVoice.map (fun error : GenerationError =>
      SameVoice.notice reporter other "Skipped:" error.message)
      (resolveAll (loaded.2.settings false) loaded.1).2
    exact ⟨rfl, rfl, (Text.shown_lined hskipped).symm⟩

end LooksSame

end ModelFactory.Command
