import ChartScript.Proofs.OncePerBar

/-!
# Runs without a bar

Over no candles only the declaration of a program is evaluated. No plot has a value then and no
alert a flag. But shapes, backgrounds and signals that the declaration draws are kept, on a bar at
zero that the window does not have.
-/

set_option autoImplicit false

namespace ChartScript

open Eval

/-! ## Before the first bar -/

namespace RunState

/-- No bar is open. What is drawn all the same is drawn as if on the first one, and nothing has an
entry for it. -/
structure Barless (state : RunState) : Prop where
  bars : state.memory.bars = []
  drawn : state.recorder.Within 1
  recorder : state.recorder.Aligned 0

theorem Barless.step {overrides : Table String Float} {before after : RunState}
    (barless : before.Barless) (step : StatementStep overrides before after) : after.Barless := by
  have bars := step.bars.trans barless.bars
  cases step with
  | store name value memory stored => exact ⟨bars, barless.drawn, barless.recorder⟩
  | expression _ step =>
    cases step with
    | operand site operand value => exact ⟨bars, barless.drawn, barless.recorder⟩
    | result site value => exact ⟨bars, barless.drawn, barless.recorder⟩
    | draw recorder drawn =>
      have current : before.memory.barIndex = 0 := by rw [Memory.barIndex, barless.bars]
      rw [current, barless.bars] at drawn
      exact ⟨bars, barless.drawn.step Nat.zero_lt_one drawn,
        barless.recorder.step barless.drawn drawn⟩

end RunState

namespace Script

variable {script : Script} {overrides : Table String Float} {chart : Chart}

theorem initial_barless (script : Script) : script.initial.Barless where
  bars := rfl
  drawn := script.initial_within.mono (Nat.zero_le 1)
  recorder := script.initial_aligned.recorder

theorem barless_of_run_nil (ran : script.run [] overrides = .ok chart) :
    ∃ (heading : String × Bool) (final : RunState), final.Barless ∧
      chart = final.recorder.finish heading.1 heading.2 0 := by
  obtain ⟨heading, final, finished, rfl⟩ := of_run_ok ran
  have barless := (script.heading_moves overrides).keeps RunState.Barless
    (fun _ _ step barless => barless.step step) finished script.initial_barless
  exact ⟨heading, final, barless, by rw [barless.bars, List.length_nil]⟩

theorem length_of_run_nil {α : Type} (mark : Mark α) (ran : script.run [] overrides = .ok chart) :
    (∀ entry ∈ mark.shown chart, entry.bar = 0) ∧
    (mark.shown chart).length ≤
      (script.program.declaration.elim [] (·.call.inner)).countP (·.draws mark.drawing) := by
  obtain ⟨items, shown, most⟩ := marks_of_run_nil mark ran
  rw [shown, List.length_map]
  refine ⟨fun entry member => ?_, most⟩
  obtain ⟨item, _, rfl⟩ := List.mem_map.mp member
  rfl

end Script

/-! ## Charts without bars -/

namespace Program

/-- How many calls in the arguments of the declaration draw something of a kind. -/
def drawnByDeclaration (program : Program) (drawing : Drawing) : Nat :=
  (program.declaration.elim [] (·.call.inner)).countP (·.draws drawing)

/-- Over no candles the plots have no values and the alerts no flags. The statements draw nothing.
There are no more shapes, backgrounds and signals than the declaration has calls that draw them, so
none if it has no such calls, and all of them name a bar at zero. -/
theorem execute_without_bars {program : Program} {overrides : Table String Float} {chart : Chart}
    (executed : program.execute [] overrides = .ok chart) :
    (∀ plot ∈ chart.plots, plot.values = []) ∧ (∀ alert ∈ chart.alerts, alert.triggered = []) ∧
    chart.shapes.length ≤ program.drawnByDeclaration .shape ∧
    chart.backgrounds.length ≤ program.drawnByDeclaration .background ∧
    chart.signals.length ≤ program.drawnByDeclaration .signal ∧
    (∀ entry ∈ chart.shapes, entry.bar = 0) ∧ (∀ entry ∈ chart.backgrounds, entry.bar = 0) ∧
    ∀ entry ∈ chart.signals, entry.bar = 0 := by
  obtain ⟨script, prepared, ran⟩ := of_bind_ok executed
  obtain rfl := eq_of_prepare prepared
  obtain ⟨shapesAtZero, shapes⟩ := Script.length_of_run_nil Mark.shapes ran
  obtain ⟨backgroundsAtZero, backgrounds⟩ := Script.length_of_run_nil Mark.backgrounds ran
  obtain ⟨signalsAtZero, signals⟩ := Script.length_of_run_nil Mark.signals ran
  refine ⟨?_, ?_, shapes, backgrounds, signals, shapesAtZero, backgroundsAtZero, signalsAtZero⟩
  all_goals obtain ⟨heading, final, barless, rfl⟩ := Script.barless_of_run_nil ran
  · intro plot member
    obtain ⟨entry, known, rfl⟩ := List.mem_map.mp member
    exact List.eq_nil_of_length_eq_zero (barless.recorder.plots entry known)
  · intro alert member
    obtain ⟨entry, known, rfl⟩ := List.mem_map.mp member
    exact List.eq_nil_of_length_eq_zero (barless.recorder.alerts entry known)

def drawingStatements : String :=
  "indicator(\"Quiet\", overlay = true)\nplot(close)\nplotshape(true)\nbgcolor(color.red)\n" ++
    "if true\n  strategy.long()\nalert(true)"

theorem execute_without_bars_drawing :
    ∃ program chart, parse drawingStatements = .ok program ∧
      program.execute [] [] = .ok chart ∧
      chart.shapes.length + chart.backgrounds.length + chart.signals.length = 0 := by
  have runs : (parse drawingStatements).toOption.any fun program =>
      (program.execute [] []).isOk && (program.drawnByDeclaration .shape +
        program.drawnByDeclaration .background + program.drawnByDeclaration .signal == 0) := by
    decide +kernel
  obtain ⟨program, parsed, runs⟩ := of_toOption_any runs
  obtain ⟨ok, none⟩ := Bool.and_eq_true_iff.mp runs
  rcases ran : program.execute [] [] with _ | chart
  · rw [ran] at ok
    cases ok
  obtain ⟨_, _, shapes, backgrounds, signals, _⟩ := execute_without_bars ran
  have none := eq_of_beq none
  exact ⟨program, chart, parsed, ran, by omega⟩

/-- A declaration can draw where there is no bar. -/
theorem execute_without_bars_painted :
    ¬ ∀ (source : String) (program : Program) (overrides : Table String Float) (chart : Chart),
      parse source = .ok program → program.execute [] overrides = .ok chart →
      chart.shapes = [] ∧ chart.backgrounds = [] ∧ chart.signals = [] ∧
      (∀ plot ∈ chart.plots, plot.values = []) ∧ ∀ alert ∈ chart.alerts, alert.triggered = [] := by
  intro claimed
  have runs : (parse "indicator(\"T\", overlay = bgcolor(#FF0000))").toOption.any fun program =>
      (program.execute [] []).toOption.any fun chart => !chart.backgrounds.isEmpty := by
    decide +kernel
  obtain ⟨program, parsed, runs⟩ := of_toOption_any runs
  obtain ⟨chart, ran, painted⟩ := of_toOption_any runs
  obtain ⟨_, none, _⟩ := claimed _ program [] chart parsed ran
  rw [none] at painted
  cases painted

end Program

end ChartScript
