import ChartScript.Proofs.NoLookAhead

/-!
# Charts fit their window

A plot has one value and an alert one flag for each bar of the window, and what names its bar
names one of them, the oldest first. `RunState.Aligned` is what makes it so: it holds on every bar
from the declaration on, whatever is drawn there.
-/

set_option autoImplicit false

namespace ChartScript

/-- All entries are on bars of the window, and entries on older bars come first. -/
structure OldestFirst {α : Type} (bars : Nat) (entries : List (OnBar α)) : Prop where
  inWindow : ∀ entry ∈ entries, entry.bar < bars
  falling : entries.Pairwise fun earlier later => later.bar ≤ earlier.bar

structure Chart.Aligned (bars : Nat) (chart : Chart) : Prop where
  plots : ∀ plot ∈ chart.plots, plot.values.length = bars
  alerts : ∀ alert ∈ chart.alerts, alert.triggered.length = bars
  shapes : OldestFirst bars chart.shapes
  backgrounds : OldestFirst bars chart.backgrounds
  signals : OldestFirst bars chart.signals

/-! ## Aligned recorders -/

/-- The bars of the entries, counted from the oldest, never fall. -/
def InOrder {α : Type} (entries : Array (Nat × α)) : Prop :=
  entries.toList.Pairwise fun earlier later => earlier.1 ≤ later.1

theorem InOrder.push {α : Type} {bar : Nat} {entries : Array (Nat × α)}
    (ordered : InOrder entries) (placed : OnFirstBars (bar + 1) entries) (item : α) :
    InOrder (entries.push (bar, item)) := by
  unfold InOrder
  rw [Array.toList_push, List.pairwise_append]
  refine ⟨ordered, List.pairwise_singleton _ _, ?_⟩
  intro earlier known later added
  cases List.mem_singleton.mp added
  exact Nat.le_of_lt_succ (placed earlier known)

/-- Counted back from the newest bar, the order is the opposite one. -/
theorem InOrder.oldestFirst {α : Type} {bars : Nat} {entries : Array (Nat × α)}
    (ordered : InOrder entries) (placed : OnFirstBars bars entries) :
    OldestFirst bars (entries.toList.map (Recorder.fromNewest bars)) where
  inWindow := by
    intro entry member
    obtain ⟨counted, known, rfl⟩ := List.mem_map.mp member
    have first := placed counted known
    show bars - 1 - counted.1 < bars
    omega
  falling := by
    rw [List.pairwise_map]
    exact ordered.imp fun later => Nat.sub_le_sub_left later _

namespace Recorder

/-- Lists with an entry for each bar have as many as there are bars. -/
structure Aligned (bars : Nat) (recorder : Recorder) : Prop where
  plots : ∀ entry ∈ recorder.plots, entry.2.values.length = bars
  alerts : ∀ entry ∈ recorder.alerts, entry.2.triggered.length = bars
  shapes : InOrder recorder.shapes
  backgrounds : InOrder recorder.backgrounds
  signals : InOrder recorder.signals

theorem length_setTriggered (alert : Alert) (triggered : Bool) :
    (setTriggered alert triggered).triggered.length = alert.triggered.length := by
  obtain ⟨title, message, flags⟩ := alert
  cases flags <;> rfl

variable {bars : Nat} {recorder next : Recorder}

theorem Aligned.openBar (aligned : recorder.Aligned bars) :
    recorder.openBar.Aligned (bars + 1) where
  plots := by
    intro entry member
    obtain ⟨before, known, rfl⟩ := List.mem_map.mp member
    exact congrArg Nat.succ (aligned.plots before known)
  alerts := by
    intro entry member
    obtain ⟨before, known, rfl⟩ := List.mem_map.mp member
    exact congrArg Nat.succ (aligned.alerts before known)
  shapes := aligned.shapes
  backgrounds := aligned.backgrounds
  signals := aligned.signals

theorem Aligned.step {overrides : Table String Float} {bar : Nat}
    (aligned : recorder.Aligned bars) (within : recorder.Within (bar + 1))
    (step : Step overrides bar bars recorder next) : next.Aligned bars := by
  cases step with
  | plot site value title color width =>
    refine { aligned with
      plots := Table.forall_modify _ site (updatePlot · value title color width)
        (fun plot => plot.values.length = bars) ?_ aligned.plots }
    intro plot known
    exact (Series.length_setNow plot.values value).trans known
  | alert site title message triggered =>
    -- A new alert starts with a flag for each bar so far; setting the last one adds none.
    have declared := Table.forall_setNew recorder.alerts site
      ⟨title, message, List.replicate bars false⟩
      (fun alert : Alert => alert.triggered.length = bars) List.length_replicate aligned.alerts
    refine { aligned with
      alerts := Table.forall_modify _ site (setTriggered · triggered)
        (fun alert => alert.triggered.length = bars) ?_ declared }
    intro alert known
    exact (length_setTriggered alert triggered).trans known
  | shape shape => exact { aligned with shapes := aligned.shapes.push within.shapes shape }
  | background color =>
    exact { aligned with backgrounds := aligned.backgrounds.push within.backgrounds color }
  | signal signal => exact { aligned with signals := aligned.signals.push within.signals signal }
  | line site line fresh => exact { aligned with }
  | input name default => exact { aligned with }

theorem declarePlot_aligned (site : Nat) (title : Option String) (aligned : recorder.Aligned 0) :
    (recorder.declarePlot site title).Aligned 0 :=
  { aligned with
    plots := Table.forall_setNew _ _ _ (fun plot : Plot => plot.values.length = 0) rfl
      aligned.plots }

theorem finish_aligned (title : String) (overlay : Bool) (aligned : recorder.Aligned bars)
    (within : recorder.Within bars) : (recorder.finish title overlay bars).Aligned bars where
  plots := by
    intro plot member
    obtain ⟨entry, known, rfl⟩ := List.mem_map.mp member
    exact aligned.plots entry known
  alerts := by
    intro alert member
    obtain ⟨entry, known, rfl⟩ := List.mem_map.mp member
    exact aligned.alerts entry known
  shapes := aligned.shapes.oldestFirst within.shapes
  backgrounds := aligned.backgrounds.oldestFirst within.backgrounds
  signals := aligned.signals.oldestFirst within.signals

end Recorder

/-! ## Aligned runs -/

namespace RunState

/-- Everything is drawn on the bars so far. Before the first bar this holds, but nothing can be
drawn then: it is kept by steps on a bar only. -/
structure Aligned (state : RunState) : Prop where
  drawn : state.recorder.Within state.memory.bars.length
  recorder : state.recorder.Aligned state.memory.bars.length

theorem Aligned.openBar {state : RunState} (aligned : state.Aligned) (candle : Candle) :
    (state.openBar candle).Placed ∧ (state.openBar candle).Aligned := by
  have placed := openBar_placed state candle aligned.drawn
  exact ⟨placed, placed.drawn, aligned.recorder.openBar⟩

theorem Aligned.step {overrides : Table String Float} {before after : RunState}
    (placed : before.Placed) (aligned : before.Aligned)
    (step : StatementStep overrides before after) : after.Aligned := by
  have bars := step.bars
  refine ⟨(placed.step step).drawn, ?_⟩
  rw [bars]
  cases step with
  | store name value memory stored => exact aligned.recorder
  | expression _ step =>
    cases step with
    | operand site operand value => exact aligned.recorder
    | result site value => exact aligned.recorder
    | draw recorder drawn =>
      have within := placed.drawn
      rw [← placed.current] at within
      exact aligned.recorder.step within drawn

end RunState

namespace Script

open Eval

variable (script : Script) (overrides : Table String Float)

theorem runBars_bars (candles : List Candle) (state final : RunState)
    (ran : outcome (script.runBars overrides candles) state = (.ok (), final)) :
    final.memory.bars.length = state.memory.bars.length + candles.length := by
  induction candles generalizing state with
  | nil =>
    cases ran
    rfl
  | cons candle newer ih =>
    obtain ⟨after, executed, ran⟩ := of_runBars_cons_ok ran
    have counted := (executeAll_moves overrides script.program.statements).keeps
      (·.memory.bars.length = state.memory.bars.length + 1)
      (fun _ _ step count => (congrArg List.length step.bars).trans count) executed rfl
    rw [ih after ran, counted, List.length_cons]
    omega

theorem runWindow_bars (oldest : Candle) (newer : List Candle) (heading : String × Bool)
    (final : RunState)
    (ran : outcome (script.runWindow overrides (oldest :: newer)) script.initial =
      (.ok heading, final)) : final.memory.bars.length = newer.length + 1 := by
  obtain ⟨_, first, headed, executed, ran⟩ := of_runWindow_cons_ok ran
  have declared := (script.heading_moves overrides).keeps (·.memory.bars.length = 1)
    (fun _ _ step count => (congrArg List.length step.bars).trans count) headed rfl
  have counted := (executeAll_moves overrides script.program.statements).keeps
    (·.memory.bars.length = 1)
    (fun _ _ step count => (congrArg List.length step.bars).trans count) executed declared
  rw [script.runBars_bars overrides newer first _ ran, counted, Nat.add_comm]

theorem bars_of_runWindow {script : Script} {overrides : Table String Float}
    {candles : List Candle} {heading : String × Bool} {final : RunState}
    (ran : outcome (script.runWindow overrides candles) script.initial = (.ok heading, final)) :
    final.memory.bars.length = candles.length := by
  cases candles with
  | cons oldest newer =>
    exact script.runWindow_bars overrides oldest newer heading final ran
  | nil =>
    exact (script.heading_moves overrides).keeps (·.memory.bars.length = 0)
      (fun _ _ step count => (congrArg List.length step.bars).trans count) ran rfl

theorem initial_aligned : script.initial.Aligned where
  drawn := script.initial_within
  recorder := by
    refine List.foldlRecOn (motive := Recorder.Aligned 0) script.plots _ ?_ ?_
    · exact ⟨nofun, nofun, .nil, .nil, .nil⟩
    · exact fun _ aligned _ _ => Recorder.declarePlot_aligned _ _ aligned

end Script

namespace Program

/-- Whatever a program draws on a window that is not empty, the declaration included, is drawn on
bars of the window, with one plot value and one alert flag for each of them. -/
theorem execute_aligned (program : Program) (window : List Candle)
    (overrides : Table String Float) (chart : Chart) (nonempty : window ≠ [])
    (ran : program.execute window overrides = .ok chart) : chart.Aligned window.length := by
  obtain ⟨script, _, ran⟩ := of_bind_ok ran
  obtain ⟨oldest, newer, order⟩ :=
    List.exists_cons_of_ne_nil (mt List.reverse_eq_nil_iff.mp nonempty)
  rw [Eval.run_outcome, order] at ran
  rcases finished : Eval.outcome (script.runWindow overrides (oldest :: newer)) script.initial
    with ⟨failure | heading, final⟩
  · rw [finished] at ran
    cases ran
  rw [finished] at ran
  cases ran
  have aligned := script.runWindow_keeps overrides RunState.Aligned
    (fun state => state.Placed ∧ state.Aligned) (fun _ candle aligned => aligned.openBar candle)
    (fun _ _ step holds => ⟨holds.1.step step, holds.2.step holds.1 step⟩)
    (fun _ holds => holds.2) oldest newer heading final script.initial_aligned finished
  have count : final.memory.bars.length = window.length := by
    rw [script.runWindow_bars overrides oldest newer heading final finished,
      ← List.length_cons, ← order, List.length_reverse]
  rw [← count]
  exact Recorder.finish_aligned heading.1 heading.2 aligned.2.recorder aligned.2.drawn

def busySource : String :=
  "indicator(title = alert(close > 1), overlay = plotshape(true))\n" ++
    "plot(close)\nplotshape(close > 1)\nif close > 1\n  alert(close > 2)\nstrategy.long()"

def threeCandles : List Candle :=
  [⟨3, 3.0, 3.0, 3.0, 3.0, 1.0⟩, ⟨2, 2.0, 2.0, 2.0, 2.0, 1.0⟩, ⟨1, 1.0, 1.0, 1.0, 1.0, 1.0⟩]

theorem execute_aligned_busy :
    ∃ program chart, parse busySource = .ok program ∧
      program.execute threeCandles [] = .ok chart ∧ chart.Aligned 3 := by
  have runs : (parse busySource).toOption.any fun program =>
      (program.execute threeCandles []).isOk := by decide +kernel
  rcases parsed : parse busySource with _ | program
  · rw [parsed] at runs
    cases runs
  rcases ran : program.execute threeCandles [] with _ | chart
  · rw [parsed] at runs
    simp [Except.toOption, ran, Except.isOk, Except.toBool] at runs
  exact ⟨program, chart, rfl, ran, program.execute_aligned threeCandles [] chart nofun ran⟩

end Program

end ChartScript
