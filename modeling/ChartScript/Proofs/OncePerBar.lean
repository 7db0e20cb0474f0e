import ChartScript.Proofs.AlignedChart
import ChartScript.Proofs.DrawingCalls

/-!
# Once a bar

Signals, shapes and backgrounds are drawn on single bars. On each bar there are no more of them
than the program has calls that draw them: no call draws twice on a bar, not even on the oldest
one, where the declaration comes before the statements. `Signalling` tells the signals of a bar
apart by the statement that adds them.
-/

set_option autoImplicit false

namespace ChartScript

open Eval

/-- A kind of thing that calls draw on the current bar and that stays there. -/
structure Mark (α : Type) where
  drawing : Drawing
  array : Recorder → Array (Nat × α)
  shown : Chart → List (OnBar α)
  step : ∀ {overrides : Table String Float} {bar bars : Nat} {call : Call}
    {recorder next : Recorder}, Recorder.StepOf overrides bar bars call recorder next →
    array next = array recorder ∨
      call.draws drawing ∧ ∃ item, array next = (array recorder).push (bar, item)
  within : ∀ {bars : Nat} {recorder : Recorder}, recorder.Within bars →
    OnFirstBars bars (array recorder)
  later : ∀ {opened start : Nat} {earlier later : Recorder},
    Recorder.Continues opened start earlier later → Extends start (array earlier) (array later)
  finish : ∀ (recorder : Recorder) (title : String) (overlay : Bool) (bars : Nat),
    shown (recorder.finish title overlay bars) =
      (array recorder).toList.map (Recorder.fromNewest bars)

namespace Mark

def signals : Mark Signal where
  drawing := .signal
  array := Recorder.signals
  shown := Chart.signals
  step step := by
    cases step with
    | signal signal draws => exact .inr ⟨draws, signal, rfl⟩
    | _ => exact .inl rfl
  within within := within.signals
  later continues := continues.signals
  finish _ _ _ _ := rfl

def shapes : Mark Shape where
  drawing := .shape
  array := Recorder.shapes
  shown := Chart.shapes
  step step := by
    cases step with
    | shape shape draws => exact .inr ⟨draws, shape, rfl⟩
    | _ => exact .inl rfl
  within within := within.shapes
  later continues := continues.shapes
  finish _ _ _ _ := rfl

def backgrounds : Mark Color where
  drawing := .background
  array := Recorder.backgrounds
  shown := Chart.backgrounds
  step step := by
    cases step with
    | background color draws => exact .inr ⟨draws, color, rfl⟩
    | _ => exact .inl rfl
  within within := within.backgrounds
  later continues := continues.backgrounds
  finish _ _ _ _ := rfl

variable {α : Type} (mark : Mark α) {overrides : Table String Float}

def entries (recorder : Recorder) : List (Nat × α) :=
  (mark.array recorder).toList

theorem shown_finish (recorder : Recorder) (title : String) (overlay : Bool) (bars : Nat) :
    mark.shown (recorder.finish title overlay bars) =
      (mark.entries recorder).map (Recorder.fromNewest bars) :=
  mark.finish recorder title overlay bars

theorem added_of_step {bar bars : Nat} {call : Call} {recorder next : Recorder}
    (step : Recorder.StepOf overrides bar bars call recorder next) :
    ∃ items : List α, mark.entries next = mark.entries recorder ++ items.map (Prod.mk bar) ∧
      items.length ≤ [call].countP (·.draws mark.drawing) := by
  unfold entries
  obtain same | ⟨draws, item, pushed⟩ := mark.step step
  · exact ⟨[], by rw [same, List.map_nil, List.append_nil], Nat.zero_le _⟩
  · refine ⟨[item], by rw [pushed, Array.toList_push]; rfl, ?_⟩
    rw [List.countP_singleton, if_pos draws]
    exact Nat.le_refl 1

theorem added_of_drawnBy {bar bars : Nat} {made : List Call} {first last : Recorder}
    (drawn : Recorder.DrawnBy overrides bar bars made first last) :
    ∃ items : List α, mark.entries last = mark.entries first ++ items.map (Prod.mk bar) ∧
      items.length ≤ made.countP (·.draws mark.drawing) := by
  induction drawn with
  | nil => exact ⟨[], (List.append_nil _).symm, Nat.zero_le _⟩
  | cons step _ ih =>
    obtain ⟨item, entries, most⟩ := mark.added_of_step step
    obtain ⟨items, others, mostOthers⟩ := ih
    refine ⟨item ++ items, ?_, ?_⟩
    · rw [others, entries, List.map_append, List.append_assoc]
    · rw [List.length_append, ← List.singleton_append, List.countP_append]
      exact Nat.add_le_add most mostOthers

theorem added_of_drawn {calls : List Call} {before after : RunState}
    (drawn : before.Drawn overrides calls after) :
    ∃ items : List α, mark.entries after.recorder =
        mark.entries before.recorder ++ items.map (Prod.mk before.memory.barIndex) ∧
      items.length ≤ calls.countP (·.draws mark.drawing) := by
  obtain ⟨_, made, among, drawn⟩ := drawn
  obtain ⟨items, entries, most⟩ := mark.added_of_drawnBy drawn
  exact ⟨items, entries, most.trans (among.countP_le _)⟩

end Mark

/-! ## One bar of a run -/

/-- What happens on a bar of a run, the oldest bar being the one at zero: the bar is opened, on the
oldest one the declaration is evaluated, and the statements are executed. What comes after is on
newer bars. -/
structure Script.Bar (script : Script) (overrides : Table String Float) (index : Nat)
    (opened headed closed final : RunState) : Prop where
  bars : opened.memory.bars.length = index + 1
  current : opened.memory.barIndex = index
  before : opened.recorder.Within index
  heading : opened.Drawn overrides (script.program.declaration.elim [] (·.call.inner)) headed
  unheaded : 0 < index → headed = opened
  executed : outcome (executeAll overrides script.program.statements) headed = (.ok (), closed)
  after : ∃ count, Recorder.Continues count (index + 1) closed.recorder final.recorder

namespace Script

variable (script : Script) (overrides : Table String Float)

/-- A bar is closed with everything in place, and stays as it is. -/
theorem continues_of_closed {newer : List Candle} {headed closed final : RunState}
    (placed : headed.Placed)
    (executed : outcome (executeAll overrides script.program.statements) headed = (.ok (), closed))
    (ran : outcome (script.runBars overrides newer) closed = (.ok (), final)) :
    closed.Placed ∧ closed.memory.bars = headed.memory.bars ∧
      Recorder.Continues (0 + newer.length) closed.memory.bars.length closed.recorder
        final.recorder := by
  have moves := executeAll_moves overrides script.program.statements
  have closedPlaced := moves.keeps RunState.Placed (fun _ _ step placed => placed.step step)
    executed placed
  have bars := moves.keeps (·.memory.bars = headed.memory.bars)
    (fun _ _ step same => step.bars.trans same) executed rfl
  exact ⟨closedPlaced, bars,
    (script.runBars_continues overrides newer 0 closed closed final (.refl closed closedPlaced)
      ran).recorder⟩

theorem bar_of_runBars {candles : List Candle} {state final : RunState} (placed : state.Placed)
    (ran : outcome (script.runBars overrides candles) state = (.ok (), final)) (index : Nat)
    (start : state.memory.bars.length ≤ index)
    (inside : index < state.memory.bars.length + candles.length) :
    ∃ opened closed, script.Bar overrides index opened opened closed final := by
  induction candles generalizing state with
  | nil => exact absurd inside (Nat.not_lt.mpr start)
  | cons candle newer ih =>
    obtain ⟨closed, executed, ran⟩ := of_runBars_cons_ok ran
    have opened := RunState.openBar_placed state candle placed.drawn
    obtain ⟨closedPlaced, bars, continues⟩ :=
      script.continues_of_closed overrides opened executed ran
    have count : closed.memory.bars.length = state.memory.bars.length + 1 :=
      congrArg List.length bars
    rcases Nat.eq_or_lt_of_le start with rfl | later
    · exact ⟨state.openBar candle, closed, rfl, rfl, placed.drawn.openBar, .quiet rfl rfl,
        fun _ => rfl, executed, _, count ▸ continues⟩
    · refine ih closedPlaced ran (by omega) ?_
      rw [List.length_cons] at inside
      omega

theorem bar_of_runWindow {oldest : Candle} {newer : List Candle} {heading : String × Bool}
    {final : RunState}
    (ran : outcome (script.runWindow overrides (oldest :: newer)) script.initial =
      (.ok heading, final)) {index : Nat} (inside : index < newer.length + 1) :
    ∃ opened headed closed, script.Bar overrides index opened headed closed final := by
  obtain ⟨headed, closed, evaluated, executed, ran⟩ := of_runWindow_cons_ok ran
  have opened := RunState.openBar_placed script.initial oldest script.initial_within
  have headedPlaced := (script.heading_moves overrides).keeps RunState.Placed
    (fun _ _ step placed => placed.step step) evaluated opened
  have heads := script.heading_drawsOnce overrides _ _ _ evaluated
  obtain ⟨closedPlaced, bars, continues⟩ :=
    script.continues_of_closed overrides headedPlaced executed ran
  have count : closed.memory.bars.length = 1 := by
    rw [bars, heads.bars]
    rfl
  cases index with
  | zero =>
    exact ⟨script.initial.openBar oldest, headed, closed, rfl, rfl, script.initial_within.openBar,
      heads, nofun, executed, _, count ▸ continues⟩
  | succ index =>
    obtain ⟨later, closed, bar⟩ :=
      script.bar_of_runBars overrides closedPlaced ran (index + 1) (by omega) (by omega)
    exact ⟨later, later, closed, bar⟩

end Script

theorem filter_on_bar {α : Type} {index : Nat} {older newer : List (Nat × α)} (items : List α)
    (before : ∀ entry ∈ older, entry.1 < index) (after : ∀ entry ∈ newer, index + 1 ≤ entry.1) :
    (older ++ items.map (Prod.mk index) ++ newer).filter (·.1 = index) =
      items.map (Prod.mk index) := by
  have noneOlder : older.filter (·.1 = index) = [] :=
    List.filter_eq_nil_iff.mpr fun entry member => by simpa using (before entry member).ne
  have noneNewer : newer.filter (·.1 = index) = [] :=
    List.filter_eq_nil_iff.mpr fun entry member => by
      simpa using (Nat.lt_of_succ_le (after entry member)).ne'
  have all : (items.map (Prod.mk index)).filter (·.1 = index) = items.map (Prod.mk index) :=
    List.filter_eq_self.mpr fun entry member => by
      obtain ⟨item, _, rfl⟩ := List.mem_map.mp member
      simp
  rw [List.filter_append, List.filter_append, noneOlder, noneNewer, all, List.nil_append,
    List.append_nil]

namespace Script.Bar

variable {script : Script} {overrides : Table String Float} {index : Nat}
  {opened headed closed final : RunState}

theorem drawn (bar : script.Bar overrides index opened headed closed final) :
    opened.Drawn overrides script.program.calls closed :=
  bar.heading.trans (executeAll_drawsOnce overrides _ _ _ _ bar.executed)

theorem filter_entries {α : Type} (mark : Mark α)
    (bar : script.Bar overrides index opened headed closed final) {items : List α}
    (added : mark.entries closed.recorder =
      mark.entries opened.recorder ++ items.map (Prod.mk index)) :
    (mark.entries final.recorder).filter (·.1 = index) = items.map (Prod.mk index) := by
  obtain ⟨_, continues⟩ := bar.after
  obtain ⟨newer, grown, onNewer⟩ := mark.later continues
  have entries : mark.entries final.recorder = mark.entries closed.recorder ++ newer := grown
  rw [entries, added]
  exact filter_on_bar items (mark.within bar.before) onNewer

end Script.Bar

/-- The items on a bar, which the chart counts back from the newest. -/
theorem filter_fromNewest {α : Type} {bars bar : Nat} (inside : bar < bars)
    {entries : List (Nat × α)} (placed : ∀ entry ∈ entries, entry.1 < bars) {items : List α}
    (onBar : entries.filter (·.1 = bars - 1 - bar) = items.map (Prod.mk (bars - 1 - bar))) :
    (entries.map (Recorder.fromNewest bars)).filter (·.bar = bar) = items.map (OnBar.mk bar) := by
  have same : ∀ entry ∈ entries, decide ((Recorder.fromNewest bars entry).bar = bar) =
      decide (entry.1 = bars - 1 - bar) := by
    intro entry member
    have known := placed entry member
    refine decide_eq_decide.mpr ⟨fun counted => ?_, fun counted => ?_⟩
    · have distance : bars - 1 - entry.1 = bar := counted
      omega
    · show bars - 1 - entry.1 = bar
      omega
  have back : bars - 1 - (bars - 1 - bar) = bar := by omega
  rw [List.filter_map, Function.comp_def, List.filter_congr same, onBar, List.map_map]
  refine List.map_congr_left fun item _ => ?_
  simp only [Function.comp_apply, Recorder.fromNewest, back]

/-- Statements that are executed one after the other, and the signals that each of them adds. -/
inductive Signalling (overrides : Table String Float) :
    List Statement → RunState → List (List Signal) → RunState → Prop
  | nil (state : RunState) : Signalling overrides [] state [] state
  | cons {statement : Statement} {rest : List Statement} {state next final : RunState}
      {added : List Signal} {others : List (List Signal)}
      (executed : outcome (statement.execute overrides) state = (.ok (), next))
      (signals : next.recorder.signals.toList =
        state.recorder.signals.toList ++ added.map (Prod.mk state.memory.barIndex))
      (remaining : Signalling overrides rest next others final) :
      Signalling overrides (statement :: rest) state (added :: others) final

namespace Signalling

variable {overrides : Table String Float} {statements : List Statement}
  {parts : List (List Signal)} {state final : RunState}

/-- All signals that come up on the way are told apart. -/
theorem of_executeAll
    (executed : outcome (executeAll overrides statements) state = (.ok (), final)) :
    ∃ parts, Signalling overrides statements state parts final ∧
      final.recorder.signals.toList = state.recorder.signals.toList ++
        parts.flatten.map (Prod.mk state.memory.barIndex) := by
  induction statements generalizing state with
  | nil =>
    cases executed
    exact ⟨[], .nil _, (List.append_nil _).symm⟩
  | cons statement rest ih =>
    obtain ⟨_, next, first, executed⟩ := of_outcome_bind_ok executed
    have drawn := statement.execute_drawsOnce overrides state _ next first
    obtain ⟨added, signals, _⟩ := Mark.signals.added_of_drawn drawn
    obtain ⟨others, remaining, all⟩ := ih executed
    refine ⟨added :: others, .cons first signals remaining, ?_⟩
    have current : next.memory.barIndex = state.memory.barIndex := by
      rw [Memory.barIndex, drawn.bars, Memory.barIndex]
    have grown : next.recorder.signals.toList = state.recorder.signals.toList ++
      added.map (Prod.mk state.memory.barIndex) := signals
    rw [all, grown, current, List.flatten_cons, List.map_append, List.append_assoc]

theorem most (signalling : Signalling overrides statements state parts final) :
    List.Forall₂ (fun statement part => part.length ≤ statement.calls.countP (·.draws .signal))
      statements parts := by
  induction signalling with
  | nil => exact .nil
  | @cons statement _ state next _ added _ executed signals _ ih =>
    have drawn := statement.execute_drawsOnce overrides state _ next executed
    obtain ⟨items, entries, most⟩ := Mark.signals.added_of_drawn drawn
    have same := List.append_cancel_left (signals.symm.trans entries)
    have lengths := congrArg List.length same
    rw [List.length_map, List.length_map] at lengths
    rw [← lengths] at most
    exact .cons most ih

end Signalling

def Statement.goesLong (site : Nat) (span place : Span) : Statement :=
  .expression (.call (.mk "strategy.long" site [] []) span) place

theorem Statement.execute_goesLong (overrides : Table String Float) (site : Nat)
    (span place : Span) (state : RunState) :
    outcome ((goesLong site span place).execute overrides) state =
      (.ok (), { state with recorder := { state.recorder with
        signals := state.recorder.signals.push (state.memory.barIndex, ⟨.long, "Long"⟩) } }) :=
  rfl

theorem Signalling.of_goesLong {overrides : Table String Float} {statements : List Statement}
    {parts : List (List Signal)} {state final : RunState}
    (signalling : Signalling overrides statements state parts final) {position site : Nat}
    {span place : Span} (found : statements[position]? = some (.goesLong site span place)) :
    parts[position]? = some [⟨.long, "Long"⟩] := by
  induction signalling generalizing position with
  | nil => cases found
  | @cons statement _ state next _ added _ executed signals _ ih =>
    cases position with
    | succ position => exact ih found
    | zero =>
      cases Option.some.inj found
      rw [Statement.execute_goesLong] at executed
      obtain ⟨_, rfl⟩ := Prod.mk.inj executed
      have same : [(⟨.long, "Long"⟩ : Signal)].map (Prod.mk state.memory.barIndex) =
          added.map (Prod.mk state.memory.barIndex) :=
        List.append_cancel_left (Array.toList_push.symm.trans signals)
      rw [← List.map_injective_iff.mpr (fun _ _ paired => (Prod.mk.inj paired).2) same]
      rfl

/-! ## Charts -/

namespace Script

variable {script : Script} {window : List Candle} {overrides : Table String Float} {chart : Chart}

/-- A run over a window that is not empty, and that its marks are all on bars of the window. -/
theorem of_run_ok_of_ne_nil (ran : script.run window overrides = .ok chart)
    (nonempty : window ≠ []) :
    ∃ oldest newer heading final, window.length = newer.length + 1 ∧
      outcome (script.runWindow overrides (oldest :: newer)) script.initial =
        (.ok heading, final) ∧
      chart = final.recorder.finish heading.1 heading.2 window.length ∧
      final.recorder.Within window.length := by
  obtain ⟨heading, final, finished, rfl⟩ := of_run_ok ran
  obtain ⟨oldest, newer, order⟩ :=
    List.exists_cons_of_ne_nil (mt List.reverse_eq_nil_iff.mp nonempty)
  have length : window.length = newer.length + 1 := by
    rw [← List.length_reverse, order, List.length_cons]
  rw [order] at finished
  have bars := script.runWindow_bars overrides oldest newer heading final finished
  have within := (script.runWindow_placed overrides oldest newer heading final finished).drawn
  rw [bars, ← length] at within
  rw [bars, ← length]
  exact ⟨oldest, newer, heading, final, length, finished, rfl, within⟩

/-- A bar of a chart as a bar of the run, which counts from the oldest. -/
theorem bar_of_run (ran : script.run window overrides = .ok chart) {bar : Nat}
    (inside : bar < window.length) :
    ∃ opened headed closed final,
      script.Bar overrides (window.length - 1 - bar) opened headed closed final ∧
      ∀ (α : Type) (mark : Mark α) (items : List α), mark.entries closed.recorder =
          mark.entries opened.recorder ++ items.map (Prod.mk (window.length - 1 - bar)) →
        (mark.shown chart).filter (·.bar = bar) = items.map (OnBar.mk bar) := by
  have nonempty : window ≠ [] := List.ne_nil_of_length_pos (Nat.zero_lt_of_lt inside)
  obtain ⟨oldest, newer, heading, final, length, finished, rfl, within⟩ :=
    of_run_ok_of_ne_nil ran nonempty
  have index : window.length - 1 - bar < newer.length + 1 := by omega
  obtain ⟨opened, headed, closed, onBar⟩ := script.bar_of_runWindow overrides finished index
  refine ⟨opened, headed, closed, final, onBar, fun α mark items added => ?_⟩
  rw [mark.shown_finish]
  exact filter_fromNewest inside (mark.within within) (onBar.filter_entries mark added)

/-- Without a bar only the declaration is evaluated, and what it draws is put on a bar at zero. -/
theorem marks_of_run_nil {α : Type} (mark : Mark α)
    (ran : script.run [] overrides = .ok chart) :
    ∃ items : List α, mark.shown chart = items.map (OnBar.mk 0) ∧
      items.length ≤ (script.program.declaration.elim [] (·.call.inner)).countP
        (·.draws mark.drawing) := by
  obtain ⟨heading, final, finished, rfl⟩ := of_run_ok ran
  have heads := script.heading_drawsOnce overrides _ _ _ finished
  obtain ⟨items, added, most⟩ := mark.added_of_drawn heads
  have empty : mark.entries script.initial.recorder = [] :=
    List.eq_nil_iff_forall_not_mem.mpr fun entry member =>
      Nat.not_lt_zero _ (mark.within script.initial_within entry member)
  have bars : final.memory.bars = [] := heads.bars
  refine ⟨items, ?_, most⟩
  rw [mark.shown_finish, added, empty, List.nil_append, List.map_map, bars]
  exact List.map_congr_left fun item _ => congrArg (OnBar.mk · item) (Nat.zero_sub _)

theorem count_of_run_nil {α : Type} (mark : Mark α)
    (ran : script.run [] overrides = .ok chart) (bar : Nat) :
    (mark.shown chart).countP (·.bar = bar) ≤
      script.program.calls.countP (·.draws mark.drawing) := by
  obtain ⟨items, shown, most⟩ := marks_of_run_nil mark ran
  rw [shown]
  refine List.countP_le_length.trans ?_
  rw [List.length_map]
  exact most.trans (List.sublist_append_left _ _).countP_le

theorem count_of_run {α : Type} (mark : Mark α) (ran : script.run window overrides = .ok chart)
    (bar : Nat) : (mark.shown chart).countP (·.bar = bar) ≤
      script.program.calls.countP (·.draws mark.drawing) := by
  rcases eq_or_ne window [] with rfl | nonempty
  · exact count_of_run_nil mark ran bar
  by_cases inside : bar < window.length
  · obtain ⟨opened, headed, closed, final, onBar, shown⟩ := bar_of_run ran inside
    obtain ⟨items, added, most⟩ := mark.added_of_drawn onBar.drawn
    rw [onBar.current] at added
    rw [List.countP_eq_length_filter, shown α mark items added, List.length_map]
    exact most
  · obtain ⟨oldest, newer, heading, final, length, _, rfl, within⟩ :=
      of_run_ok_of_ne_nil ran nonempty
    have none : (mark.shown (final.recorder.finish heading.1 heading.2 window.length)).countP
        (·.bar = bar) = 0 := by
      rw [mark.shown_finish]
      refine List.countP_eq_zero.mpr fun shown member => ?_
      obtain ⟨entry, _, rfl⟩ := List.mem_map.mp member
      have placed : (Recorder.fromNewest window.length entry).bar = window.length - 1 - entry.1 :=
        rfl
      rw [decide_eq_true_eq, placed]
      omega
    exact none ▸ Nat.zero_le _

/-- The signals on a bar, told apart by what adds them. -/
theorem signals_on_bar (ran : script.run window overrides = .ok chart) {bar : Nat}
    (inside : bar < window.length) : ∃ start final heading parts,
      start.memory.bars.length = window.length - bar ∧
      Signalling overrides script.program.statements start parts final ∧
      chart.signals.filter (·.bar = bar) = (heading ++ parts.flatten).map (OnBar.mk bar) ∧
      (bar + 1 < window.length → heading = []) ∧
      heading.length ≤
        (script.program.declaration.elim [] (·.call.inner)).countP (·.draws .signal) ∧
      List.Forall₂ (fun statement part => part.length ≤ statement.calls.countP (·.draws .signal))
        script.program.statements parts ∧
      ∀ (position site : Nat) (span place : Span),
        script.program.statements[position]? = some (Statement.goesLong site span place) →
          parts[position]? = some [(⟨.long, "Long"⟩ : Signal)] := by
  obtain ⟨opened, headed, closed, final, onBar, shown⟩ := bar_of_run ran inside
  obtain ⟨heading, headingAdded, most⟩ := Mark.signals.added_of_drawn onBar.heading
  obtain ⟨parts, signalling, partsAdded⟩ := Signalling.of_executeAll onBar.executed
  have bars := onBar.heading.bars
  have current : headed.memory.barIndex = window.length - 1 - bar := by
    rw [Memory.barIndex, bars]
    exact onBar.current
  rw [onBar.current] at headingAdded
  rw [current] at partsAdded
  have together : Mark.signals.entries closed.recorder = Mark.signals.entries opened.recorder ++
      (heading ++ parts.flatten).map (Prod.mk (window.length - 1 - bar)) := by
    rw [List.map_append, ← List.append_assoc, ← headingAdded]
    exact partsAdded
  refine ⟨headed, closed, heading, parts, ?_, signalling, shown Signal Mark.signals _ together,
    fun older => ?_, most, signalling.most, fun _ _ _ _ found => signalling.of_goesLong found⟩
  · rw [bars, onBar.bars]
    omega
  · rw [onBar.unheaded (by omega)] at headingAdded
    exact List.map_eq_nil_iff.mp (List.self_eq_append_right.mp headingAdded)

end Script

namespace Program

/-- On each bar a run draws no more signals, shapes and backgrounds than the program has calls
that draw them, the arguments of the declaration included. The signals on a bar are those of the
declaration, on the oldest bar only, and then those that the statements add one after the other.
None of them adds more than it has calls for, and `strategy.long()` as a statement exactly one. -/
theorem execute_once_per_bar {program : Program} {window : List Candle}
    {overrides : Table String Float} {chart : Chart}
    (executed : program.execute window overrides = .ok chart) :
    (∀ bar,
      chart.signals.countP (·.bar = bar) ≤ program.calls.countP (·.draws .signal) ∧
      chart.shapes.countP (·.bar = bar) ≤ program.calls.countP (·.draws .shape) ∧
      chart.backgrounds.countP (·.bar = bar) ≤ program.calls.countP (·.draws .background)) ∧
    ∀ bar < window.length, ∃ start final heading parts,
      start.memory.bars.length = window.length - bar ∧
      Signalling overrides program.statements start parts final ∧
      chart.signals.filter (·.bar = bar) = (heading ++ parts.flatten).map (OnBar.mk bar) ∧
      (bar + 1 < window.length → heading = []) ∧
      heading.length ≤ (program.declaration.elim [] (·.call.inner)).countP (·.draws .signal) ∧
      List.Forall₂ (fun statement part => part.length ≤ statement.calls.countP (·.draws .signal))
        program.statements parts ∧
      ∀ (position site : Nat) (span place : Span),
        program.statements[position]? = some (Statement.goesLong site span place) →
          parts[position]? = some [(⟨.long, "Long"⟩ : Signal)] := by
  obtain ⟨script, prepared, ran⟩ := of_bind_ok executed
  obtain rfl := eq_of_prepare prepared
  refine ⟨fun bar => ⟨?_, ?_, ?_⟩, fun bar inside => Script.signals_on_bar ran inside⟩
  · exact Script.count_of_run Mark.signals ran bar
  · exact Script.count_of_run Mark.shapes ran bar
  · exact Script.count_of_run Mark.backgrounds ran bar

def nestedSource : String :=
  "indicator(title = strategy.long(\"early\"), overlay = plotshape(true))\n" ++
    "x = sma(bgcolor(color.red), 2)\nplotshape(close > 1)\nstrategy.long()\n" ++
    "if close > 1\n  strategy.close()"

theorem execute_once_per_bar_nested :
    ∃ program chart, parse nestedSource = .ok program ∧
      program.execute threeCandles [] = .ok chart ∧
      ∀ bar, chart.signals.countP (·.bar = bar) ≤ 3 := by
  have runs : (parse nestedSource).toOption.any fun program =>
      (program.execute threeCandles []).isOk && program.calls.countP (·.draws .signal) == 3 := by
    decide +kernel
  obtain ⟨program, parsed, runs⟩ := of_toOption_any runs
  obtain ⟨ok, count⟩ := Bool.and_eq_true_iff.mp runs
  rcases ran : program.execute threeCandles [] with _ | chart
  · rw [ran] at ok
    cases ok
  refine ⟨program, chart, parsed, ran, fun bar => ?_⟩
  rw [← eq_of_beq count]
  exact ((execute_once_per_bar ran).1 bar).1

end Program

end ChartScript
