import ChartScript.Proofs.EvaluationSteps

/-!
# A run does not look ahead

A run over a window starts as the run over its older part, so what is drawn by then must stay.
`Recorder.Continues` says what stays while newer bars are added: plots and alerts change on the
newer bars only, and everything else that is added comes behind what there was, placed on a newer
bar. This is about runs that open one bar after the other; that a run which has the newer bars from
the start does not read them either is proved with the runs over a loaded window.
-/

set_option autoImplicit false

namespace ChartScript

open Relation

def Alert.older (alert : Alert) (bars : Nat) : Alert :=
  { alert with triggered := alert.triggered.drop bars }

/-- An entry with its distance from a bar that is some bars older than the newest. -/
def OnBar.older {α : Type} (entry : OnBar α) (bars : Nat) : OnBar α :=
  { entry with bar := entry.bar - bars }

/-- The entries that are not among the newest bars come before all others, and are those of the
older list. -/
def IsOlderPart {α : Type} (bars : Nat) (older whole : List (OnBar α)) : Prop :=
  ∃ kept newest, whole = kept ++ newest ∧ (∀ entry ∈ kept, bars ≤ entry.bar) ∧
    (∀ entry ∈ newest, entry.bar < bars) ∧ older = kept.map (·.older bars)

/-- A chart is what another one was before its newest bars. -/
structure Chart.IsOlder (bars : Nat) (older whole : Chart) : Prop where
  title : older.title = whole.title
  overlay : older.overlay = whole.overlay
  error : older.error = whole.error
  plots : older.plots.map Plot.values = whole.plots.map (·.values.drop bars)
  lines : older.lines <+: whole.lines
  shapes : IsOlderPart bars older.shapes whole.shapes
  backgrounds : IsOlderPart bars older.backgrounds whole.backgrounds
  alerts : older.alerts <+: whole.alerts.map (·.older bars)
  signals : IsOlderPart bars older.signals whole.signals
  inputs : older.inputs <+: whole.inputs

/-- Entries are added behind those there are, from a bar on. -/
def Extends {α : Type} (start : Nat) (earlier later : Array (Nat × α)) : Prop :=
  ∃ newer, later.toList = earlier.toList ++ newer ∧ ∀ entry ∈ newer, start ≤ entry.1

theorem Extends.refl {α : Type} (start : Nat) (entries : Array (Nat × α)) :
    Extends start entries entries :=
  ⟨[], (List.append_nil _).symm, nofun⟩

theorem Extends.push {α : Type} {start bar : Nat} {earlier later : Array (Nat × α)}
    (grown : Extends start earlier later) (onNewer : start ≤ bar) (item : α) :
    Extends start earlier (later.push (bar, item)) := by
  obtain ⟨newer, entries, placed⟩ := grown
  refine ⟨newer ++ [(bar, item)], by simp [entries], ?_⟩
  intro entry member
  rcases List.mem_append.mp member with old | new
  · exact placed entry old
  · cases List.mem_singleton.mp new
    exact onNewer

namespace Recorder

/-- One recorder comes from another by drawing on newer bars, `opened` of them from `start` on. -/
structure Continues (opened start : Nat) (earlier later : Recorder) : Prop where
  plots : later.plots.map (fun entry => (entry.1, entry.2.values.drop opened)) =
    earlier.plots.map fun entry => (entry.1, entry.2.values)
  lines : earlier.lines <+: later.lines
  shapes : Extends start earlier.shapes later.shapes
  backgrounds : Extends start earlier.backgrounds later.backgrounds
  alerts : earlier.alerts <+: later.alerts.map fun entry => (entry.1, entry.2.older opened)
  signals : Extends start earlier.signals later.signals
  inputs : earlier.inputs <+: later.inputs

variable {opened start : Nat} {earlier later : Recorder}

theorem Continues.refl (start : Nat) (recorder : Recorder) :
    Continues 0 start recorder recorder where
  plots := rfl
  lines := List.prefix_rfl
  shapes := .refl _ _
  backgrounds := .refl _ _
  alerts := by
    have unchanged : recorder.alerts.map (fun entry => (entry.1, entry.2.older 0)) =
        recorder.alerts := List.map_id _
    exact ⟨[], by rw [List.append_nil, unchanged]⟩
  signals := .refl _ _
  inputs := List.prefix_rfl

theorem Continues.openBar (continues : Continues opened start earlier later) :
    Continues (opened + 1) start earlier later.openBar where
  plots := by
    rw [← continues.plots, Recorder.openBar, List.map_map]
    rfl
  lines := continues.lines
  shapes := continues.shapes
  backgrounds := continues.backgrounds
  alerts := by
    have flags : later.openBar.alerts.map (fun entry => (entry.1, entry.2.older (opened + 1))) =
        later.alerts.map fun entry => (entry.1, entry.2.older opened) := by
      rw [Recorder.openBar, List.map_map]
      rfl
    rw [flags]
    exact continues.alerts
  signals := continues.signals
  inputs := continues.inputs

theorem older_setTriggered (alert : Alert) (triggered : Bool) (opened : Nat) :
    (setTriggered alert triggered).older (opened + 1) = alert.older (opened + 1) := by
  obtain ⟨title, message, flags⟩ := alert
  cases flags <;> rfl

theorem Continues.step {overrides : Table String Float} {bar bars : Nat} {next : Recorder}
    (continues : Continues (opened + 1) start earlier later) (onNewer : start ≤ bar)
    (step : Step overrides bar bars later next) :
    Continues (opened + 1) start earlier next := by
  cases step with
  | plot site value title color width =>
    refine { continues with plots := Eq.trans ?_ continues.plots }
    exact Table.map_modify later.plots site (updatePlot · value title color width)
      (fun plot => plot.values.drop (opened + 1)) fun plot =>
        Series.drop_setNow plot.values value opened
  | line site line fresh =>
    exact { continues with lines := continues.lines.trans (List.prefix_append _ _) }
  | shape shape => exact { continues with shapes := continues.shapes.push onNewer shape }
  | background color =>
    exact { continues with backgrounds := continues.backgrounds.push onNewer color }
  | alert site title message triggered =>
    -- The flag is set on the newest bar only; a new alert comes behind all others.
    refine { continues with alerts := continues.alerts.trans ?_ }
    rw [Table.map_modify _ _ _ (fun alert : Alert => alert.older (opened + 1)) fun alert =>
      older_setTriggered alert triggered opened]
    exact (Table.prefix_setNew _ _ _).map _
  | signal signal => exact { continues with signals := continues.signals.push onNewer signal }
  | input name default =>
    exact { continues with inputs := continues.inputs.trans (Table.prefix_setNew _ _ _) }

end Recorder

/-! ## Runs that go on -/

def OnFirstBars {α : Type} (bars : Nat) (entries : Array (Nat × α)) : Prop :=
  ∀ entry ∈ entries.toList, entry.1 < bars

theorem OnFirstBars.push {α : Type} {bar bars : Nat} {entries : Array (Nat × α)}
    (placed : OnFirstBars bars entries) (onBar : bar < bars) (item : α) :
    OnFirstBars bars (entries.push (bar, item)) := by
  intro entry member
  rw [Array.toList_push] at member
  rcases List.mem_append.mp member with old | new
  · exact placed entry old
  · cases List.mem_singleton.mp new
    exact onBar

structure Recorder.Within (bars : Nat) (recorder : Recorder) : Prop where
  shapes : OnFirstBars bars recorder.shapes
  backgrounds : OnFirstBars bars recorder.backgrounds
  signals : OnFirstBars bars recorder.signals

theorem Recorder.Within.mono {bars more : Nat} {recorder : Recorder} (within : recorder.Within bars)
    (fewer : bars ≤ more) : recorder.Within more where
  shapes entry member := Nat.lt_of_lt_of_le (within.shapes entry member) fewer
  backgrounds entry member := Nat.lt_of_lt_of_le (within.backgrounds entry member) fewer
  signals entry member := Nat.lt_of_lt_of_le (within.signals entry member) fewer

theorem Recorder.Within.openBar {bars : Nat} {recorder : Recorder} (within : recorder.Within bars) :
    recorder.openBar.Within bars :=
  ⟨within.shapes, within.backgrounds, within.signals⟩

theorem Recorder.Within.step {overrides : Table String Float} {bar bars count : Nat}
    {recorder next : Recorder} (within : recorder.Within bars) (onBar : bar < bars)
    (step : Step overrides bar count recorder next) : next.Within bars := by
  cases step with
  | shape shape => exact { within with shapes := within.shapes.push onBar shape }
  | background color => exact { within with backgrounds := within.backgrounds.push onBar color }
  | signal signal => exact { within with signals := within.signals.push onBar signal }
  | _ => exact ⟨within.shapes, within.backgrounds, within.signals⟩

namespace RunState

def openBar (state : RunState) (candle : Candle) : RunState :=
  ⟨state.memory.openBar candle, state.recorder.openBar⟩

/-- The current bar is the last one, and everything is drawn on the bars up to it. -/
structure Placed (state : RunState) : Prop where
  current : state.memory.barIndex + 1 = state.memory.bars.length
  drawn : state.recorder.Within state.memory.bars.length

theorem openBar_placed (state : RunState) (candle : Candle)
    (drawn : state.recorder.Within state.memory.bars.length) :
    (state.openBar candle).Placed where
  current := rfl
  drawn := drawn.openBar.mono (Nat.le_succ _)

theorem Placed.step {overrides : Table String Float} {before after : RunState}
    (placed : before.Placed) (step : StatementStep overrides before after) : after.Placed := by
  have bars := step.bars
  have current : after.memory.barIndex + 1 = after.memory.bars.length := by
    rw [Memory.barIndex, bars]
    exact placed.current
  refine ⟨current, ?_⟩
  rw [bars]
  cases step with
  | store name value memory stored => exact placed.drawn
  | expression _ step =>
    cases step with
    | operand site operand value => exact placed.drawn
    | result site value => exact placed.drawn
    | draw recorder drawn => exact placed.drawn.step (placed.current ▸ Nat.lt_succ_self _) drawn

/-- One state comes from another on a number of newer bars. -/
structure Continues (opened : Nat) (earlier later : RunState) : Prop where
  placed : later.Placed
  bars : later.memory.bars.length = earlier.memory.bars.length + opened
  recorder : Recorder.Continues opened earlier.memory.bars.length earlier.recorder later.recorder

variable {opened : Nat} {earlier later next : RunState}

theorem Continues.refl (state : RunState) (placed : state.Placed) : Continues 0 state state :=
  ⟨placed, rfl, .refl _ _⟩

theorem Continues.openBar (continues : Continues opened earlier later) (candle : Candle) :
    Continues (opened + 1) earlier (later.openBar candle) where
  placed := openBar_placed later candle continues.placed.drawn
  bars := congrArg Nat.succ continues.bars
  recorder := continues.recorder.openBar

/-- A step on a newer bar. On the bar of `earlier` itself it would change what has to stay. -/
theorem Continues.step {overrides : Table String Float}
    (continues : Continues (opened + 1) earlier later)
    (step : StatementStep overrides later next) : Continues (opened + 1) earlier next := by
  have bars := continues.bars
  have current := continues.placed.current
  refine ⟨continues.placed.step step, step.bars ▸ bars, ?_⟩
  cases step with
  | store name value memory stored => exact continues.recorder
  | expression _ step =>
    cases step with
    | operand site operand value => exact continues.recorder
    | result site value => exact continues.recorder
    | draw recorder drawn => exact continues.recorder.step (by omega) drawn

end RunState

namespace Eval

variable {script : Script} {overrides : Table String Float} {candle : Candle} {newer : List Candle}
  {final : RunState}

theorem of_runBars_cons_ok {state : RunState}
    (ran : outcome (script.runBars overrides (candle :: newer)) state = (.ok (), final)) :
    ∃ after, outcome (executeAll overrides script.program.statements) (state.openBar candle) =
        (.ok (), after) ∧ outcome (script.runBars overrides newer) after = (.ok (), final) := by
  obtain ⟨_, _, opened, ran⟩ := of_outcome_bind_ok ran
  cases opened
  obtain ⟨_, after, executed, ran⟩ := of_outcome_bind_ok ran
  exact ⟨after, executed, ran⟩

theorem of_runWindow_cons_ok {heading : String × Bool}
    (ran : outcome (script.runWindow overrides (candle :: newer)) script.initial =
      (.ok heading, final)) :
    ∃ declared first,
      outcome (script.heading overrides) (script.initial.openBar candle) =
        (.ok heading, declared) ∧
      outcome (executeAll overrides script.program.statements) declared = (.ok (), first) ∧
      outcome (script.runBars overrides newer) first = (.ok (), final) := by
  obtain ⟨_, _, opened, ran⟩ := of_outcome_bind_ok ran
  cases opened
  obtain ⟨_, declared, headed, ran⟩ := of_outcome_bind_ok ran
  obtain ⟨_, first, executed, ran⟩ := of_outcome_bind_ok ran
  obtain ⟨_, _, ran, done⟩ := of_outcome_bind_ok ran
  cases done
  exact ⟨declared, first, headed, executed, ran⟩

end Eval

namespace Script

open Eval

variable (script : Script) (overrides : Table String Float)

/-- Running further bars adds to what is drawn and changes nothing of it. -/
theorem runBars_continues (candles : List Candle) (opened : Nat) (earlier later final : RunState)
    (continues : RunState.Continues opened earlier later)
    (ran : outcome (script.runBars overrides candles) later = (.ok (), final)) :
    RunState.Continues (opened + candles.length) earlier final := by
  induction candles generalizing opened later with
  | nil =>
    cases ran
    exact continues
  | cons candle newer ih =>
    obtain ⟨after, executed, ran⟩ := of_runBars_cons_ok ran
    -- The statements come behind the opening of a newer bar, so no step is on the bar of `earlier`.
    have onBar := (executeAll_moves overrides script.program.statements).keeps
      (RunState.Continues (opened + 1) earlier) (fun _ _ step kept => kept.step step) executed
      (continues.openBar candle)
    have continued := ih (opened + 1) after onBar ran
    rwa [Nat.add_assoc, Nat.add_comm 1] at continued

theorem heading_moves : Moves (RunState.StatementStep overrides) (script.heading overrides) := by
  unfold heading
  cases script.program.declaration with
  | none => exact moves_pure _
  | some declaration => exact (declaration.evaluate_moves overrides).mono .expression

theorem initial_within : script.initial.recorder.Within 0 := by
  refine List.foldlRecOn (motive := Recorder.Within 0) script.plots _ ⟨nofun, nofun, nofun⟩ ?_
  exact fun _ within _ _ => ⟨within.shapes, within.backgrounds, within.signals⟩

section Keeping

/-! What every opening of a bar establishes and every step on a bar keeps holds when a run ends. -/

variable (between onBar : RunState → Prop)
  (opens : ∀ state candle, between state → onBar (state.openBar candle))
  (steps : ∀ before after, RunState.StatementStep overrides before after → onBar before →
    onBar after)
  (closes : ∀ state, onBar state → between state)

include opens steps closes

theorem runBars_keeps (candles : List Candle) (state final : RunState) (holds : onBar state)
    (ran : outcome (script.runBars overrides candles) state = (.ok (), final)) : onBar final := by
  induction candles generalizing state with
  | nil =>
    cases ran
    exact holds
  | cons candle newer ih =>
    obtain ⟨after, executed, ran⟩ := of_runBars_cons_ok ran
    have started := opens state candle (closes state holds)
    exact ih after ((executeAll_moves overrides _).keeps onBar steps executed started) ran

theorem runWindow_keeps (oldest : Candle) (newer : List Candle) (heading : String × Bool)
    (final : RunState) (start : between script.initial)
    (ran : outcome (script.runWindow overrides (oldest :: newer)) script.initial =
      (.ok heading, final)) : onBar final := by
  obtain ⟨_, first, headed, executed, ran⟩ := of_runWindow_cons_ok ran
  have declared := (script.heading_moves overrides).keeps onBar steps headed
    (opens script.initial oldest start)
  have onFirst := (executeAll_moves overrides _).keeps onBar steps executed declared
  exact script.runBars_keeps overrides between onBar opens steps closes newer first _ onFirst ran

end Keeping

theorem runWindow_placed (oldest : Candle) (newer : List Candle) (heading : String × Bool)
    (final : RunState)
    (ran : outcome (script.runWindow overrides (oldest :: newer)) script.initial =
      (.ok heading, final)) : final.Placed :=
  script.runWindow_keeps overrides (fun state => state.recorder.Within state.memory.bars.length)
    RunState.Placed RunState.openBar_placed (fun _ _ step placed => placed.step step)
    (fun _ placed => placed.drawn) oldest newer heading final script.initial_within ran

/-! ## Two runs that share their older bars -/

theorem runBars_append (older newer : List Candle) :
    script.runBars overrides (older ++ newer) =
      script.runBars overrides older >>= fun _ => script.runBars overrides newer := by
  induction older with
  | nil => exact (pure_bind () fun _ => script.runBars overrides newer).symm
  | cons candle rest ih => simp only [List.cons_append, runBars, ih, bind_assoc]

theorem runWindow_append (oldest : Candle) (older newer : List Candle) :
    script.runWindow overrides (oldest :: older ++ newer) = do
      let heading ← script.runWindow overrides (oldest :: older)
      script.runBars overrides newer
      return heading := by
  simp only [List.cons_append, runWindow, runBars_append, bind_assoc, pure_bind]

end Script

theorem Recorder.fromNewest_isOlderPart {α : Type} {earlier later : Array (Nat × α)}
    (bars opened : Nat) (grown : Extends bars earlier later) (before : OnFirstBars bars earlier)
    (after : OnFirstBars (bars + opened) later) :
    IsOlderPart opened (earlier.toList.map (fromNewest bars))
      (later.toList.map (fromNewest (bars + opened))) := by
  obtain ⟨newer, entries, onNewer⟩ := grown
  refine ⟨earlier.toList.map (fromNewest (bars + opened)), newer.map (fromNewest (bars + opened)),
    ?_, ?_, ?_, ?_⟩
  · rw [entries, List.map_append]
  · intro placed member
    obtain ⟨entry, known, rfl⟩ := List.mem_map.mp member
    have first := before entry known
    show opened ≤ bars + opened - 1 - entry.1
    omega
  · intro placed member
    obtain ⟨entry, added, rfl⟩ := List.mem_map.mp member
    have start := onNewer entry added
    have last := after entry (entries ▸ List.mem_append_right _ added)
    show bars + opened - 1 - entry.1 < opened
    omega
  · rw [List.map_map]
    refine List.map_congr_left fun entry known => ?_
    have first := before entry known
    have counted : bars - 1 - entry.1 = bars + opened - 1 - entry.1 - opened := by omega
    simp only [fromNewest, OnBar.older, Function.comp_apply, counted]

theorem Recorder.Continues.finish_isOlder {bars opened : Nat} {earlier later : Recorder}
    (continues : Continues opened bars earlier later) (before : earlier.Within bars)
    (after : later.Within (bars + opened)) (title : String) (overlay : Bool) :
    (earlier.finish title overlay bars).IsOlder opened
      (later.finish title overlay (bars + opened)) where
  title := rfl
  overlay := rfl
  error := rfl
  plots := by
    have values := congrArg (List.map Prod.snd) continues.plots
    simp only [List.map_map] at values
    simp only [finish, List.map_map]
    exact values.symm
  lines := continues.lines.map _
  shapes := fromNewest_isOlderPart bars opened continues.shapes before.shapes after.shapes
  backgrounds := fromNewest_isOlderPart bars opened continues.backgrounds before.backgrounds
    after.backgrounds
  alerts := by
    have flags := continues.alerts.map Prod.snd
    rw [List.map_map] at flags
    simp only [finish, List.map_map]
    exact flags
  signals := fromNewest_isOlderPart bars opened continues.signals before.signals after.signals
  inputs := continues.inputs.map _

namespace Script

open Eval

/-- A window in the order of its run: the older part, which is not empty, and the newest bars. -/
theorem exists_oldest (window : List Candle) (newest : Nat) (remains : newest < window.length) :
    ∃ oldest older, (window.drop newest).reverse = oldest :: older ∧
      window.reverse = oldest :: older ++ (window.take newest).reverse := by
  have nonempty : (window.drop newest).reverse ≠ [] := by
    rw [Ne, List.reverse_eq_nil_iff, List.drop_eq_nil_iff]
    omega
  obtain ⟨oldest, older, first⟩ := List.exists_cons_of_ne_nil nonempty
  refine ⟨oldest, older, first, ?_⟩
  rw [← first, ← List.reverse_append, List.take_append_drop]

/-- The run over the older part of a window draws what the run over the whole window draws on
that part, and an error on the older part is the error of the whole run. -/
theorem run_drop_isOlder (script : Script) (window : List Candle)
    (overrides : Table String Float) (newest : Nat) (remains : newest < window.length) :
    (∀ whole, script.run window overrides = .ok whole →
      ∃ older, script.run (window.drop newest) overrides = .ok older ∧
        older.IsOlder newest whole) ∧
    ∀ error, script.run (window.drop newest) overrides = .error error →
      script.run window overrides = .error error := by
  obtain ⟨oldest, older, first, parts⟩ := exists_oldest window newest remains
  have count : (window.take newest).reverse.length = newest := by
    rw [List.length_reverse, List.length_take]
    omega
  simp only [run_outcome, parts, first, runWindow_append, outcome_bind]
  -- Both runs begin alike, and where they do not fail the whole one goes on from there.
  rcases started : outcome (script.runWindow overrides (oldest :: older)) script.initial
    with ⟨failure | heading, before⟩
  · exact ⟨fun _ ran => (nomatch ran), fun _ failed => failed⟩
  refine ⟨fun whole ran => ⟨_, rfl, ?_⟩, fun _ failed => nomatch failed⟩
  have placed := script.runWindow_placed overrides oldest older heading before started
  simp only at ran
  rcases continued : outcome (script.runBars overrides (window.take newest).reverse) before
    with ⟨failure | _, after⟩
  · rw [continued] at ran
    cases ran
  rw [continued] at ran
  cases ran
  have continues := script.runBars_continues overrides _ 0 before before after
    (.refl before placed) continued
  rw [count, Nat.zero_add] at continues
  have drawn := continues.placed.drawn
  simp only [continues.bars] at drawn ⊢
  exact continues.recorder.finish_isOlder placed.drawn drawn heading.1 heading.2

def risingCandles : List Candle :=
  [⟨3, 3.0, 3.0, 3.0, 3.0, 1.0⟩, ⟨2, 2.0, 2.0, 2.0, 2.0, 1.0⟩, ⟨1, 1.0, 1.0, 1.0, 1.0, 1.0⟩]

end Script

end ChartScript
