import ChartScript.Proofs.NoLookAhead
import ChartScript.Proofs.Resolution
import Mathlib.Data.List.Forall2
import Mathlib.Data.List.Perm.Subperm

/-!
# Which calls draw

What is drawn, each time by a call. `Recorder.StepOf` is what one call draws on a bar: at most one
thing, of the kind that its function is for, and under its own site. Where an evaluation succeeds,
the calls that drew are among those of the evaluated syntax and none of them drew twice, as
`Eval.DrawsOnce` says. An argument that is read as a series is not evaluated again with the others,
and a branch that is not taken does not draw.
-/

set_option autoImplicit false

namespace ChartScript

open Relation

inductive Drawing where
  | plot
  | line
  | shape
  | background
  | alert
  | signal
  | input

namespace Drawing

/-- The functions that draw something of a kind. -/
def functions : Drawing → List String
  | plot => ["plot"]
  | line => ["hline"]
  | shape => ["plotshape", "plotchar"]
  | background => ["bgcolor"]
  | alert => ["alert", "alertcondition"]
  | signal => ["strategy.entry", "strategy.long", "strategy.short", "strategy.close"]
  | input => ["input", "input.int", "input.float", "input.bool"]

def ofBuiltin? : Builtin → Option Drawing
  | .plot => some plot
  | .hline => some line
  | .plotShape | .plotChar => some shape
  | .backgroundColor => some background
  | .alert => some alert
  | .strategyEntry | .strategyLong | .strategyShort | .strategyClose => some signal
  | .input => some input
  | _ => none

theorem mem_functions {function : String} {builtin : Builtin} {drawing : Drawing}
    (named : Builtin.ofName? function = some builtin) (draws : ofBuiltin? builtin = some drawing) :
    function ∈ drawing.functions := by
  unfold Builtin.ofName? at named
  split at named <;> cases named <;> cases draws <;> simp [functions]

end Drawing

namespace Call

def draws (call : Call) (drawing : Drawing) : Bool :=
  call.function ∈ drawing.functions

/-- The argument for the title of a plot: the second one, or else the one of that name. -/
def title? (call : Call) : Option Expr :=
  call.arguments[1]? <|> call.namedArgument? "title"

/-- A title that a plot can pass: none without an argument for it, and the text of a literal. -/
structure Passes (call : Call) (title : Option String) : Prop where
  absent : call.title? = none → title = none
  literal : ∀ text span, call.title? = some (.string text span) → title = some text

end Call

namespace Recorder

/-- What one call draws on a bar that comes as the last of some bars. -/
inductive StepOf (overrides : Table String Float) (bar bars : Nat) (call : Call) :
    Recorder → Recorder → Prop
  | plot (recorder : Recorder) (value : Float) (title : Option String) (color : Option Color)
      (width : Option Float) (draws : call.draws .plot) (passed : call.Passes title) :
      StepOf overrides bar bars call recorder { recorder with
        plots := Table.modify recorder.plots call.site (updatePlot · value title color width) }
  | line (recorder : Recorder) (line : HorizontalLine) (draws : call.draws .line)
      (fresh : Table.get? recorder.lines call.site = none) :
      StepOf overrides bar bars call recorder { recorder with
        lines := recorder.lines ++ [(call.site, line)] }
  | shape (recorder : Recorder) (shape : Shape) (draws : call.draws .shape) :
      StepOf overrides bar bars call recorder { recorder with
        shapes := recorder.shapes.push (bar, shape) }
  | background (recorder : Recorder) (color : Color)
      (draws : call.draws .background) :
      StepOf overrides bar bars call recorder { recorder with
        backgrounds := recorder.backgrounds.push (bar, color) }
  | alert (recorder : Recorder) (title message : String) (triggered : Bool)
      (draws : call.draws .alert) :
      StepOf overrides bar bars call recorder { recorder with
        alerts := Table.modify
          (Table.setNew recorder.alerts call.site ⟨title, message, List.replicate bars false⟩)
          call.site (setTriggered · triggered) }
  | signal (recorder : Recorder) (signal : Signal) (draws : call.draws .signal) :
      StepOf overrides bar bars call recorder { recorder with
        signals := recorder.signals.push (bar, signal) }
  | input (recorder : Recorder) (name : String) (default : Float)
      (draws : call.draws .input) :
      StepOf overrides bar bars call recorder (recorder.input overrides name default).2

/-- The calls of a list draw one after the other. -/
inductive DrawnBy (overrides : Table String Float) (bar bars : Nat) :
    List Call → Recorder → Recorder → Prop
  | nil (recorder : Recorder) : DrawnBy overrides bar bars [] recorder recorder
  | cons {call : Call} {others : List Call} {first next last : Recorder}
      (step : StepOf overrides bar bars call first next)
      (rest : DrawnBy overrides bar bars others next last) :
      DrawnBy overrides bar bars (call :: others) first last

theorem DrawnBy.append {overrides : Table String Float} {bar bars : Nat}
    {calls others : List Call} {first next last : Recorder}
    (before : DrawnBy overrides bar bars calls first next)
    (after : DrawnBy overrides bar bars others next last) :
    DrawnBy overrides bar bars (calls ++ others) first last := by
  induction before with
  | nil => exact after
  | cons step _ ih => exact .cons step (ih after)

end Recorder

/-- One state comes from another on the same bar, and of some calls each has drawn at most once
in between. -/
structure RunState.Drawn (overrides : Table String Float) (calls : List Call)
    (before after : RunState) : Prop where
  bars : after.memory.bars = before.memory.bars
  once : ∃ made, made.Subperm calls ∧
    Recorder.DrawnBy overrides before.memory.barIndex before.memory.bars.length made
      before.recorder after.recorder

namespace RunState.Drawn

variable {overrides : Table String Float} {calls others : List Call}
  {before between after : RunState}

theorem quiet (bars : after.memory.bars = before.memory.bars)
    (recorder : after.recorder = before.recorder) : Drawn overrides calls before after := by
  refine ⟨bars, [], List.nil_subperm, ?_⟩
  rw [recorder]
  exact .nil before.recorder

theorem trans (first : Drawn overrides calls before between)
    (second : Drawn overrides others between after) :
    Drawn overrides (calls ++ others) before after := by
  obtain ⟨bars, made, within, drawn⟩ := first
  obtain ⟨nextBars, madeNext, withinNext, drawnNext⟩ := second
  rw [Memory.barIndex, bars] at drawnNext
  exact ⟨nextBars.trans bars, made ++ madeNext, within.append withinNext,
    drawn.append drawnNext⟩

theorem mono (drawn : Drawn overrides calls before after) (among : calls.Subperm others) :
    Drawn overrides others before after := by
  obtain ⟨bars, made, within, drawn⟩ := drawn
  exact ⟨bars, made, within.trans among, drawn⟩

end RunState.Drawn

/-! ## Evaluations -/

namespace Eval

variable {α β : Type} {overrides : Table String Float} {calls others : List Call}

/-- Where the evaluation succeeds, each of the calls has drawn at most once. -/
def DrawsOnce (overrides : Table String Float) (calls : List Call) (evaluation : Eval α) : Prop :=
  ∀ state value after, outcome evaluation state = (.ok value, after) →
    state.Drawn overrides calls after

def Yields (evaluation : Eval α) (value : α) : Prop :=
  ∃ state after, outcome evaluation state = (.ok value, after)

theorem DrawsOnce.mono {evaluation : Eval α} (draws : DrawsOnce overrides calls evaluation)
    (among : calls.Subperm others) : DrawsOnce overrides others evaluation :=
  fun state value after ran => (draws state value after ran).mono among

theorem drawsOnce_pure (value : α) : DrawsOnce overrides [] (pure value : Eval α) := by
  intro state result after ran
  cases ran
  exact .quiet rfl rfl

theorem drawsOnce_lift (result : Except RunError α) :
    DrawsOnce overrides [] (liftM result : Eval α) := by
  intro state value after ran
  cases ran
  exact .quiet rfl rfl

theorem drawsOnce_throw (error : RunError) : DrawsOnce overrides calls (throw error : Eval α) :=
  fun _ _ _ ran => nomatch ran

theorem drawsOnce_of_moves {evaluation : Eval α}
    (moves : Moves (fun before after : RunState => after.memory.bars = before.memory.bars ∧
      after.recorder = before.recorder) evaluation) : DrawsOnce overrides [] evaluation := by
  intro state value after ran
  have unchanged := moves.keeps (fun reached => reached.memory.bars = state.memory.bars ∧
      reached.recorder = state.recorder)
    (fun _ _ step same => ⟨step.1.trans same.1, step.2.trans same.2⟩) ran ⟨rfl, rfl⟩
  exact .quiet unchanged.1 unchanged.2

/-- What comes second can rely on the value that was given first. -/
theorem drawsOnce_bind_yields {first : Eval α} {next : α → Eval β}
    (firstDraws : DrawsOnce overrides calls first)
    (nextDraws : ∀ value, first.Yields value → DrawsOnce overrides others (next value)) :
    DrawsOnce overrides (calls ++ others) (first >>= next) := by
  intro state result final ran
  obtain ⟨value, after, started, ran⟩ := of_outcome_bind_ok ran
  exact (firstDraws state value after started).trans
    (nextDraws value ⟨state, after, started⟩ after result final ran)

theorem drawsOnce_bind {first : Eval α} {next : α → Eval β}
    (firstDraws : DrawsOnce overrides calls first)
    (nextDraws : ∀ value, DrawsOnce overrides others (next value)) :
    DrawsOnce overrides (calls ++ others) (first >>= next) :=
  drawsOnce_bind_yields firstDraws fun value _ => nextDraws value

theorem drawsOnce_bind_quiet {first : Eval α} {next : α → Eval β}
    (firstDraws : DrawsOnce overrides calls first)
    (nextQuiet : ∀ value, DrawsOnce overrides [] (next value)) :
    DrawsOnce overrides calls (first >>= next) := by
  have draws := drawsOnce_bind firstDraws nextQuiet
  rwa [List.append_nil] at draws

theorem drawsOnce_quiet_bind {first : Eval α} {next : α → Eval β}
    (firstQuiet : DrawsOnce overrides [] first)
    (nextDraws : ∀ value, DrawsOnce overrides calls (next value)) :
    DrawsOnce overrides calls (first >>= next) :=
  drawsOnce_bind firstQuiet nextDraws

theorem drawsOnce_memory : DrawsOnce overrides [] memory :=
  drawsOnce_of_moves moves_memory

theorem operand_drawsOnce (site : Nat) (operand : Operand) (expr : Expr) {evaluated : Eval Value}
    (draws : DrawsOnce overrides calls evaluated) :
    DrawsOnce overrides calls (Eval.operand site operand expr evaluated) := by
  refine drawsOnce_quiet_bind drawsOnce_memory fun memory => ?_
  cases memory.namedSeries? expr with
  | some series => exact (drawsOnce_pure series).mono List.nil_subperm
  | none =>
    refine drawsOnce_bind_quiet draws fun value => ?_
    refine drawsOnce_quiet_bind (drawsOnce_lift _) fun number => ?_
    refine drawsOnce_of_moves (moves_bind _ _ ?_ fun _ => ?_)
    · exact moves_modify _ fun state => ⟨rfl, rfl⟩
    · exact moves_bind _ _ moves_memory fun _ => moves_pure _

theorem binary_drawsOnce (op : BinaryOp) (left : Value) {right : Eval Value}
    (draws : DrawsOnce overrides calls right) :
    DrawsOnce overrides calls (Eval.binary op left right) := by
  unfold Eval.binary
  split
  · refine drawsOnce_quiet_bind (drawsOnce_lift _) fun truth => ?_
    split
    · exact (drawsOnce_pure _).mono List.nil_subperm
    · refine drawsOnce_bind_quiet draws fun rightValue => ?_
      exact drawsOnce_bind_quiet (drawsOnce_lift _) fun _ => drawsOnce_pure _
  · exact drawsOnce_bind_quiet draws fun _ => drawsOnce_lift _

theorem of_draw_ok {change : Recorder → Except RunError Recorder} {state after : RunState}
    {value : Value} (ran : outcome (draw change) state = (.ok value, after)) :
    ∃ recorder, change state.recorder = .ok recorder ∧
      after = { state with recorder := recorder } := by
  rw [outcome_draw] at ran
  cases drawn : change state.recorder with
  | error error =>
    rw [drawn] at ran
    cases ran
  | ok recorder =>
    rw [drawn] at ran
    cases ran
    exact ⟨recorder, rfl, rfl⟩

end Eval

/-- A string literal gives its text. -/
def Expr.Gives (expr : Expr) (value : Value) : Prop :=
  ∀ text span, expr = .string text span → value = .string text

theorem Expr.gives_of_yields {context : Context} {expr : Expr} {value : Value}
    (yields : (expr.evaluate context).Yields value) : expr.Gives value := by
  rintro text span rfl
  obtain ⟨state, after, ran⟩ := yields
  cases ran
  rfl

theorem Expr.evaluatePositional_gives {context : Context} {arguments : List Expr}
    {values : List (Option Value)}
    (yields : (Expr.evaluatePositional context 0 arguments).Yields values) :
    List.Forall₂ (fun expr value => ∃ given, value = some given ∧ expr.Gives given)
      arguments values := by
  obtain ⟨state, after, ran⟩ := yields
  induction arguments generalizing state values with
  | nil =>
    cases ran
    exact .nil
  | cons argument rest ih =>
    obtain ⟨value, next, given, ran⟩ := Eval.of_outcome_bind_ok ran
    obtain ⟨others, last, ran, done⟩ := Eval.of_outcome_bind_ok ran
    cases done
    exact .cons ⟨value, rfl, gives_of_yields ⟨state, next, given⟩⟩ (ih next ran)

theorem NamedArgument.evaluateAll_gives {context : Context} {arguments : List NamedArgument}
    {values : List (String × Value)}
    (yields : (NamedArgument.evaluateAll context arguments).Yields values) :
    List.Forall₂ (fun argument entry => entry.1 = argument.name ∧ argument.value.Gives entry.2)
      arguments values := by
  obtain ⟨state, after, ran⟩ := yields
  induction arguments generalizing state values with
  | nil =>
    cases ran
    exact .nil
  | cons argument rest ih =>
    obtain ⟨name, expr, span⟩ := argument
    obtain ⟨value, next, given, ran⟩ := Eval.of_outcome_bind_ok ran
    obtain ⟨others, last, ran, done⟩ := Eval.of_outcome_bind_ok ran
    cases done
    exact .cons ⟨rfl, Expr.gives_of_yields ⟨state, next, given⟩⟩ (ih next ran)

/-- What is found at a position among related lists is related. -/
theorem forall₂_getElem? {α β : Type} {relation : α → β → Prop} {first : List α} {second : List β}
    (related : List.Forall₂ relation first second) (position : Nat) :
    Option.Rel relation first[position]? second[position]? := by
  induction related generalizing position with
  | nil => exact .none
  | cons head _ ih =>
    cases position with
    | zero => exact .some head
    | succ position => exact ih position

theorem forall₂_find? {arguments : List NamedArgument} {values : List (String × Value)}
    (gives : List.Forall₂ (fun argument entry => entry.1 = argument.name ∧
      argument.value.Gives entry.2) arguments values) (name : String) :
    Option.Rel Expr.Gives ((arguments.find? (·.name = name)).map NamedArgument.value)
      ((values.find? (·.1 = name)).map Prod.snd) := by
  induction gives with
  | nil => exact .none
  | @cons argument entry _ _ head _ ih =>
    rw [List.find?_cons, List.find?_cons, head.1]
    by_cases named : argument.name = name
    · simp only [named, decide_true, Option.map_some]
      exact .some head.2
    · simpa only [named, decide_false] using ih

/-- The title that a plot passes is as its argument for it says. -/
theorem Call.passes_of_string? {function : String} {site : Nat} {arguments : List Expr}
    {named : List NamedArgument} {values : List (Option Value)}
    {namedValues : List (String × Value)}
    (gives : List.Forall₂ (fun expr value => ∃ given, value = some given ∧ expr.Gives given)
      arguments values)
    (namedGives : List.Forall₂ (fun argument entry => entry.1 = argument.name ∧
      argument.value.Gives entry.2) named namedValues) {title : Option String}
    (passed : Arguments.string? ⟨function, values, namedValues⟩ 1 "title" = .ok title) :
    (Call.mk function site arguments named).Passes title := by
  have found : Option.Rel Expr.Gives (Call.mk function site arguments named).title?
      (Arguments.get? ⟨function, values, namedValues⟩ 1 "title") := by
    have atPosition := forall₂_getElem? gives 1
    have byName := forall₂_find? namedGives "title"
    unfold Call.title? Call.arguments Call.namedArgument? Call.named Arguments.get?
      Arguments.named?
    generalize arguments[1]? = expr, values[1]? = value at atPosition
    cases atPosition with
    | none => exact byName
    | some related =>
      obtain ⟨given, rfl, same⟩ := related
      exact .some same
  unfold Arguments.string? at passed
  generalize titled : (Call.mk function site arguments named).title? = expr,
    Arguments.get? ⟨function, values, namedValues⟩ 1 "title" = value at found passed
  cases found with
  | none =>
    cases passed
    exact ⟨fun _ => rfl, fun text span literal => nomatch titled.symm.trans literal⟩
  | some same =>
    refine ⟨fun absent => (nomatch titled.symm.trans absent), fun text span literal => ?_⟩
    cases same text span (Option.some.inj (titled.symm.trans literal))
    exact (Except.ok.inj passed).symm

theorem Builtin.length_operands (builtin : Builtin) :
    builtin.operands.length = builtin.seriesArity := by
  cases builtin <;> rfl

section Draw

variable {overrides : Table String Float} {state after : RunState} {value : Value} {call : Call}

/-- A call that lets the recorder change draws no more than the change. -/
theorem Eval.drawn_of_draw {change : Recorder → Except RunError Recorder}
    (changes : ∀ recorder drawn, change recorder = .ok drawn →
      ReflGen (Recorder.StepOf overrides state.memory.barIndex state.memory.bars.length call)
        recorder drawn)
    (ran : outcome (draw change) state = (.ok value, after)) :
    state.Drawn overrides [call] after := by
  obtain ⟨recorder, changed, rfl⟩ := of_draw_ok ran
  cases changes _ _ changed with
  | refl => exact .quiet rfl rfl
  | single step => exact ⟨rfl, [call], .refl _, .cons step (.nil recorder)⟩

theorem Eval.drawn_of_signals {change : Recorder → Except RunError Recorder}
    (signals : ∀ recorder drawn, change recorder = .ok drawn → drawn = recorder ∨
      ∃ signal, drawn = { recorder with
        signals := recorder.signals.push (state.memory.barIndex, signal) })
    (draws : call.draws .signal)
    (ran : outcome (draw change) state = (.ok value, after)) :
    state.Drawn overrides [call] after := by
  refine drawn_of_draw (fun recorder drawn changed => ?_) ran
  obtain rfl | ⟨signal, rfl⟩ := signals recorder drawn changed
  · exact .refl
  · exact .single (.signal recorder signal draws)

theorem Eval.drawn_of_marker {kind : MarkerKind} {arguments : Arguments}
    (draws : call.draws .shape)
    (ran : outcome (draw (·.marker state.memory.barIndex kind arguments)) state =
      (.ok value, after)) : state.Drawn overrides [call] after := by
  refine drawn_of_draw (fun recorder drawn changed => ?_) ran
  obtain rfl | ⟨shape, rfl⟩ := Recorder.of_marker_ok changed
  · exact .refl
  · exact .single (.shape recorder shape draws)

end Draw

theorem Builtin.apply_drawsOnce {builtin : Builtin} (context : Context)
    (sources : List (Series Float)) (call : Call) {arguments : Arguments}
    (called : Builtin.ofName? call.function = some builtin)
    (passes : builtin = .plot → ∀ title, arguments.string? 1 "title" = .ok title →
      call.Passes title) :
    Eval.DrawsOnce context.overrides [call]
      (builtin.apply context call.site sources arguments) := by
  have draws {drawing : Drawing} (drawn : Drawing.ofBuiltin? builtin = some drawing) :
      call.draws drawing := decide_eq_true (Drawing.mem_functions called drawn)
  intro state value after ran
  unfold Builtin.apply at ran
  split at ran
  · have settled : Eval.DrawsOnce context.overrides [] (Eval.indicator builtin call.site sources
        arguments) :=
      Eval.drawsOnce_of_moves (Eval.indicator_moves builtin call.site sources arguments
        fun _ _ => ⟨rfl, rfl⟩)
    exact (settled.mono List.nil_subperm) state value after ran
  · obtain ⟨_, _, read, ran⟩ := Eval.of_outcome_bind_ok ran
    cases read
    split at ran
    case h_1 =>
      refine Eval.drawn_of_draw (fun recorder drawn changed => ?_) ran
      obtain ⟨number, title, color, width, passed, rfl⟩ := Recorder.of_plot_ok changed
      exact .single (.plot recorder number title color width (draws rfl) (passes rfl title passed))
    case h_2 =>
      refine Eval.drawn_of_draw (fun recorder drawn changed => ?_) ran
      obtain rfl | ⟨fresh, line, rfl⟩ := Recorder.of_line_ok changed
      · exact .refl
      · exact .single (.line recorder line (draws rfl) fresh)
    case h_3 | h_4 => exact Eval.drawn_of_marker (draws rfl) ran
    case h_5 =>
      refine Eval.drawn_of_draw (fun recorder drawn changed => ?_) ran
      obtain rfl | ⟨color, rfl⟩ := Recorder.of_background_ok changed
      · exact .refl
      · exact .single (.background recorder color (draws rfl))
    case h_6 =>
      refine Eval.drawn_of_draw (fun recorder drawn changed => ?_) ran
      obtain ⟨title, message, triggered, rfl⟩ := Recorder.of_alert_ok changed
      exact .single (.alert recorder title message triggered (draws rfl))
    case h_7 => exact Eval.drawn_of_signals (fun _ _ => Recorder.of_entry_ok) (draws rfl) ran
    case h_8 | h_9 | h_10 =>
      exact Eval.drawn_of_signals (fun _ _ => Recorder.of_signal_ok) (draws rfl) ran
    case h_11 =>
      rw [Eval.outcome_input] at ran
      rcases offered : arguments.input context.target call.site with failure | ⟨name, default⟩
      · rw [offered] at ran
        cases ran
      · rw [offered] at ran
        cases ran
        exact ⟨rfl, [call], .refl _, .cons (.input _ name default (draws rfl)) (.nil _)⟩
    case h_12 => exact (Eval.drawsOnce_lift _).mono List.nil_subperm state value after ran

mutual

theorem Expr.evaluate_drawsOnce (context : Context) :
    (expr : Expr) → Eval.DrawsOnce context.overrides expr.calls (expr.evaluate context)
  | .number _ _ | .string _ _ | .boolean _ _ | .color _ _ => Eval.drawsOnce_pure _
  | .name path _ => Eval.drawsOnce_of_moves (Eval.load_moves path)
  | .member _ _ _ => Eval.drawsOnce_throw _
  | .history series offset site _ => by
    have offsetDraws := offset.evaluate_drawsOnce context
    have seriesDraws := series.evaluate_drawsOnce context
    refine Eval.DrawsOnce.mono ?_ List.perm_append_comm.subperm
    refine Eval.drawsOnce_bind offsetDraws fun offsetValue => ?_
    refine Eval.drawsOnce_quiet_bind ?_ fun bars => ?_
    · exact Eval.drawsOnce_of_moves (Eval.historyBars_moves series offsetValue)
    · exact Eval.drawsOnce_bind_quiet (Eval.operand_drawsOnce site .first series seriesDraws)
        fun _ => Eval.drawsOnce_pure _
  | .unary _ operand _ =>
    Eval.drawsOnce_bind_quiet (operand.evaluate_drawsOnce context) fun _ => Eval.drawsOnce_lift _
  | .binary left op right _ =>
    Eval.drawsOnce_bind (left.evaluate_drawsOnce context) fun value =>
      Eval.binary_drawsOnce op value (right.evaluate_drawsOnce context)
  | .ternary condition whenTrue whenFalse _ => by
    have trueDraws := whenTrue.evaluate_drawsOnce context
    have falseDraws := whenFalse.evaluate_drawsOnce context
    unfold Expr.calls
    rw [List.append_assoc]
    refine Eval.drawsOnce_bind (condition.evaluate_drawsOnce context) fun value => ?_
    refine Eval.drawsOnce_quiet_bind (Eval.drawsOnce_lift _) fun truth => ?_
    cases truth with
    | false => exact falseDraws.mono (List.sublist_append_right _ _).subperm
    | true => exact trueDraws.mono (List.sublist_append_left _ _).subperm
  | .call call _ => call.evaluate_drawsOnce context

/-- The arguments that are read as series and the others are together the arguments of the call. -/
theorem Call.evaluate_drawsOnce (context : Context) :
    (call : Call) → Eval.DrawsOnce context.overrides (call :: call.inner) (call.evaluate context)
  | .mk function site arguments named => by
    have namedDraws := NamedArgument.evaluateAll_drawsOnce context named
    unfold Call.evaluate
    cases called : Builtin.ofName? function with
    | none => exact Eval.drawsOnce_throw _
    | some builtin =>
      have parts : (Expr.callsOfAll (arguments.take builtin.operands.length) ++
          (Expr.callsOfAll (arguments.drop builtin.seriesArity) ++
            (NamedArgument.callsOfAll named ++ [Call.mk function site arguments named]))).Perm
          (Call.mk function site arguments named ::
            (Call.mk function site arguments named).inner) := by
        unfold Call.inner
        rw [builtin.length_operands, ← List.append_assoc, ← List.append_assoc,
          Expr.callsOfAll_eq_flatMap, Expr.callsOfAll_eq_flatMap, Expr.callsOfAll_eq_flatMap,
          ← List.flatMap_append, List.take_append_drop]
        exact List.perm_append_comm
      refine Eval.DrawsOnce.mono ?_ parts.subperm
      refine Eval.drawsOnce_bind ?_ fun sources => ?_
      · exact Expr.evaluateSources_drawsOnce context function site _ arguments
      refine Eval.drawsOnce_bind_yields ?_ fun values given => ?_
      · exact Expr.evaluatePositional_drawsOnce context _ arguments
      refine Eval.drawsOnce_bind_yields namedDraws fun namedValues namedGiven => ?_
      refine Builtin.apply_drawsOnce context sources (.mk function site arguments named) called ?_
      rintro rfl title passed
      exact Call.passes_of_string? (Expr.evaluatePositional_gives given)
        (NamedArgument.evaluateAll_gives namedGiven) passed

theorem Expr.evaluateSources_drawsOnce (context : Context) (function : String) (site : Nat) :
    (operands : List Operand) → (arguments : List Expr) →
      Eval.DrawsOnce context.overrides (Expr.callsOfAll (arguments.take operands.length))
        (Expr.evaluateSources context function site operands arguments)
  | [], [] | [], _ :: _ => Eval.drawsOnce_pure _
  | _ :: _, [] => Eval.drawsOnce_throw _
  | operand :: operands, argument :: arguments => by
    have draws := argument.evaluate_drawsOnce context
    have others := Expr.evaluateSources_drawsOnce context function site operands arguments
    exact Eval.drawsOnce_bind (Eval.operand_drawsOnce site operand argument draws)
      fun _ => Eval.drawsOnce_bind_quiet others fun _ => Eval.drawsOnce_pure _

theorem Expr.evaluatePositional_drawsOnce (context : Context) :
    (skipped : Nat) → (arguments : List Expr) →
      Eval.DrawsOnce context.overrides (Expr.callsOfAll (arguments.drop skipped))
        (Expr.evaluatePositional context skipped arguments)
  | 0, [] | _ + 1, [] => Eval.drawsOnce_pure _
  | skipped + 1, _ :: arguments =>
    Eval.drawsOnce_bind_quiet (Expr.evaluatePositional_drawsOnce context skipped arguments)
      fun _ => Eval.drawsOnce_pure _
  | 0, argument :: arguments => by
    have others := Expr.evaluatePositional_drawsOnce context 0 arguments
    exact Eval.drawsOnce_bind (argument.evaluate_drawsOnce context)
      fun _ => Eval.drawsOnce_bind_quiet others fun _ => Eval.drawsOnce_pure _

theorem NamedArgument.evaluateAll_drawsOnce (context : Context) :
    (arguments : List NamedArgument) →
      Eval.DrawsOnce context.overrides (NamedArgument.callsOfAll arguments)
        (NamedArgument.evaluateAll context arguments)
  | [] => Eval.drawsOnce_pure _
  | .mk _ argument _ :: arguments => by
    have others := NamedArgument.evaluateAll_drawsOnce context arguments
    exact Eval.drawsOnce_bind (argument.evaluate_drawsOnce context)
      fun _ => Eval.drawsOnce_bind_quiet others fun _ => Eval.drawsOnce_pure _

end

/-! ## Statements and recorders -/

theorem Declaration.evaluate_drawsOnce (declaration : Declaration)
    (overrides : Table String Float) :
    Eval.DrawsOnce overrides declaration.call.inner (declaration.evaluate overrides) := by
  obtain ⟨kind, ⟨function, site, arguments, named⟩, span⟩ := declaration
  refine Eval.drawsOnce_bind ?_ fun values => Eval.drawsOnce_bind_quiet ?_ fun namedValues => ?_
  · exact Expr.evaluatePositional_drawsOnce ⟨overrides, none⟩ 0 arguments
  · exact NamedArgument.evaluateAll_drawsOnce ⟨overrides, none⟩ named
  · refine Eval.drawsOnce_quiet_bind (Eval.drawsOnce_lift _) fun title => ?_
    exact Eval.drawsOnce_quiet_bind (Eval.drawsOnce_lift _) fun _ => Eval.drawsOnce_pure _

theorem Eval.store_drawsOnce (overrides : Table String Float) (name : String) (value : Value) :
    Eval.DrawsOnce overrides [] (Eval.store name value) := by
  intro state result after ran
  rw [Eval.outcome_store] at ran
  cases stored : state.memory.store name value with
  | error failure =>
    rw [stored] at ran
    cases ran
  | ok memory =>
    rw [stored] at ran
    cases ran
    exact .quiet (@RunState.StatementStep.store overrides state name value memory stored).bars rfl

/-- At most one branch is executed. -/
theorem Statement.execute_drawsOnce (overrides : Table String Float) (statement : Statement) :
    Eval.DrawsOnce overrides statement.calls (statement.execute overrides) := by
  induction statement with
  | assign name value _ =>
    exact Eval.drawsOnce_bind_quiet (value.evaluate_drawsOnce ⟨overrides, some name⟩)
      fun assigned => Eval.store_drawsOnce overrides name assigned
  | expression value _ =>
    exact Eval.drawsOnce_bind_quiet (value.evaluate_drawsOnce ⟨overrides, none⟩)
      fun _ => Eval.drawsOnce_pure _
  | ifThen condition _ _ thenDraws =>
    refine Eval.drawsOnce_bind (condition.evaluate_drawsOnce ⟨overrides, none⟩) fun value => ?_
    refine Eval.drawsOnce_quiet_bind (Eval.drawsOnce_lift _) fun truth => ?_
    cases truth with
    | false => exact (Eval.drawsOnce_pure _).mono List.nil_subperm
    | true => exact thenDraws
  | ifThenElse condition _ _ _ thenDraws elseDraws =>
    unfold Statement.calls
    rw [List.append_assoc]
    refine Eval.drawsOnce_bind (condition.evaluate_drawsOnce ⟨overrides, none⟩) fun value => ?_
    refine Eval.drawsOnce_quiet_bind (Eval.drawsOnce_lift _) fun truth => ?_
    cases truth with
    | false => exact elseDraws.mono (List.sublist_append_right _ _).subperm
    | true => exact thenDraws.mono (List.sublist_append_left _ _).subperm

theorem executeAll_drawsOnce (overrides : Table String Float) (statements : List Statement) :
    Eval.DrawsOnce overrides (statements.flatMap Statement.calls)
      (executeAll overrides statements) := by
  induction statements with
  | nil => exact Eval.drawsOnce_pure _
  | cons statement rest ih =>
    exact Eval.drawsOnce_bind (statement.execute_drawsOnce overrides) fun _ => ih

theorem Script.heading_drawsOnce (script : Script) (overrides : Table String Float) :
    Eval.DrawsOnce overrides (script.program.declaration.elim [] (·.call.inner))
      (script.heading overrides) := by
  unfold heading
  cases script.program.declaration with
  | none => exact Eval.drawsOnce_pure _
  | some declaration => exact declaration.evaluate_drawsOnce overrides

section Keeping

/-! What every call keeps that can draw is kept. -/

variable {overrides : Table String Float} {calls : List Call} (property : Recorder → Prop)

theorem Recorder.DrawnBy.keeps {bar bars : Nat} {first last : Recorder}
    (drawn : DrawnBy overrides bar bars calls first last)
    (steps : ∀ call ∈ calls, ∀ recorder next, StepOf overrides bar bars call recorder next →
      property recorder → property next) (holds : property first) : property last := by
  induction drawn with
  | nil => exact holds
  | cons step _ ih =>
    exact ih (fun call member => steps call (List.mem_cons_of_mem _ member))
      (steps _ List.mem_cons_self _ _ step holds)

theorem RunState.Drawn.keeps {before after : RunState} (drawn : before.Drawn overrides calls after)
    (steps : ∀ call ∈ calls, ∀ bar bars recorder next,
      Recorder.StepOf overrides bar bars call recorder next → property recorder → property next)
    (holds : property before.recorder) : property after.recorder := by
  obtain ⟨_, made, among, drawn⟩ := drawn
  exact drawn.keeps property (fun call member => steps call (among.subset member) _ _) holds

end Keeping

namespace Script

section Keeping

/-! What bars keep that are opened, and every call of the program, holds when a run ends. -/

variable (script : Script) {overrides : Table String Float} (property : Recorder → Prop)
  (opens : ∀ recorder, property recorder → property recorder.openBar)
  (steps : ∀ call ∈ script.program.calls, ∀ bar bars recorder next,
    Recorder.StepOf overrides bar bars call recorder next → property recorder → property next)

include steps

theorem heading_recorder {heading : String × Bool} {state final : RunState}
    (ran : Eval.outcome (script.heading overrides) state = (.ok heading, final))
    (holds : property state.recorder) : property final.recorder :=
  (script.heading_drawsOnce overrides _ _ _ ran).keeps property
    (fun call member => steps call (List.mem_append_left _ member)) holds

include opens

theorem runBars_recorder {candles : List Candle} {state final : RunState}
    (ran : Eval.outcome (script.runBars overrides candles) state = (.ok (), final))
    (holds : property state.recorder) : property final.recorder := by
  induction candles generalizing state with
  | nil =>
    cases ran
    exact holds
  | cons candle newer ih =>
    obtain ⟨after, executed, ran⟩ := Eval.of_runBars_cons_ok ran
    refine ih ran ((executeAll_drawsOnce overrides _ _ _ _ executed).keeps property
      (fun call member => steps call (List.mem_append_right _ member)) ?_)
    exact opens state.recorder holds

theorem runWindow_recorder {candles : List Candle} {heading : String × Bool} {final : RunState}
    (ran : Eval.outcome (script.runWindow overrides candles) script.initial =
      (.ok heading, final)) (holds : property script.initial.recorder) :
    property final.recorder := by
  cases candles with
  | nil => exact script.heading_recorder property steps ran holds
  | cons oldest newer =>
    obtain ⟨declared, first, headed, executed, ran⟩ := Eval.of_runWindow_cons_ok ran
    refine script.runBars_recorder property opens steps ran
      ((executeAll_drawsOnce overrides _ _ _ _ executed).keeps property
        (fun call member => steps call (List.mem_append_right _ member)) ?_)
    exact script.heading_recorder property steps headed (opens script.initial.recorder holds)

end Keeping

end Script

end ChartScript
