import ChartScript.Proofs.Outcome

/-!
# Steps of an evaluation

Everything an evaluation can do to its state, as one relation. `Recorder.Step` is what one call
draws on a bar, and at most one such step comes from a call. `RunState.Step` adds what expressions
remember for their sites, and `RunState.StatementStep` the assignments. A bar never changes while
it is evaluated: the steps name it, and none of them opens another one.
-/

set_option autoImplicit false

namespace ChartScript

open Relation

namespace Recorder

/-- What one call draws on a bar that comes as the last of some bars. -/
inductive Step (overrides : Table String Float) (bar bars : Nat) : Recorder → Recorder → Prop
  | plot (recorder : Recorder) (site : Nat) (value : Float) (title : Option String)
      (color : Option Color) (width : Option Float) :
      Step overrides bar bars recorder { recorder with
        plots := Table.modify recorder.plots site (updatePlot · value title color width) }
  | line (recorder : Recorder) (site : Nat) (line : HorizontalLine)
      (fresh : Table.get? recorder.lines site = none) :
      Step overrides bar bars recorder { recorder with lines := recorder.lines ++ [(site, line)] }
  | shape (recorder : Recorder) (shape : Shape) :
      Step overrides bar bars recorder { recorder with
        shapes := recorder.shapes.push (bar, shape) }
  | background (recorder : Recorder) (color : Color) :
      Step overrides bar bars recorder { recorder with
        backgrounds := recorder.backgrounds.push (bar, color) }
  | alert (recorder : Recorder) (site : Nat) (title message : String) (triggered : Bool) :
      Step overrides bar bars recorder { recorder with
        alerts := Table.modify
          (Table.setNew recorder.alerts site ⟨title, message, List.replicate bars false⟩) site
          (setTriggered · triggered) }
  | signal (recorder : Recorder) (signal : Signal) :
      Step overrides bar bars recorder { recorder with
        signals := recorder.signals.push (bar, signal) }
  | input (recorder : Recorder) (name : String) (default : Float) :
      Step overrides bar bars recorder (recorder.input overrides name default).2

section Calls

variable {recorder drawn : Recorder} {arguments : Arguments}

theorem of_plot_ok {site : Nat} (ran : recorder.plot site arguments = .ok drawn) :
    ∃ value title color width, arguments.string? 1 "title" = .ok title ∧
      drawn = { recorder with
        plots := Table.modify recorder.plots site (updatePlot · value title color width) } := by
  obtain ⟨value, _, ran⟩ := of_bind_ok ran
  obtain ⟨title, titled, ran⟩ := of_bind_ok ran
  obtain ⟨color, _, ran⟩ := of_bind_ok ran
  obtain ⟨width, _, ran⟩ := of_bind_ok ran
  cases ran
  exact ⟨value, title, color, width, titled, rfl⟩

theorem of_line_ok {site : Nat} (ran : recorder.line site arguments = .ok drawn) :
    drawn = recorder ∨ Table.get? recorder.lines site = none ∧
      ∃ line, drawn = { recorder with lines := recorder.lines ++ [(site, line)] } := by
  simp only [line] at ran
  cases found : Table.get? recorder.lines site with
  | some known =>
    rw [found] at ran
    cases ran
    exact .inl rfl
  | none =>
    rw [found] at ran
    obtain ⟨price, _, ran⟩ := of_bind_ok ran
    obtain ⟨title, _, ran⟩ := of_bind_ok ran
    obtain ⟨color, _, ran⟩ := of_bind_ok ran
    obtain ⟨style, _, ran⟩ := of_bind_ok ran
    cases ran
    exact .inr ⟨rfl, _, rfl⟩

theorem of_marker_ok {bar : Nat} {kind : MarkerKind}
    (ran : recorder.marker bar kind arguments = .ok drawn) :
    drawn = recorder ∨
      ∃ shape, drawn = { recorder with shapes := recorder.shapes.push (bar, shape) } := by
  obtain ⟨condition, _, ran⟩ := of_bind_ok ran
  obtain ⟨holds, _, ran⟩ := of_bind_ok ran
  cases holds with
  | false =>
    cases ran
    exact .inl rfl
  | true =>
    obtain ⟨style, _, ran⟩ := of_bind_ok ran
    obtain ⟨location, _, ran⟩ := of_bind_ok ran
    obtain ⟨color, _, ran⟩ := of_bind_ok ran
    cases ran
    exact .inr ⟨_, rfl⟩

theorem of_background_ok {bar : Nat} (ran : recorder.background bar arguments = .ok drawn) :
    drawn = recorder ∨
      ∃ color, drawn = { recorder with backgrounds := recorder.backgrounds.push (bar, color) } := by
  obtain ⟨_, _, ran⟩ := of_bind_ok ran
  obtain ⟨color, _, ran⟩ := of_bind_ok ran
  cases color with
  | none =>
    cases ran
    exact .inl rfl
  | some color =>
    cases ran
    exact .inr ⟨color, rfl⟩

theorem of_alert_ok {site bars : Nat} (ran : recorder.alert site bars arguments = .ok drawn) :
    ∃ title message triggered, drawn = { recorder with
      alerts := Table.modify
        (Table.setNew recorder.alerts site ⟨title, message, List.replicate bars false⟩) site
        (setTriggered · triggered) } := by
  obtain ⟨⟨triggered, title, message⟩, _, ran⟩ := of_bind_ok ran
  cases ran
  exact ⟨title, message, triggered, rfl⟩

theorem addSignal_cases (recorder : Recorder) (bar : Nat) (signal : Signal) (holds : Bool) :
    recorder.addSignal bar signal holds = recorder ∨
      ∃ added, recorder.addSignal bar signal holds =
        { recorder with signals := recorder.signals.push (bar, added) } := by
  cases holds with
  | false => exact .inl rfl
  | true => exact .inr ⟨signal, rfl⟩

theorem of_entry_ok {bar : Nat} (ran : recorder.entry bar arguments = .ok drawn) :
    drawn = recorder ∨
      ∃ signal, drawn = { recorder with signals := recorder.signals.push (bar, signal) } := by
  obtain ⟨id, _, ran⟩ := of_bind_ok ran
  cases id with
  | none => cases ran
  | some id =>
    obtain ⟨direction, _, ran⟩ := of_bind_ok ran
    obtain ⟨kind, _, ran⟩ := of_bind_ok ran
    obtain ⟨holds, _, ran⟩ := of_bind_ok ran
    cases ran
    exact addSignal_cases recorder bar _ _

theorem of_signal_ok {bar : Nat} {kind : SignalKind}
    (ran : recorder.signal bar kind arguments = .ok drawn) :
    drawn = recorder ∨
      ∃ signal, drawn = { recorder with signals := recorder.signals.push (bar, signal) } := by
  obtain ⟨namedId, _, ran⟩ := of_bind_ok ran
  obtain ⟨namedHolds, _, ran⟩ := of_bind_ok ran
  obtain ⟨⟨id, holds⟩, _, ran⟩ := of_bind_ok ran
  cases ran
  exact addSignal_cases recorder bar _ _

end Calls

variable {overrides : Table String Float} {bar bars : Nat}

/-- What is drawn by a call takes at most one step. -/
def Draws (overrides : Table String Float) (bar bars : Nat)
    (draw : Recorder → Except RunError Recorder) : Prop :=
  ∀ recorder drawn, draw recorder = .ok drawn → ReflGen (Step overrides bar bars) recorder drawn

theorem plot_draws (site : Nat) (arguments : Arguments) :
    Draws overrides bar bars (·.plot site arguments) := by
  intro recorder drawn ran
  obtain ⟨value, title, color, width, _, rfl⟩ := of_plot_ok ran
  exact .single (.plot recorder site value title color width)

theorem line_draws (site : Nat) (arguments : Arguments) :
    Draws overrides bar bars (·.line site arguments) := by
  intro recorder drawn ran
  obtain rfl | ⟨fresh, line, rfl⟩ := of_line_ok ran
  · exact .refl
  · exact .single (.line recorder site line fresh)

theorem marker_draws (kind : MarkerKind) (arguments : Arguments) :
    Draws overrides bar bars (·.marker bar kind arguments) := by
  intro recorder drawn ran
  obtain rfl | ⟨shape, rfl⟩ := of_marker_ok ran
  · exact .refl
  · exact .single (.shape recorder shape)

theorem background_draws (arguments : Arguments) :
    Draws overrides bar bars (·.background bar arguments) := by
  intro recorder drawn ran
  obtain rfl | ⟨color, rfl⟩ := of_background_ok ran
  · exact .refl
  · exact .single (.background recorder color)

theorem alert_draws (site : Nat) (arguments : Arguments) :
    Draws overrides bar bars (·.alert site bars arguments) := by
  intro recorder drawn ran
  obtain ⟨title, message, triggered, rfl⟩ := of_alert_ok ran
  exact .single (.alert recorder site title message triggered)

theorem signals_draw {draw : Recorder → Except RunError Recorder}
    (signals : ∀ recorder drawn, draw recorder = .ok drawn → drawn = recorder ∨
      ∃ signal, drawn = { recorder with signals := recorder.signals.push (bar, signal) }) :
    Draws overrides bar bars draw := by
  intro recorder drawn ran
  obtain rfl | ⟨signal, rfl⟩ := signals recorder drawn ran
  · exact .refl
  · exact .single (.signal recorder signal)

theorem entry_draws (arguments : Arguments) :
    Draws overrides bar bars (·.entry bar arguments) :=
  signals_draw fun _ _ => of_entry_ok

theorem signal_draws (kind : SignalKind) (arguments : Arguments) :
    Draws overrides bar bars (·.signal bar kind arguments) :=
  signals_draw fun _ _ => of_signal_ok

end Recorder

/-! ## Expressions -/

/-- What expressions do to the state of a run. -/
inductive RunState.Step (overrides : Table String Float) : RunState → RunState → Prop
  | operand (state : RunState) (site : Nat) (operand : Operand) (value : Float) :
      Step overrides state { state with memory := state.memory.setOperand site operand value }
  | result (state : RunState) (site : Nat) (value : Float) :
      Step overrides state { state with memory := state.memory.setResult site value }
  | draw (state : RunState) (recorder : Recorder)
      (drawn : Recorder.Step overrides state.memory.barIndex state.memory.bars.length
        state.recorder recorder) :
      Step overrides state { state with recorder := recorder }

inductive RunState.StatementStep (overrides : Table String Float) : RunState → RunState → Prop
  | expression (before after : RunState) (step : RunState.Step overrides before after) :
      StatementStep overrides before after
  | store (state : RunState) (name : String) (value : Value) (memory : Memory)
      (stored : state.memory.store name value = .ok memory) :
      StatementStep overrides state { state with memory := memory }

theorem RunState.Step.bars {overrides : Table String Float} {before after : RunState}
    (step : RunState.Step overrides before after) : after.memory.bars = before.memory.bars := by
  cases step <;> rfl

theorem RunState.StatementStep.bars {overrides : Table String Float} {before after : RunState}
    (step : RunState.StatementStep overrides before after) :
    after.memory.bars = before.memory.bars := by
  cases step with
  | expression _ step => exact step.bars
  | store name value memory stored =>
    simp only [Memory.store] at stored
    split at stored
    · cases stored
    · obtain ⟨slot, _, stored⟩ := of_bind_ok stored
      cases stored
      rfl

namespace Eval

variable {overrides : Table String Float}

theorem draw_step (change : Recorder → Except RunError Recorder) (state : RunState)
    (draws : Recorder.Draws overrides state.memory.barIndex state.memory.bars.length change) :
    ReflTransGen (RunState.Step overrides) state (outcome (draw change) state).2 := by
  rw [outcome_draw]
  cases drawn : change state.recorder with
  | error error => exact .refl
  | ok recorder =>
    cases draws _ _ drawn with
    | refl => exact .refl
    | single step => exact .single (.draw state recorder step)

section AnyStep

/-! Evaluations that draw nothing of their own move by any steps that let indicators settle. -/

variable {step : RunState → RunState → Prop}

theorem load_moves (name : String) : Moves step (load name) := by
  refine moves_bind _ _ moves_memory fun memory => ?_
  cases memory.load? name <|> Value.constant? name with
  | some value => exact moves_pure value
  | none => exact moves_throw _

theorem historyBars_moves (series : Expr) (offset : Value) :
    Moves step (historyBars series offset) := by
  refine moves_bind _ _ (moves_lift _) fun number => ?_
  refine moves_bind _ _ (moves_lift _) fun bars => ?_
  refine moves_bind _ _ moves_memory fun memory => ?_
  exact moves_bind _ _ (moves_lift _) fun _ => moves_pure bars

theorem indicator_moves (builtin : Builtin) (site : Nat) (sources : List (Series Float))
    (arguments : Arguments)
    (settles : ∀ state result,
      step state { state with memory := state.memory.setResult site result }) :
    Moves step (Eval.indicator builtin site sources arguments) := by
  have settled : ∀ result, Moves step (settle site result) := fun result =>
    moves_bind _ _ (moves_modify _ fun state => settles state result) fun _ => moves_pure _
  unfold Eval.indicator
  split
  · refine moves_bind _ _ (moves_lift _) fun length => ?_
    exact moves_bind _ _ moves_memory fun memory => settled _
  · split
    · exact moves_bind _ _ (moves_lift _) fun length => settled _
    · exact moves_bind _ _ (moves_pure 1) fun length => settled _
  · exact moves_pure _
  · exact moves_pure _
  · split
    · exact moves_bind _ _ (moves_lift _) fun length => settled _
    · exact moves_pure _

end AnyStep

theorem operand_moves (site : Nat) (operand : Operand) (expr : Expr) (evaluated : Eval Value)
    (evaluatedMoves : Moves (RunState.Step overrides) evaluated) :
    Moves (RunState.Step overrides) (Eval.operand site operand expr evaluated) := by
  refine moves_bind _ _ moves_memory fun memory => ?_
  cases memory.namedSeries? expr with
  | some series => exact moves_pure series
  | none =>
    refine moves_bind _ _ evaluatedMoves fun value => ?_
    refine moves_bind _ _ (moves_lift _) fun number => ?_
    refine moves_bind _ _ (moves_modify _ fun state => .operand state site operand number) ?_
    exact fun _ => moves_bind _ _ moves_memory fun _ => moves_pure _

theorem input_moves (context : Context) (site : Nat) (arguments : Arguments) :
    Moves (RunState.Step context.overrides) (Eval.input context site arguments) := by
  refine moves_bind _ _ (moves_lift _) fun offer => ?_
  refine moves_get_bind _ fun state => ?_
  exact .single (.draw state _ (.input state.recorder offer.1 offer.2))

theorem binary_moves (op : BinaryOp) (left : Value) (right : Eval Value)
    (rightMoves : Moves (RunState.Step overrides) right) :
    Moves (RunState.Step overrides) (Eval.binary op left right) := by
  unfold Eval.binary
  split
  · refine moves_bind _ _ (moves_lift _) fun truth => ?_
    split
    · exact moves_pure _
    · refine moves_bind _ _ rightMoves fun rightValue => ?_
      exact moves_bind _ _ (moves_lift _) fun _ => moves_pure _
  · exact moves_bind _ _ rightMoves fun _ => moves_lift _

end Eval

theorem Builtin.apply_moves (builtin : Builtin) (context : Context) (site : Nat)
    (sources : List (Series Float)) (arguments : Arguments) :
    Eval.Moves (RunState.Step context.overrides)
      (builtin.apply context site sources arguments) := by
  unfold Builtin.apply
  split
  · exact Eval.indicator_moves builtin site sources arguments fun state => .result state site
  · refine Eval.moves_memory_bind _ fun state => ?_
    split
    · exact Eval.draw_step _ state (Recorder.plot_draws site arguments)
    · exact Eval.draw_step _ state (Recorder.line_draws site arguments)
    · exact Eval.draw_step _ state (Recorder.marker_draws .shape arguments)
    · exact Eval.draw_step _ state (Recorder.marker_draws .character arguments)
    · exact Eval.draw_step _ state (Recorder.background_draws arguments)
    · exact Eval.draw_step _ state (Recorder.alert_draws site arguments)
    · exact Eval.draw_step _ state (Recorder.entry_draws arguments)
    · exact Eval.draw_step _ state (Recorder.signal_draws .long arguments)
    · exact Eval.draw_step _ state (Recorder.signal_draws .short arguments)
    · exact Eval.draw_step _ state (Recorder.signal_draws .close arguments)
    · exact Eval.input_moves context site arguments state
    · exact Eval.moves_lift _ state

mutual

theorem Expr.evaluate_moves (context : Context) :
    (expr : Expr) → Eval.Moves (RunState.Step context.overrides) (expr.evaluate context)
  | .number _ _ | .string _ _ | .boolean _ _ | .color _ _ => Eval.moves_pure _
  | .name path _ => Eval.load_moves path
  | .member _ _ _ => Eval.moves_throw _
  | .history series offset site _ => by
    refine Eval.moves_bind _ _ (offset.evaluate_moves context) fun offsetValue => ?_
    refine Eval.moves_bind _ _ (Eval.historyBars_moves series offsetValue) fun bars => ?_
    refine Eval.moves_bind _ _ ?_ fun values => Eval.moves_pure _
    exact Eval.operand_moves site .first series _ (series.evaluate_moves context)
  | .unary op operand _ =>
    Eval.moves_bind _ _ (operand.evaluate_moves context) fun _ => Eval.moves_lift _
  | .binary left op right _ => by
    refine Eval.moves_bind _ _ (left.evaluate_moves context) fun leftValue => ?_
    exact Eval.binary_moves op leftValue _ (right.evaluate_moves context)
  | .ternary condition whenTrue whenFalse _ => by
    refine Eval.moves_bind _ _ (condition.evaluate_moves context) fun value => ?_
    refine Eval.moves_bind _ _ (Eval.moves_lift _) fun truth => ?_
    split
    · exact whenTrue.evaluate_moves context
    · exact whenFalse.evaluate_moves context
  | .call call _ => call.evaluate_moves context

theorem Call.evaluate_moves (context : Context) :
    (call : Call) → Eval.Moves (RunState.Step context.overrides) (call.evaluate context)
  | .mk function site arguments named => by
    unfold Call.evaluate
    split
    · exact Eval.moves_throw _
    · refine Eval.moves_bind _ _ ?_ fun sources => ?_
      · exact Expr.evaluateSources_moves context function site _ arguments
      refine Eval.moves_bind _ _ ?_ fun positional => ?_
      · exact Expr.evaluatePositional_moves context _ arguments
      refine Eval.moves_bind _ _ (NamedArgument.evaluateAll_moves context named) fun _ => ?_
      exact Builtin.apply_moves _ context site sources _

theorem Expr.evaluateSources_moves (context : Context) (function : String) (site : Nat) :
    (operands : List Operand) → (arguments : List Expr) →
      Eval.Moves (RunState.Step context.overrides)
        (Expr.evaluateSources context function site operands arguments)
  | [], [] | [], _ :: _ => Eval.moves_pure _
  | _ :: _, [] => Eval.moves_throw _
  | operand :: operands, argument :: arguments => by
    refine Eval.moves_bind _ _ ?_ fun series => ?_
    · exact Eval.operand_moves site operand argument _ (argument.evaluate_moves context)
    refine Eval.moves_bind _ _ ?_ fun others => Eval.moves_pure _
    exact Expr.evaluateSources_moves context function site operands arguments

theorem Expr.evaluatePositional_moves (context : Context) :
    (skipped : Nat) → (arguments : List Expr) →
      Eval.Moves (RunState.Step context.overrides)
        (Expr.evaluatePositional context skipped arguments)
  | _, [] => Eval.moves_pure _
  | skipped + 1, _ :: arguments => by
    refine Eval.moves_bind _ _ ?_ fun others => Eval.moves_pure _
    exact Expr.evaluatePositional_moves context skipped arguments
  | 0, argument :: arguments => by
    refine Eval.moves_bind _ _ (argument.evaluate_moves context) fun value => ?_
    refine Eval.moves_bind _ _ ?_ fun others => Eval.moves_pure _
    exact Expr.evaluatePositional_moves context 0 arguments

theorem NamedArgument.evaluateAll_moves (context : Context) :
    (arguments : List NamedArgument) →
      Eval.Moves (RunState.Step context.overrides) (NamedArgument.evaluateAll context arguments)
  | [] => Eval.moves_pure _
  | .mk _ argument _ :: arguments => by
    refine Eval.moves_bind _ _ (argument.evaluate_moves context) fun value => ?_
    refine Eval.moves_bind _ _ ?_ fun others => Eval.moves_pure _
    exact NamedArgument.evaluateAll_moves context arguments

end

theorem Declaration.evaluate_moves (declaration : Declaration) (overrides : Table String Float) :
    Eval.Moves (RunState.Step overrides) (declaration.evaluate overrides) := by
  refine Eval.moves_bind _ _ ?_ fun positional => ?_
  · exact Expr.evaluatePositional_moves ⟨overrides, none⟩ 0 _
  refine Eval.moves_bind _ _ ?_ fun named => ?_
  · exact NamedArgument.evaluateAll_moves ⟨overrides, none⟩ _
  refine Eval.moves_bind _ _ (Eval.moves_lift _) fun title => ?_
  exact Eval.moves_bind _ _ (Eval.moves_lift _) fun overlay => Eval.moves_pure _

/-! ## Statements -/

theorem Eval.store_moves (overrides : Table String Float) (name : String) (value : Value) :
    Eval.Moves (RunState.StatementStep overrides) (Eval.store name value) := by
  refine Eval.moves_get_bind _ fun state => ?_
  rw [Eval.outcome_bind, Eval.outcome_lift]
  cases stored : state.memory.store name value with
  | error error => exact .refl
  | ok memory => exact .single (.store state name value memory stored)

theorem Expr.evaluate_statementMoves (context : Context) (expr : Expr) :
    Eval.Moves (RunState.StatementStep context.overrides) (expr.evaluate context) :=
  (expr.evaluate_moves context).mono .expression

theorem Statement.execute_moves (overrides : Table String Float) (statement : Statement) :
    Eval.Moves (RunState.StatementStep overrides) (statement.execute overrides) := by
  induction statement with
  | assign name value _ =>
    refine Eval.moves_bind _ _ (value.evaluate_statementMoves ⟨overrides, some name⟩) ?_
    exact fun assigned => Eval.store_moves overrides name assigned
  | expression value _ =>
    refine Eval.moves_bind _ _ (value.evaluate_statementMoves ⟨overrides, none⟩) ?_
    exact fun _ => Eval.moves_pure _
  | ifThen condition _ _ thenMoves =>
    refine Eval.moves_bind _ _ (condition.evaluate_statementMoves ⟨overrides, none⟩) fun value => ?_
    refine Eval.moves_bind _ _ (Eval.moves_lift _) fun truth => ?_
    split
    · exact thenMoves
    · exact Eval.moves_pure _
  | ifThenElse condition _ _ _ thenMoves elseMoves =>
    refine Eval.moves_bind _ _ (condition.evaluate_statementMoves ⟨overrides, none⟩) fun value => ?_
    refine Eval.moves_bind _ _ (Eval.moves_lift _) fun truth => ?_
    split
    · exact thenMoves
    · exact elseMoves

theorem executeAll_moves (overrides : Table String Float) (statements : List Statement) :
    Eval.Moves (RunState.StatementStep overrides) (executeAll overrides statements) := by
  induction statements with
  | nil => exact Eval.moves_pure _
  | cons statement rest ih =>
    exact Eval.moves_bind _ _ (statement.execute_moves overrides) fun _ => ih

end ChartScript
