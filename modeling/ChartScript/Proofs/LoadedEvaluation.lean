import ChartScript.Proofs.EvaluationSteps
import ChartScript.Proofs.LoadedStates

/-!
# Evaluation over a loaded window

On a bar of a loaded window an evaluation that reads columns at indexes gives what the evaluation
gives that knows only the bars so far (`Loaded.Refines`), with the same error where that fails. So
whatever stands on the newer bars, nothing that is evaluated depends on it.
-/

set_option autoImplicit false

namespace ChartScript.Loaded

variable {α β γ δ : Type}

def outcome (evaluation : Eval α) (state : State) : Except RunError α × State :=
  evaluation.run.run state

theorem outcome_bind (first : Eval α) (next : α → Eval β) (state : State) :
    outcome (first >>= next) state =
      match outcome first state with
      | (.ok value, after) => outcome (next value) after
      | (.error error, after) => (.error error, after) := by
  have opened : outcome (first >>= next) state =
      (ExceptT.bindCont next (outcome first state).1).run (outcome first state).2 := rfl
  rw [opened]
  rcases outcome first state with ⟨_ | _, after⟩ <;> rfl

theorem outcome_pure (value : α) (state : State) :
    outcome (pure value) state = (.ok value, state) := rfl

theorem outcome_lift (result : Except RunError α) (state : State) :
    outcome (liftM result) state = (result, state) := rfl

theorem outcome_get (state : State) : outcome get state = (.ok state, state) := rfl

theorem outcome_set (state next : State) : outcome (set next) state = (.ok (), next) := rfl

theorem outcome_draw (change : Recorder → Except RunError Recorder) (state : State) :
    outcome (draw change) state =
      match change state.recorder with
      | .ok recorder => (.ok .na, { state with recorder := recorder })
      | .error error => (.error error, state) := by
  unfold draw
  rw [outcome_bind, outcome_get]
  cases drawn : change state.recorder <;>
    simp only [outcome_bind, outcome_lift, outcome_set, outcome_pure, drawn]

theorem outcome_store (name : String) (value : Value) (state : State) :
    outcome (store name value) state =
      match state.memory.store name value with
      | .ok memory => (.ok (), { state with memory := memory })
      | .error error => (.error error, state) := by
  unfold store
  rw [outcome_bind, outcome_get]
  cases stored : state.memory.store name value <;>
    simp only [outcome_bind, outcome_lift, outcome_set, stored]

/-! ## Refinement -/

section Refinement

variable (window : List Candle) (newer : Nat)

/-- The results of two evaluations: the same error, or values that are related and states of which
one is the other one over the window. -/
inductive Reflects (related : α → β → Prop) :
    Except RunError α × State → Except RunError β × RunState → Prop
  | ok (after : RunState) {shown : α} {value : β} (same : related shown value)
      (fits : after.memory.Fits window newer) :
      Reflects related (.ok shown, after.inWindow window newer) (.ok value, after)
  | error {error : RunError} {stopped : State} {after : RunState} :
      Reflects related (.error error, stopped) (.error error, after)

def Refines (related : α → β → Prop) (first : Eval α) (second : ChartScript.Eval β) : Prop :=
  ∀ state : RunState, state.memory.Fits window newer → Reflects window newer related
    (outcome first (state.inWindow window newer)) (ChartScript.Eval.outcome second state)

end Refinement

section Rules

variable {window : List Candle} {newer : Nat} {related : α → β → Prop} {others : γ → δ → Prop}

theorem Reflects.bind {last : Nat} {first : Eval α} {second : ChartScript.Eval β}
    {next : α → Eval γ} {following : β → ChartScript.Eval δ} {state : State}
    {other : RunState} (reflects : Reflects window newer related (outcome first state)
      (ChartScript.Eval.outcome second other))
    (rest : ∀ shown value, related shown value → ∀ after : RunState,
      after.memory.Fits window newer → Reflects window last others
        (outcome (next shown) (after.inWindow window newer))
        (ChartScript.Eval.outcome (following value) after)) :
    Reflects window last others (outcome (first >>= next) state)
      (ChartScript.Eval.outcome (second >>= following) other) := by
  rw [outcome_bind, ChartScript.Eval.outcome_bind]
  revert reflects
  generalize outcome first state = shown
  generalize ChartScript.Eval.outcome second other = found
  rintro (⟨after, same, fits⟩ | _)
  · exact rest _ _ same after fits
  · exact .error

theorem refines_bind {first : Eval α} {second : ChartScript.Eval β} {next : α → Eval γ}
    {following : β → ChartScript.Eval δ} (refines : Refines window newer related first second)
    (rest : ∀ shown value, related shown value →
      Refines window newer others (next shown) (following value)) :
    Refines window newer others (first >>= next) (second >>= following) :=
  fun state fits => (refines state fits).bind rest

/-- Where both give the same value, the rest is about this value. -/
theorem refines_bind_eq {first : Eval β} {second : ChartScript.Eval β} {next : β → Eval γ}
    {following : β → ChartScript.Eval δ} (refines : Refines window newer Eq first second)
    (rest : ∀ value, Refines window newer others (next value) (following value)) :
    Refines window newer others (first >>= next) (second >>= following) :=
  refines_bind refines fun _ value same => same ▸ rest value

theorem refines_pure {shown : α} {value : β} (same : related shown value) :
    Refines window newer related (pure shown) (pure value) :=
  fun state fits => .ok state same fits

theorem refines_lift (result : Except RunError α) :
    Refines window newer Eq (liftM result) (liftM result) := by
  intro state fits
  rw [outcome_lift, ChartScript.Eval.outcome_lift]
  cases result with
  | error error => exact .error
  | ok value => exact .ok state rfl fits

theorem refines_throw (error : RunError) :
    Refines window newer related (throw error) (throw error) :=
  fun _ _ => .error

theorem refines_memory_bind {next : Memory → Eval γ}
    {following : ChartScript.Memory → ChartScript.Eval δ}
    (rest : ∀ memory : ChartScript.Memory, memory.Fits window newer →
      Refines window newer others (next (memory.inWindow window newer)) (following memory)) :
    Refines window newer others (memory >>= next) (ChartScript.Eval.memory >>= following) :=
  fun state fits => rest state.memory fits state fits

/-- The current bar is asked for on one side only. -/
theorem refines_memory_bind_left {next : Memory → Eval γ} {second : ChartScript.Eval δ}
    (rest : ∀ memory : ChartScript.Memory, memory.Fits window newer →
      Refines window newer others (next (memory.inWindow window newer)) second) :
    Refines window newer others (memory >>= next) second :=
  fun state fits => rest state.memory fits state fits

theorem refines_modify {change : State → State} {other : RunState → RunState}
    (commutes : ∀ state, change (state.inWindow window newer) =
      (other state).inWindow window newer)
    (bars : ∀ state, (other state).memory.bars = state.memory.bars) :
    Refines window newer Eq (modify change : Eval Unit) (modify other) := by
  intro state fits
  have changed : outcome (modify change : Eval Unit) (state.inWindow window newer) =
      (.ok (), (other state).inWindow window newer) :=
    congrArg (Prod.mk (Except.ok ())) (commutes state)
  rw [changed]
  exact .ok (other state) rfl (fits.of_bars (bars state))

theorem refines_ite {condition : Bool} {first other : Eval α}
    {second another : ChartScript.Eval β} (whenTrue : Refines window newer related first second)
    (whenFalse : Refines window newer related other another) :
    Refines window newer related (if condition then first else other)
      (if condition then second else another) := by
  cases condition with
  | false => exact whenFalse
  | true => exact whenTrue

end Rules

section Steps

variable {window : List Candle} {newer : Nat}

theorem load_refines (name : String) :
    Refines window newer Eq (load name) (ChartScript.Eval.load name) := by
  apply refines_memory_bind
  intro memory fits
  rw [Memory.load?_inWindow fits]
  cases memory.load? name <|> Value.constant? name with
  | some value => exact refines_pure rfl
  | none => exact refines_throw _

theorem historyBars_refines (series : Expr) (offset : Value) :
    Refines window newer Eq (historyBars series offset)
      (ChartScript.Eval.historyBars series offset) := by
  apply refines_bind_eq (refines_lift _)
  intro number
  apply refines_bind_eq (refines_lift _)
  intro bars
  apply refines_memory_bind
  intro memory fits
  have same : (memory.inWindow window newer).checkHistory series = memory.checkHistory series := by
    cases series with
    | name path _ =>
      rw [Memory.checkHistory, ChartScript.Memory.checkHistory, Memory.isScalar_inWindow]
    | _ => rfl
  rw [same]
  exact refines_bind_eq (refines_lift _) fun _ => refines_pure rfl

/-- From the current bar back, the column is the series. -/
def IsFrom (newer : Nat) (column : Column) (series : Series Float) : Prop :=
  column.drop newer = series

theorem setOperand_refines (site : Nat) (which : Operand) (number : Float) :
    Refines window newer Eq
      (modify fun state => { state with memory := state.memory.setOperand site which number })
      (modify fun state => { state with memory := state.memory.setOperand site which number }) := by
  apply refines_modify
  · intro state
    exact congrArg (State.mk · _) (Memory.setOperand_inWindow site which number)
  · intro state
    rfl

theorem setResult_refines (site : Nat) (result : Float) :
    Refines window newer Eq
      (modify fun state => { state with memory := state.memory.setResult site result })
      (modify fun state => { state with memory := state.memory.setResult site result }) := by
  apply refines_modify
  · intro state
    exact congrArg (State.mk · _) (Memory.setResult_inWindow site result)
  · intro state
    rfl

theorem operand_refines (site : Nat) (which : Operand) (expr : Expr) {evaluated : Eval Value}
    {other : ChartScript.Eval Value} (refines : Refines window newer Eq evaluated other) :
    Refines window newer (IsFrom newer) (operand site which expr evaluated)
      (ChartScript.Eval.operand site which expr other) := by
  have recorded : Refines window newer (IsFrom newer)
      (evaluated >>= fun value => liftM (value.asNumber "series") >>= fun number => do
        modify fun state => { state with memory := state.memory.setOperand site which number }
        return (← memory).operand site which)
      (other >>= fun value => liftM (value.asNumber "series") >>= fun number => do
        modify fun state => { state with memory := state.memory.setOperand site which number }
        return ((← ChartScript.Eval.memory).site site).operand which) := by
    apply refines_bind_eq refines
    intro value
    apply refines_bind_eq (refines_lift _)
    intro number
    apply refines_bind_eq (setOperand_refines site which number)
    intro _
    apply refines_memory_bind
    intro memory fits
    exact refines_pure (Memory.operand_inWindow site which)
  -- Only a name can have a column of its own. For everything else the site keeps the values.
  apply refines_memory_bind
  intro memory fits
  cases expr with
  | name path _ =>
    have found := Memory.column?_inWindow fits path
    rw [Memory.namedColumn?, ChartScript.Memory.namedSeries?, ← found]
    cases (memory.inWindow window newer).column? path with
    | some column => exact refines_pure rfl
    | none => exact recorded
  | _ => exact recorded

theorem settle_refines (site : Nat) {result other : Float} (same : result = other) :
    Refines window newer Eq (settle site result) (ChartScript.Eval.settle site other) := by
  subst same
  exact refines_bind_eq (setResult_refines site result) fun _ => refines_pure rfl

theorem windowed?_cases (builtin : Builtin) :
    windowed? builtin = none ∧ builtin.windowed? = none ∨
      ∃ atBar windowed, windowed? builtin = some atBar ∧ builtin.windowed? = some windowed ∧
        ∀ column bar length, atBar column bar length = windowed (column.drop bar) length := by
  cases builtin with
  | sma => exact .inr ⟨_, _, rfl, rfl, Column.sma_eq⟩
  | rsi => exact .inr ⟨_, _, rfl, rfl, Column.rsi_eq⟩
  | stdev => exact .inr ⟨_, _, rfl, rfl, Column.stdev_eq⟩
  | highest => exact .inr ⟨_, _, rfl, rfl, Column.highest_eq⟩
  | lowest => exact .inr ⟨_, _, rfl, rfl, Column.lowest_eq⟩
  | _ => exact .inl ⟨rfl, rfl⟩

theorem windowed_refines (builtin : Builtin) (site : Nat) (column : Column)
    (arguments : Arguments) :
    Refines window newer Eq
      (match windowed? builtin with
      | some windowed => do
        let length ← arguments.length 1 "length"
        settle site (windowed column newer length)
      | none => return .na)
      (match builtin.windowed? with
      | some windowed => do
        let length ← arguments.length 1 "length"
        ChartScript.Eval.settle site (windowed (column.drop newer) length)
      | none => return .na) := by
  rcases windowed?_cases builtin with ⟨none, other⟩ | ⟨atBar, windowed, some, other, same⟩
  · rw [none, other]
    exact refines_pure rfl
  · rw [some, other]
    exact refines_bind_eq (refines_lift _) fun length => settle_refines site (same ..)

theorem indicator_refines (builtin : Builtin) (site : Nat) {columns : List Column}
    {sources : List (Series Float)} (found : columns.map (·.drop newer) = sources)
    (arguments : Arguments) :
    Refines window newer Eq (indicator builtin site columns arguments)
      (ChartScript.Eval.indicator builtin site sources arguments) := by
  subst found
  have first : (columns.map (·.drop newer)).headD [] = (columns.headD []).drop newer := by
    cases columns with
    | nil => exact List.drop_nil.symm
    | cons => rfl
  have second : (columns.map (·.drop newer)).tail.headD [] =
      (columns.tail.headD []).drop newer := by
    rcases columns with _ | ⟨_, _ | _⟩
    · exact List.drop_nil.symm
    · exact List.drop_nil.symm
    · rfl
  -- The functions that are left read their column in one way each.
  have windowed := @windowed_refines window newer builtin site (columns.headD []) arguments
  apply refines_memory_bind_left
  intro current _
  unfold ChartScript.Eval.indicator
  rw [first, second]
  cases builtin with
  | ema =>
    apply refines_bind_eq (refines_lift _)
    intro length
    apply refines_memory_bind
    intro memory _
    have same : (columns.headD []).ema newer length
          (((memory.inWindow window newer).result site).value (newer + 1)) =
        Series.ema ((columns.headD []).drop newer) length ((memory.site site).result.before 1) := by
      rw [Column.ema_eq, Column.value_add, Memory.result_inWindow]
    exact settle_refines site same
  | change =>
    cases arguments.get? 1 "length" with
    | some _ =>
      exact refines_bind_eq (refines_lift _) fun length =>
        settle_refines site (Column.change_eq ..)
    | none =>
      exact refines_bind_eq (refines_pure (Eq.refl 1)) fun length =>
        settle_refines site (Column.change_eq ..)
  | crossover => exact refines_pure (congrArg Value.boolean (Column.crossover_eq ..))
  | crossunder => exact refines_pure (congrArg Value.boolean (Column.crossunder_eq ..))
  | _ => exact windowed

theorem draw_refines {change other : Recorder → Except RunError Recorder}
    (commutes : ∀ recorder : Recorder, change (recorder.inWindow window.length newer) =
      Recorder.inWindow window.length newer <$> other recorder) :
    Refines window newer Eq (draw change) (ChartScript.Eval.draw other) := by
  intro state fits
  rw [outcome_draw, ChartScript.Eval.outcome_draw]
  have drawn : change (state.inWindow window newer).recorder =
      Recorder.inWindow window.length newer <$> other state.recorder := commutes state.recorder
  rw [drawn]
  cases other state.recorder with
  | error error => exact .error
  | ok recorder => exact .ok { state with recorder := recorder } rfl fits

theorem input_refines (context : Context) (site : Nat) (arguments : Arguments) :
    Refines window newer Eq (input context site arguments)
      (ChartScript.Eval.input context site arguments) := by
  apply refines_bind_eq (refines_lift _)
  intro offer state fits
  exact .ok { state with
    recorder := (state.recorder.input context.overrides offer.1 offer.2).2 } rfl fits

theorem apply_refines (builtin : Builtin) (context : Context) (site : Nat)
    {columns : List Column} {sources : List (Series Float)}
    (found : columns.map (·.drop newer) = sources) (arguments : Arguments) :
    Refines window newer Eq (apply builtin context site columns arguments)
      (builtin.apply context site sources arguments) := by
  unfold apply Builtin.apply
  split
  · exact indicator_refines builtin site found arguments
  · apply refines_memory_bind
    intro memory fits
    have loaded : (memory.inWindow window newer).bars.length = window.length := List.length_mapIdx
    cases builtin with
    | plot => exact draw_refines (·.plot_inWindow site arguments)
    | hline => exact draw_refines (·.line_inWindow site arguments)
    | plotShape => exact draw_refines (·.marker_inWindow arguments fits.current .shape)
    | plotChar => exact draw_refines (·.marker_inWindow arguments fits.current .character)
    | backgroundColor => exact draw_refines (·.background_inWindow arguments fits.current)
    | alert =>
      simp only [loaded]
      exact draw_refines (·.alert_inWindow site arguments fits.count)
    | strategyEntry => exact draw_refines (·.entry_inWindow arguments fits.current)
    | strategyLong => exact draw_refines (·.signal_inWindow arguments fits.current .long)
    | strategyShort => exact draw_refines (·.signal_inWindow arguments fits.current .short)
    | strategyClose => exact draw_refines (·.signal_inWindow arguments fits.current .close)
    | input => exact input_refines context site arguments
    | _ => exact refines_lift _

theorem binary_refines (op : BinaryOp) (left : Value) {right : Eval Value}
    {other : ChartScript.Eval Value} (refines : Refines window newer Eq right other) :
    Refines window newer Eq (binary op left right) (ChartScript.Eval.binary op left other) := by
  unfold binary ChartScript.Eval.binary
  cases op.deciding? with
  | some deciding =>
    apply refines_bind_eq (refines_lift _)
    intro truth
    by_cases decided : truth = deciding
    · rw [if_pos decided, if_pos decided]
      exact refines_pure rfl
    · rw [if_neg decided, if_neg decided]
      apply refines_bind_eq refines
      intro value
      exact refines_bind_eq (refines_lift _) fun _ => refines_pure rfl
  | none => exact refines_bind_eq refines fun _ => refines_lift _

theorem store_refines (name : String) (value : Value) :
    Refines window newer Eq (store name value) (ChartScript.Eval.store name value) := by
  intro state fits
  rw [outcome_store, ChartScript.Eval.outcome_store]
  have stored : (state.inWindow window newer).memory.store name value =
      (state.memory.store name value).map (·.inWindow window newer) :=
    Memory.store_inWindow fits name value
  rw [stored]
  cases found : state.memory.store name value with
  | error error => exact .error
  | ok memory =>
    have step : RunState.StatementStep [] state { state with memory := memory } :=
      .store state name value memory found
    exact .ok { state with memory := memory } rfl (fits.of_bars step.bars)

end Steps

/-! ## Expressions and statements -/

section Expressions

variable {window : List Candle} {newer : Nat}

mutual

theorem evaluate_refines (context : Context) :
    (expr : Expr) → Refines window newer Eq (evaluate context expr) (expr.evaluate context)
  | .number _ _ | .string _ _ | .boolean _ _ | .color _ _ => refines_pure rfl
  | .name path _ => load_refines path
  | .member _ _ _ => refines_throw _
  | .history series offset site _ => by
    apply refines_bind_eq (evaluate_refines context offset)
    intro offsetValue
    apply refines_bind_eq (historyBars_refines series offsetValue)
    intro bars
    apply refines_bind (operand_refines site .first series (evaluate_refines context series))
    intro column values isFrom
    apply refines_memory_bind_left
    intro current _
    have same : column.value (newer + bars) = values.before bars := by
      rw [Column.value_add, isFrom]
    exact refines_pure (congrArg Value.number same)
  | .unary op operand _ =>
    refines_bind_eq (evaluate_refines context operand) fun _ => refines_lift _
  | .binary left op right _ =>
    refines_bind_eq (evaluate_refines context left) fun leftValue =>
      binary_refines op leftValue (evaluate_refines context right)
  | .ternary condition whenTrue whenFalse _ => by
    apply refines_bind_eq (evaluate_refines context condition)
    intro value
    apply refines_bind_eq (refines_lift _)
    intro truth
    exact refines_ite (evaluate_refines context whenTrue) (evaluate_refines context whenFalse)
  | .call call _ => evaluateCall_refines context call

theorem evaluateCall_refines (context : Context) :
    (call : Call) → Refines window newer Eq (evaluateCall context call) (call.evaluate context)
  | .mk function site arguments named => by
    unfold evaluateCall Call.evaluate
    cases Builtin.ofName? function with
    | none => exact refines_throw _
    | some builtin =>
      apply refines_bind (evaluateSources_refines context function site _ arguments)
      intro columns sources found
      apply refines_bind_eq (evaluatePositional_refines context _ arguments)
      intro positional
      apply refines_bind_eq (evaluateNamed_refines context named)
      intro namedValues
      exact apply_refines builtin context site found _

theorem evaluateSources_refines (context : Context) (function : String) (site : Nat) :
    (operands : List Operand) → (arguments : List Expr) →
      Refines window newer (fun columns sources => columns.map (·.drop newer) = sources)
        (evaluateSources context function site operands arguments)
        (Expr.evaluateSources context function site operands arguments)
  | [], [] | [], _ :: _ => refines_pure rfl
  | _ :: _, [] => refines_throw _
  | which :: operands, argument :: arguments => by
    apply refines_bind (operand_refines site which argument (evaluate_refines context argument))
    intro column series isFrom
    apply refines_bind (evaluateSources_refines context function site operands arguments)
    intro columns sources found
    exact refines_pure (congrArg₂ List.cons isFrom found)

theorem evaluatePositional_refines (context : Context) :
    (skipped : Nat) → (arguments : List Expr) →
      Refines window newer Eq (evaluatePositional context skipped arguments)
        (Expr.evaluatePositional context skipped arguments)
  | 0, [] | _ + 1, [] => refines_pure rfl
  | skipped + 1, _ :: arguments =>
    refines_bind_eq (evaluatePositional_refines context skipped arguments) fun _ =>
      refines_pure rfl
  | 0, argument :: arguments =>
    refines_bind_eq (evaluate_refines context argument) fun _ =>
      refines_bind_eq (evaluatePositional_refines context 0 arguments) fun _ => refines_pure rfl

theorem evaluateNamed_refines (context : Context) :
    (arguments : List NamedArgument) →
      Refines window newer Eq (evaluateNamed context arguments)
        (NamedArgument.evaluateAll context arguments)
  | [] => refines_pure rfl
  | .mk _ argument _ :: arguments =>
    refines_bind_eq (evaluate_refines context argument) fun _ =>
      refines_bind_eq (evaluateNamed_refines context arguments) fun _ => refines_pure rfl

end

end Expressions

section Statements

variable {window : List Candle} {newer : Nat} (overrides : Table String Float)

theorem execute_refines (statement : Statement) :
    Refines window newer Eq (execute overrides statement) (statement.execute overrides) := by
  induction statement with
  | assign name value _ =>
    exact refines_bind_eq (evaluate_refines _ value) fun assigned => store_refines name assigned
  | expression value _ =>
    exact refines_bind_eq (evaluate_refines _ value) fun _ => refines_pure rfl
  | ifThen condition _ _ thenRefines =>
    apply refines_bind_eq (evaluate_refines _ condition)
    intro value
    exact refines_bind_eq (refines_lift _) fun truth => refines_ite thenRefines (refines_pure rfl)
  | ifThenElse condition _ _ _ thenRefines elseRefines =>
    apply refines_bind_eq (evaluate_refines _ condition)
    intro value
    exact refines_bind_eq (refines_lift _) fun truth => refines_ite thenRefines elseRefines

theorem executeAll_refines (statements : List Statement) :
    Refines window newer Eq (executeAll overrides statements)
      (ChartScript.executeAll overrides statements) := by
  induction statements with
  | nil => exact refines_pure rfl
  | cons statement rest ih =>
    exact refines_bind_eq (execute_refines overrides statement) fun _ => ih

theorem heading_refines (script : Script) :
    Refines window newer Eq (heading script overrides) (script.heading overrides) := by
  unfold heading Script.heading
  cases script.program.declaration with
  | none => exact refines_pure rfl
  | some declaration =>
    apply refines_bind_eq (evaluatePositional_refines _ 0 _)
    intro positional
    apply refines_bind_eq (evaluateNamed_refines _ _)
    intro named
    apply refines_bind_eq (refines_lift _)
    intro title
    exact refines_bind_eq (refines_lift _) fun overlay => refines_pure rfl

end Statements

end ChartScript.Loaded
