import ChartScript.Proofs.EvaluationErrors
import ChartScript.Proofs.SyntaxParts
import ChartScript.Proofs.VariableReads

/-!
# Where errors come from

The error of a run is traced to the part of the program that fails, on the state that the run stops
in. That part is an operator that does not take its operands, a name that is not found, an
assignment that a variable does not take, or a call that fails itself: its arguments give values,
and its function does not take those.
-/

set_option autoImplicit false

namespace ChartScript

open Eval
open RunError (OfOperands)

/-- Where an evaluation fails, its error is allowed in the state that it stops in. -/
def Eval.StopsWith {α : Type} (allowed : RunState → RunError → Prop) (evaluation : Eval α) : Prop :=
  ∀ state error stopped, outcome evaluation state = (.error error, stopped) → allowed stopped error

namespace Eval

variable {α β : Type} {allowed : RunState → RunError → Prop}

theorem stopsWith_pure (value : α) : StopsWith allowed (pure value : Eval α) :=
  nofun

theorem stopsWith_lift {result : Except RunError α}
    (raises : ∀ state, Raises (allowed state) result) :
    StopsWith allowed (liftM result : Eval α) := by
  intro state error stopped failed
  obtain ⟨failed, _⟩ := Prod.mk.inj failed
  exact raises stopped error failed

theorem stopsWith_bind {first : Eval α} {next : α → Eval β} (stops : StopsWith allowed first)
    (rest : ∀ value, StopsWith allowed (next value)) : StopsWith allowed (first >>= next) := by
  intro state error stopped failed
  obtain failed | ⟨value, after, _, failed⟩ := of_outcome_bind_error failed
  · exact stops state error stopped failed
  · exact rest value after error stopped failed

theorem StopsWith.mono {others : RunState → RunError → Prop} {evaluation : Eval α}
    (stops : StopsWith allowed evaluation)
    (among : ∀ state error, allowed state error → others state error) :
    StopsWith others evaluation :=
  fun state error stopped failed => among stopped error (stops state error stopped failed)

theorem throw_bind (error : RunError) (next : α → Eval β) :
    (throw error : Eval α) >>= next = throw error :=
  rfl

theorem stopsWith_memory : StopsWith allowed memory :=
  nofun

theorem stopsWith_modify (change : RunState → RunState) :
    StopsWith allowed (modify change : Eval Unit) :=
  nofun

theorem stopsWith_ite {condition : Bool} {first second : Eval α}
    (whenTrue : StopsWith allowed first) (whenFalse : StopsWith allowed second) :
    StopsWith allowed (if condition then first else second) := by
  cases condition with
  | false => exact whenFalse
  | true => exact whenTrue

theorem stopsWith_draw {change : Recorder → Except RunError Recorder}
    (raises : ∀ state recorder, Raises (allowed state) (change recorder)) :
    StopsWith allowed (draw change) := by
  intro state error stopped failed
  rw [outcome_draw] at failed
  cases drawn : change state.recorder with
  | error failure =>
    rw [drawn] at failed
    cases failed
    exact raises _ _ _ drawn
  | ok recorder =>
    rw [drawn] at failed
    cases failed

theorem stopsWith_settle (site : Nat) (result : Float) :
    StopsWith allowed (settle site result) :=
  stopsWith_bind (stopsWith_modify _) fun _ => stopsWith_pure _

end Eval

theorem Eval.input_stopsWith (context : Context) (site : Nat) (arguments : Arguments) :
    StopsWith (fun _ => arguments.Fails) (Eval.input context site arguments) :=
  stopsWith_bind (stopsWith_lift fun _ => arguments.input_raises _ site) fun _ => nofun

theorem Eval.indicator_stopsWith (builtin : Builtin) (site : Nat) (sources : List (Series Float))
    (arguments : Arguments) :
    StopsWith (fun _ => arguments.Fails) (Eval.indicator builtin site sources arguments) := by
  have length : StopsWith (fun _ => arguments.Fails)
      (liftM (arguments.length 1 "length") : Eval Nat) :=
    stopsWith_lift fun _ => arguments.length_raises 1 "length"
  unfold Eval.indicator
  split
  · exact stopsWith_bind length fun _ =>
      stopsWith_bind stopsWith_memory fun _ => stopsWith_settle site _
  · split
    · exact stopsWith_bind length fun _ => stopsWith_settle site _
    · exact stopsWith_bind (stopsWith_pure 1) fun _ => stopsWith_settle site _
  · exact stopsWith_pure _
  · exact stopsWith_pure _
  · split
    · exact stopsWith_bind length fun _ => stopsWith_settle site _
    · exact stopsWith_pure _

theorem Builtin.apply_stopsWith (builtin : Builtin) (context : Context) (site : Nat)
    (sources : List (Series Float)) (arguments : Arguments) :
    StopsWith (fun _ => builtin.Fails arguments)
      (builtin.apply context site sources arguments) := by
  have draws {builtin : Builtin} {change : Recorder → Except RunError Recorder}
      (raises : ∀ recorder, Raises arguments.Fails (change recorder)) :
      StopsWith (fun _ => builtin.Fails arguments) (draw change) :=
    stopsWith_draw fun _ recorder => (raises recorder).mono fun _ => .arguments
  unfold Builtin.apply
  split
  · exact (Eval.indicator_stopsWith builtin site sources arguments).mono fun _ _ => .arguments
  · refine stopsWith_bind stopsWith_memory fun memory => ?_
    simp only
    split
    · exact draws fun recorder => recorder.plot_raises site arguments
    · exact draws fun recorder => recorder.line_raises site arguments
    · exact draws fun recorder => recorder.marker_raises _ arguments .shape
    · exact draws fun recorder => recorder.marker_raises _ arguments .character
    · exact draws fun recorder => recorder.background_raises _ arguments
    · exact draws fun recorder => recorder.alert_raises site _ arguments
    · exact stopsWith_draw fun _ recorder => recorder.entry_raises _ arguments
    · exact draws fun recorder => recorder.signal_raises _ arguments .long
    · exact draws fun recorder => recorder.signal_raises _ arguments .short
    · exact draws fun recorder => recorder.signal_raises _ arguments .close
    · exact (Eval.input_stopsWith context site arguments).mono fun _ _ => .arguments
    · exact stopsWith_lift fun _ => (Builtin.compute_raises _ arguments).mono fun _ => .arguments

/-- The series and the values that a call hands to its function. -/
def Call.evaluatePassed (context : Context) (call : Call) (builtin : Builtin) :
    Eval (List (Series Float) × Arguments) := do
  let sources ←
    Expr.evaluateSources context call.function call.site builtin.operands call.arguments
  let positional ← Expr.evaluatePositional context builtin.seriesArity call.arguments
  let named ← NamedArgument.evaluateAll context call.named
  return (sources, ⟨call.function, positional, named⟩)

/-- A call that is evaluated on a state fails with an error of its own and leaves another state
behind. There is no function of its name, or its arguments give values: then too few of them are
positional to be the series of the function, or the function does not take them. -/
inductive Call.FailsItself (context : Context) (call : Call) (state : RunState) :
    RunError → RunState → Prop
  | undefinedFunction (unknown : Builtin.ofName? call.function = none) :
      FailsItself context call state (.undefinedFunction call.function) state
  | missingSeries {builtin : Builtin} {sources : List (Series Float)} {stopped : RunState}
      (found : Builtin.ofName? call.function = some builtin)
      (fewer : call.arguments.length < builtin.operands.length)
      (evaluated : outcome (Expr.evaluateSources context call.function call.site
        (builtin.operands.take call.arguments.length) call.arguments) state =
          (.ok sources, stopped)) :
      FailsItself context call state (.missingArgument call.function "source") stopped
  | function {builtin : Builtin} {sources : List (Series Float)} {passed : Arguments}
      {error : RunError} {after stopped : RunState}
      (found : Builtin.ofName? call.function = some builtin)
      (evaluated : outcome (call.evaluatePassed context builtin) state =
        (.ok (sources, passed), after))
      (failed : outcome (builtin.apply context call.site sources passed) after =
        (.error error, stopped)) :
      FailsItself context call state error stopped

section Call

variable {context : Context} {call : Call}

theorem Call.evaluate_of_unknown (unknown : Builtin.ofName? call.function = none) :
    call.evaluate context = throw (.undefinedFunction call.function) := by
  obtain ⟨function, site, arguments, named⟩ := call
  rw [Call.function] at unknown
  rw [Call.evaluate, unknown]
  rfl

theorem Call.evaluate_of_found {builtin : Builtin}
    (found : Builtin.ofName? call.function = some builtin) :
    call.evaluate context = call.evaluatePassed context builtin >>= fun (sources, passed) =>
      builtin.apply context call.site sources passed := by
  obtain ⟨function, site, arguments, named⟩ := call
  rw [Call.function] at found
  rw [Call.evaluate, found]
  simp only [Call.evaluatePassed, Call.function, Call.site, Call.arguments, Call.named, bind_assoc,
    pure_bind]

/-- The arguments that there are get evaluated before a series turns out to be missing. -/
theorem Expr.evaluateSources_of_fewer (function : String) (site : Nat) {operands : List Operand}
    {arguments : List Expr} (fewer : arguments.length < operands.length) :
    Expr.evaluateSources context function site operands arguments =
      Expr.evaluateSources context function site (operands.take arguments.length) arguments >>=
        fun _ => throw (.missingArgument function "source") := by
  induction operands generalizing arguments with
  | nil => cases fewer
  | cons operand rest ih =>
    cases arguments with
    | nil => rfl
    | cons argument others =>
      rw [List.length_cons, List.take_succ_cons, Expr.evaluateSources, Expr.evaluateSources,
        ih (Nat.lt_of_succ_lt_succ fewer)]
      simp only [bind_assoc, pure_bind, throw_bind]

/-- The own failure of a call is what its evaluation ends in. -/
theorem Call.FailsItself.outcome {state stopped : RunState} {error : RunError}
    (failed : call.FailsItself context state error stopped) :
    Eval.outcome (call.evaluate context) state = (.error error, stopped) := by
  cases failed with
  | undefinedFunction unknown =>
    rw [Call.evaluate_of_unknown unknown]
    rfl
  | missingSeries found fewer evaluated =>
    rw [Call.evaluate_of_found found, Call.evaluatePassed, Expr.evaluateSources_of_fewer _ _ fewer]
    simp only [outcome_bind, evaluated]
    rfl
  | function found evaluated failed =>
    rw [Call.evaluate_of_found found, outcome_bind, evaluated]
    exact failed

end Call

/-! ## Expressions -/

/-- What an expression can fail with where its calls are among some. -/
inductive RunError.OfExpression (context : Context) (calls : List Call) (stopped : RunState) :
    RunError → Prop
  | operands {error : RunError} (operands : error.OfOperands) :
      OfExpression context calls stopped error
  | notSeries (name : String) : OfExpression context calls stopped (.notSeries name)
  | unsupportedMember (name : String) :
      OfExpression context calls stopped (.unsupportedMember name)
  | undefinedVariable {name : String} (notLoaded : stopped.memory.load? name = none)
      (notConstant : Value.constant? name = none) :
      OfExpression context calls stopped (.undefinedVariable name)
  | call {call : Call} {state : RunState} {error : RunError} (member : call ∈ calls)
      (failed : call.FailsItself context state error stopped) :
      OfExpression context calls stopped error

open RunError (OfExpression)

section Expressions

variable {context : Context} {calls : List Call}

theorem Raises.ofExpression {α : Type} {result : Except RunError α}
    (raises : Raises OfOperands result) (stopped : RunState) :
    Raises (OfExpression context calls stopped) result :=
  raises.mono fun _ => .operands

theorem Eval.operand_stopsWith (site : Nat) (operand : Operand) (expr : Expr)
    {evaluated : Eval Value} (stops : StopsWith (OfExpression context calls) evaluated) :
    StopsWith (OfExpression context calls) (Eval.operand site operand expr evaluated) := by
  refine stopsWith_bind stopsWith_memory fun memory => ?_
  cases memory.namedSeries? expr with
  | some series => exact stopsWith_pure series
  | none =>
    exact stopsWith_bind stops fun value =>
      stopsWith_bind (stopsWith_lift (value.asNumber_raises _).ofExpression) fun number =>
      stopsWith_bind (stopsWith_modify _) fun _ =>
      stopsWith_bind stopsWith_memory fun _ => stopsWith_pure _

theorem Eval.historyBars_stopsWith (series : Expr) (offset : Value) :
    StopsWith (OfExpression context calls) (historyBars series offset) := by
  refine stopsWith_bind (stopsWith_lift (offset.asNumber_raises _).ofExpression) fun number => ?_
  refine stopsWith_bind (stopsWith_lift (historyOffset_raises number).ofExpression) fun bars => ?_
  refine stopsWith_bind stopsWith_memory fun memory => ?_
  refine stopsWith_bind (stopsWith_lift fun stopped => ?_) fun _ => stopsWith_pure bars
  cases series with
  | name path _ =>
    simp only [Memory.checkHistory]
    split
    · exact .error (.notSeries path)
    · exact .ok ()
  | _ => exact .ok ()

theorem Eval.load_stopsWith (name : String) :
    StopsWith (OfExpression context calls) (load name) := by
  intro state error stopped failed
  rw [load, outcome_bind, outcome_memory] at failed
  cases found : state.memory.load? name <|> Value.constant? name with
  | some value =>
    simp only [found] at failed
    cases failed
  | none =>
    simp only [found] at failed
    cases failed
    rw [Option.orElse_eq_orElse, Option.orElse_eq_or, Option.or_eq_none_iff] at found
    exact .undefinedVariable found.1 found.2

theorem Eval.binary_stopsWith (op : BinaryOp) (left : Value) {right : Eval Value}
    (stops : StopsWith (OfExpression context calls) right) :
    StopsWith (OfExpression context calls) (Eval.binary op left right) := by
  unfold Eval.binary
  split
  · refine stopsWith_bind (stopsWith_lift (left.truthy_raises _).ofExpression) fun truth => ?_
    split
    · exact stopsWith_pure _
    · exact stopsWith_bind stops fun rightValue =>
        stopsWith_bind (stopsWith_lift (rightValue.truthy_raises _).ofExpression) fun _ =>
        stopsWith_pure _
  · exact stopsWith_bind stops fun rightValue =>
      stopsWith_lift (op.apply_raises left rightValue).ofExpression

section Lists

variable {arguments : List Expr}
  (known : ∀ argument ∈ arguments,
    StopsWith (OfExpression context calls) (argument.evaluate context))

include known

theorem Expr.evaluateSources_stopsWith (function : String) (site : Nat) (operands : List Operand)
    (enough : operands.length ≤ arguments.length) :
    StopsWith (OfExpression context calls)
      (Expr.evaluateSources context function site operands arguments) := by
  induction operands generalizing arguments with
  | nil => cases arguments <;> exact stopsWith_pure _
  | cons operand operands ih =>
    cases arguments with
    | nil => cases enough
    | cons argument arguments =>
      rw [List.forall_mem_cons] at known
      exact stopsWith_bind (Eval.operand_stopsWith site operand argument known.1) fun _ =>
        stopsWith_bind (ih known.2 (Nat.le_of_succ_le_succ enough)) fun _ => stopsWith_pure _

theorem Expr.evaluatePositional_stopsWith (skipped : Nat) :
    StopsWith (OfExpression context calls)
      (Expr.evaluatePositional context skipped arguments) := by
  induction arguments generalizing skipped with
  | nil => cases skipped <;> exact stopsWith_pure _
  | cons argument arguments ih =>
    rw [List.forall_mem_cons] at known
    cases skipped with
    | zero =>
      exact stopsWith_bind known.1 fun _ => stopsWith_bind (ih known.2 0) fun _ => stopsWith_pure _
    | succ skipped => exact stopsWith_bind (ih known.2 skipped) fun _ => stopsWith_pure _

end Lists

theorem NamedArgument.evaluateAll_stopsWith {arguments : List NamedArgument}
    (known : ∀ argument ∈ arguments,
      StopsWith (OfExpression context calls) (argument.value.evaluate context)) :
    StopsWith (OfExpression context calls) (NamedArgument.evaluateAll context arguments) := by
  induction arguments with
  | nil => exact stopsWith_pure _
  | cons argument arguments ih =>
    obtain ⟨name, value, span⟩ := argument
    rw [List.forall_mem_cons] at known
    exact stopsWith_bind known.1 fun _ => stopsWith_bind (ih known.2) fun _ => stopsWith_pure _

/-- Where none of its arguments fails, a call fails itself. -/
theorem Call.evaluate_stopsWith {call : Call} (member : call ∈ calls)
    (known : ∀ argument ∈ call.arguments,
      StopsWith (OfExpression context calls) (argument.evaluate context))
    (knownNamed : ∀ argument ∈ call.named,
      StopsWith (OfExpression context calls) (argument.value.evaluate context)) :
    StopsWith (OfExpression context calls) (call.evaluate context) := by
  intro state error stopped failed
  cases found : Builtin.ofName? call.function with
  | none =>
    rw [Call.evaluate_of_unknown found] at failed
    cases failed
    exact .call member (.undefinedFunction found)
  | some builtin =>
    rw [Call.evaluate_of_found found] at failed
    by_cases fewer : call.arguments.length < builtin.operands.length
    · -- The evaluation ends behind the operands that there are.
      rw [Call.evaluatePassed, Expr.evaluateSources_of_fewer _ _ fewer] at failed
      simp only [bind_assoc, throw_bind] at failed
      obtain failed | ⟨sources, after, evaluated, failed⟩ := of_outcome_bind_error failed
      · refine Expr.evaluateSources_stopsWith known _ _ _ ?_ state error stopped failed
        exact List.length_take_le _ _
      · cases failed
        exact .call member (.missingSeries found fewer evaluated)
    · obtain failed | ⟨⟨sources, passed⟩, after, evaluated, failed⟩ := of_outcome_bind_error failed
      · refine stopsWith_bind ?_ (fun _ => ?_) state error stopped failed
        · exact Expr.evaluateSources_stopsWith known _ _ _ (Nat.le_of_not_lt fewer)
        · exact stopsWith_bind (Expr.evaluatePositional_stopsWith known _) fun _ =>
            stopsWith_bind (NamedArgument.evaluateAll_stopsWith knownNamed) fun _ =>
            stopsWith_pure _
      · exact .call member (.function found evaluated failed)

end Expressions

theorem Expr.callsOfAll_eq_flatMap (arguments : List Expr) :
    Expr.callsOfAll arguments = arguments.flatMap Expr.calls := by
  induction arguments with
  | nil => rfl
  | cons argument rest ih => rw [Expr.callsOfAll, ih, List.flatMap_cons]

theorem NamedArgument.callsOfAll_eq_flatMap (arguments : List NamedArgument) :
    NamedArgument.callsOfAll arguments = arguments.flatMap (·.value.calls) := by
  induction arguments with
  | nil => rfl
  | cons argument rest ih =>
    obtain ⟨name, value, span⟩ := argument
    rw [NamedArgument.callsOfAll, ih, List.flatMap_cons]
    rfl

/-- The arguments of a call have their calls among those within the call. -/
theorem Call.forall_mem_inner {function : String} {site : Nat} {arguments : List Expr}
    {named : List NamedArgument} {holds : Call → Prop} :
    (∀ call ∈ (Call.mk function site arguments named).inner, holds call) ↔
      (∀ argument ∈ arguments, ∀ call ∈ argument.calls, holds call) ∧
        ∀ argument ∈ named, ∀ call ∈ argument.value.calls, holds call := by
  rw [Call.inner, Expr.callsOfAll_eq_flatMap, NamedArgument.callsOfAll_eq_flatMap,
    List.forall_mem_append, List.forall_mem_flatMap, List.forall_mem_flatMap]

theorem Expr.evaluate_stopsWith (context : Context) {calls : List Call} (expr : Expr)
    (within : ∀ call ∈ expr.calls, call ∈ calls) :
    StopsWith (OfExpression context calls) (expr.evaluate context) := by
  induction expr with
  | number | string | boolean | color => exact stopsWith_pure _
  | name path span => exact Eval.load_stopsWith path
  | member object name span known =>
    exact stopsWith_lift fun _ => .error (.unsupportedMember name)
  | history series offset site span knownSeries knownOffset =>
    rw [Expr.calls, List.forall_mem_append] at within
    exact stopsWith_bind (knownOffset within.2) fun offsetValue =>
      stopsWith_bind (Eval.historyBars_stopsWith series offsetValue) fun bars =>
      stopsWith_bind (Eval.operand_stopsWith site .first series (knownSeries within.1)) fun _ =>
      stopsWith_pure _
  | unary op operand span known =>
    exact stopsWith_bind (known within) fun value =>
      stopsWith_lift (op.apply_raises value).ofExpression
  | binary left op right span known knownRight =>
    rw [Expr.calls, List.forall_mem_append] at within
    exact stopsWith_bind (known within.1) fun leftValue =>
      Eval.binary_stopsWith op leftValue (knownRight within.2)
  | ternary condition whenTrue whenFalse span known knownTrue knownFalse =>
    rw [Expr.calls, List.forall_mem_append, List.forall_mem_append] at within
    obtain ⟨⟨withinCondition, withinTrue⟩, withinFalse⟩ := within
    exact stopsWith_bind (known withinCondition) fun value =>
      stopsWith_bind (stopsWith_lift (value.truthy_raises _).ofExpression) fun truth =>
      stopsWith_ite (knownTrue withinTrue) (knownFalse withinFalse)
  | call function site arguments named span known knownNamed =>
    rw [Expr.calls, List.forall_mem_cons, Call.forall_mem_inner] at within
    obtain ⟨member, withinPassed, withinNamed⟩ := within
    exact Call.evaluate_stopsWith member
      (fun argument passed => known argument passed (withinPassed argument passed))
      fun argument passed => knownNamed argument passed (withinNamed argument passed)

/-! ## Runs -/

/-- What a run can fail with where the program has some calls and assigns to some names. -/
inductive RunError.OfRun (targets : List String) (calls : List Call) (stopped : RunState) :
    RunError → Prop
  | expression {context : Context} {error : RunError}
      (expression : error.OfExpression context calls stopped) : OfRun targets calls stopped error
  | store {name : String} {value : Value} {error : RunError} (target : name ∈ targets)
      (failed : stopped.memory.store name value = .error error) :
      OfRun targets calls stopped error

open RunError (OfRun)

section Statements

variable {targets : List String} {calls : List Call} (overrides : Table String Float)

theorem Declaration.evaluate_stopsWith (declaration : Declaration)
    (within : ∀ call ∈ declaration.call.inner, call ∈ calls) :
    StopsWith (OfExpression ⟨overrides, none⟩ calls) (declaration.evaluate overrides) := by
  obtain ⟨kind, ⟨function, site, arguments, named⟩, span⟩ := declaration
  rw [Call.forall_mem_inner] at within
  refine stopsWith_bind ?_ fun positional => stopsWith_bind ?_ fun named => ?_
  · exact Expr.evaluatePositional_stopsWith (fun argument passed =>
      argument.evaluate_stopsWith ⟨overrides, none⟩ (within.1 argument passed)) 0
  · exact NamedArgument.evaluateAll_stopsWith fun argument passed =>
      argument.value.evaluate_stopsWith ⟨overrides, none⟩ (within.2 argument passed)
  · let passed : Arguments := ⟨function, positional, named⟩
    exact stopsWith_bind (stopsWith_lift (passed.readString_raises "title" _).ofExpression)
      fun _ => stopsWith_bind (stopsWith_lift (passed.readFlag_raises "overlay" _).ofExpression)
      fun _ => stopsWith_pure _

theorem Eval.store_stopsWith {name : String} (target : name ∈ targets) (value : Value) :
    StopsWith (OfRun targets calls) (Eval.store name value) := by
  intro state error stopped failed
  rw [outcome_store] at failed
  cases stored : state.memory.store name value with
  | ok memory =>
    rw [stored] at failed
    cases failed
  | error failure =>
    rw [stored] at failed
    cases failed
    exact .store target stored

/-- A slot that holds no numbers names the type of what it holds as the expected one. -/
theorem Memory.of_assign_error {name : String} {slot : Slot} {value : Value} {error : RunError}
    (failed : Memory.assign name slot value = .error error) :
    ∃ expected, error = value.mismatch (Memory.assignment name) expected ∧
      (expected = .number ∧ value.numeric? = none ∨
        ∃ current, slot = .scalar current ∧ expected = current.type ∧ value.numeric? ≠ none) := by
  unfold Memory.assign at failed
  split at failed
  case h_1 => cases failed
  case h_2 notNumber =>
    split at failed
    case isTrue => cases failed
    case isFalse =>
      cases failed
      exact ⟨.number, rfl, .inl ⟨rfl, notNumber⟩⟩
  case h_3 current number isNumber =>
    split at failed
    case isTrue => cases failed
    case isFalse =>
      cases failed
      exact ⟨current.type, rfl, .inr ⟨current, rfl, rfl, by rw [isNumber]; exact nofun⟩⟩
  case h_4 => cases failed

theorem Memory.of_store_error {memory : Memory} {name : String} {value : Value} {error : RunError}
    (failed : memory.store name value = .error error) :
    error = .readOnlyVariable name ∨ PriceField.ofName? name = none ∧ ∃ expected,
      error = value.mismatch (Memory.assignment name) expected ∧
        (expected = .number ∧ value.numeric? = none ∨ ∃ current,
          memory.slots.get? name = some (.scalar current) ∧ expected = current.type ∧
            value.numeric? ≠ none) := by
  unfold Memory.store at failed
  split at failed
  case h_1 =>
    cases failed
    exact .inl rfl
  case h_2 notField =>
    obtain assigned | ⟨slot, _, stored⟩ := of_bind_error failed
    case inr => cases stored
    obtain ⟨expected, mismatch, held⟩ := Memory.of_assign_error assigned
    refine .inr ⟨notField, expected, mismatch, held.imp_right ?_⟩
    rintro ⟨current, holds, known⟩
    refine ⟨current, ?_, known⟩
    cases found : memory.slots.get? name with
    | none =>
      rw [found] at holds
      cases holds
    | some slot =>
      rw [found] at holds
      exact congrArg some holds

theorem Expr.evaluate_stopsWithRun (context : Context) (expr : Expr)
    (within : ∀ call ∈ expr.calls, call ∈ calls) :
    StopsWith (OfRun targets calls) (expr.evaluate context) :=
  (expr.evaluate_stopsWith context within).mono fun _ _ => .expression

theorem Eval.holds_stopsWith (condition : Expr) (within : ∀ call ∈ condition.calls, call ∈ calls) :
    StopsWith (OfRun targets calls) (Eval.holds overrides condition) := by
  refine stopsWith_bind (condition.evaluate_stopsWithRun ⟨overrides, none⟩ within) fun value => ?_
  refine stopsWith_lift fun stopped => (value.truthy_raises "if").mono fun error operands => ?_
  exact .expression (.operands operands : error.OfExpression ⟨overrides, none⟩ calls stopped)

theorem Statement.execute_stopsWith (statement : Statement)
    (within : ∀ call ∈ statement.calls, call ∈ calls)
    (assigns : ∀ name ∈ statement.assigned, name ∈ targets) :
    StopsWith (OfRun targets calls) (statement.execute overrides) := by
  induction statement with
  | assign name value span =>
    exact stopsWith_bind (value.evaluate_stopsWithRun ⟨overrides, some name⟩ within) fun assigned =>
      Eval.store_stopsWith (assigns name List.mem_cons_self) assigned
  | expression value span =>
    exact stopsWith_bind (value.evaluate_stopsWithRun ⟨overrides, none⟩ within) fun _ =>
      stopsWith_pure _
  | ifThen condition thenBranch span thenStops =>
    rw [Statement.calls, List.forall_mem_append] at within
    rw [Statement.execute_ifThen]
    exact stopsWith_bind (Eval.holds_stopsWith overrides condition within.1) fun holds =>
      stopsWith_ite (thenStops within.2 assigns) (stopsWith_pure _)
  | ifThenElse condition thenBranch elseBranch span thenStops elseStops =>
    rw [Statement.calls, List.forall_mem_append, List.forall_mem_append] at within
    rw [Statement.assigned, List.forall_mem_append] at assigns
    rw [Statement.execute_ifThenElse]
    exact stopsWith_bind (Eval.holds_stopsWith overrides condition within.1.1) fun holds =>
      stopsWith_ite (thenStops within.1.2 assigns.1) (elseStops within.2 assigns.2)

theorem executeAll_stopsWith (statements : List Statement)
    (within : ∀ call ∈ statements.flatMap Statement.calls, call ∈ calls)
    (assigns : ∀ name ∈ statements.flatMap Statement.assigned, name ∈ targets) :
    StopsWith (OfRun targets calls) (executeAll overrides statements) := by
  induction statements with
  | nil => exact stopsWith_pure ()
  | cons statement rest ih =>
    rw [List.flatMap_cons, List.forall_mem_append] at within assigns
    exact stopsWith_bind (statement.execute_stopsWith overrides within.1 assigns.1) fun _ =>
      ih within.2 assigns.2

end Statements

namespace Program

/-- What a run of a program can fail with. -/
abbrev Stops (program : Program) : RunState → RunError → Prop :=
  OfRun program.assignedNames program.calls

theorem mem_assignedNames {program : Program} {name : String} :
    name ∈ program.assignedNames ↔ ∃ statement ∈ program.statements, name ∈ statement.assigned := by
  rw [assignedNames, List.mem_eraseDups, List.mem_flatMap]

end Program

namespace Script

variable (script : Script) (overrides : Table String Float)

theorem heading_stopsWith :
    StopsWith script.program.Stops (script.heading overrides) := by
  unfold heading
  cases declared : script.program.declaration with
  | none => exact stopsWith_pure _
  | some declaration =>
    refine StopsWith.mono (declaration.evaluate_stopsWith overrides fun call member => ?_)
      fun _ _ => .expression
    rw [Program.calls, declared]
    exact List.mem_append_left _ member

theorem statements_stopsWith :
    StopsWith script.program.Stops (executeAll overrides script.program.statements) := by
  refine executeAll_stopsWith overrides _ (fun call member => ?_) fun name assigned => ?_
  · exact List.mem_append_right _ member
  · exact List.mem_eraseDups.mpr assigned

theorem runBars_stopsWith (candles : List Candle) :
    StopsWith script.program.Stops (script.runBars overrides candles) := by
  induction candles with
  | nil => exact stopsWith_pure ()
  | cons candle newer ih =>
    exact stopsWith_bind (stopsWith_modify _) fun _ =>
      stopsWith_bind (script.statements_stopsWith overrides) fun _ => ih

theorem runWindow_stopsWith (candles : List Candle) :
    StopsWith script.program.Stops (script.runWindow overrides candles) := by
  cases candles with
  | nil => exact script.heading_stopsWith overrides
  | cons oldest newer =>
    exact stopsWith_bind (stopsWith_modify _) fun _ =>
      stopsWith_bind (script.heading_stopsWith overrides) fun _ =>
      stopsWith_bind (script.statements_stopsWith overrides) fun _ =>
      stopsWith_bind (script.runBars_stopsWith overrides newer) fun _ => stopsWith_pure _

end Script

/-- What a run does to its state. -/
inductive RunState.RunStep (overrides : Table String Float) : RunState → RunState → Prop
  | statement (before after : RunState) (step : RunState.StatementStep overrides before after) :
      RunStep overrides before after
  | bar (state : RunState) (candle : Candle) : RunStep overrides state (state.openBar candle)

/-- Variables have slots that follow what was assigned to them, except for those that are named as
price fields. -/
def RunState.HasSlots (targets : List String) (state : RunState) : Prop :=
  ∀ name ∈ targets, PriceField.ofName? name = none →
    ∃ slot last, state.memory.slots.get? name = some slot ∧ slot.Follows last

theorem RunState.HasSlots.step {targets : List String} {overrides : Table String Float}
    {before after : RunState} (has : before.HasSlots targets)
    (step : RunState.RunStep overrides before after) : after.HasSlots targets := by
  intro name target notField
  obtain ⟨slot, last, found, follows⟩ := has name target notField
  cases step with
  | statement _ step =>
    cases step with
    | expression _ step => exact ⟨slot, last, step.slots ▸ found, follows⟩
    | store other value memory stored =>
      obtain ⟨next, assigns, rfl⟩ := Memory.of_store_ok stored
      by_cases same : other = name
      · -- The slot that was assigned to follows the value from now on.
        subst same
        rw [found, Option.getD_some] at assigns
        exact ⟨next, some value, Table.get?_set_self _ _ _, follows.assign assigns⟩
      · exact ⟨slot, last, (Table.get?_set_of_ne _ _ _ _ same).trans found, follows⟩
  | bar candle => exact ⟨_, last, before.openBar_slot name candle found, follows.openSlot⟩

namespace Script

variable (script : Script) (overrides : Table String Float)

theorem initial_hasSlots : script.initial.HasSlots script.assignedNames :=
  fun name target notField =>
    ⟨_, none, script.initial_slot name target notField, .numeric [] nofun⟩

theorem runBars_moves (candles : List Candle) :
    Moves (RunState.RunStep overrides) (script.runBars overrides candles) := by
  induction candles with
  | nil => exact moves_pure _
  | cons candle newer ih =>
    refine moves_bind _ _ (moves_modify _ fun state => .bar state candle) fun _ => ?_
    exact moves_bind _ _ ((executeAll_moves overrides _).mono .statement) fun _ => ih

theorem runWindow_moves (candles : List Candle) :
    Moves (RunState.RunStep overrides) (script.runWindow overrides candles) := by
  cases candles with
  | nil => exact (script.heading_moves overrides).mono .statement
  | cons oldest newer =>
    refine moves_bind _ _ (moves_modify _ fun state => .bar state oldest) fun _ => ?_
    refine moves_bind _ _ ((script.heading_moves overrides).mono .statement) fun _ => ?_
    refine moves_bind _ _ ((executeAll_moves overrides _).mono .statement) fun _ => ?_
    exact moves_bind _ _ (script.runBars_moves overrides newer) fun _ => moves_pure _

/-- A run that fails stops in a state in which a part of the program fails with its error. -/
theorem stops_of_run {window : List Candle} {error : RunError}
    (failed : script.run window overrides = .error error) :
    ∃ stopped, outcome (script.runWindow overrides window.reverse) script.initial =
        (.error error, stopped) ∧ stopped.HasSlots script.assignedNames ∧
      script.program.Stops stopped error := by
  obtain ⟨stopped, ran⟩ := Eval.of_run_error failed
  refine ⟨stopped, ran, ?_, script.runWindow_stopsWith overrides _ _ _ _ ran⟩
  exact (script.runWindow_moves overrides _).keeps (RunState.HasSlots script.assignedNames)
    (fun _ _ step has => has.step step) ran script.initial_hasSlots

end Script

end ChartScript
