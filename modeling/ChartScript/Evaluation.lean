import ChartScript.Builtin
import ChartScript.Memory
import ChartScript.Operation
import ChartScript.Recorder

/-!
# Evaluation

What the expressions and statements of a script do on one bar. An evaluation reads and extends
the memory of the run and the chart that is recorded; what it did before an error stays done.
-/

set_option autoImplicit false

namespace ChartScript

structure RunState where
  memory : Memory
  recorder : Recorder

structure Context where
  overrides : Table String Float
  /-- The variable that the value of the expression is for. -/
  target : Option String

abbrev Eval := ExceptT RunError (StateM RunState)

namespace Eval

def memory : Eval Memory := do
  return (← get).memory

/-- Lets a call draw; such a call has no value of its own. -/
def draw (change : Recorder → Except RunError Recorder) : Eval Value := do
  let state ← get
  let recorder ← change state.recorder
  set { state with recorder := recorder }
  return .na

def settle (site : Nat) (result : Float) : Eval Value := do
  modify fun state => { state with memory := state.memory.setResult site result }
  return .number result

end Eval

def Memory.namedSeries? (memory : Memory) : Expr → Option (Series Float)
  | .name path _ => memory.numeric? path
  | _ => none

/-- The history of an operand: that of the name, or else what the site evaluated on each bar. -/
def Eval.operand (site : Nat) (operand : Operand) (expr : Expr) (evaluated : Eval Value) :
    Eval (Series Float) := do
  match (← memory).namedSeries? expr with
  | some series => return series
  | none =>
    let value ← evaluated
    let number ← value.asNumber "series"
    modify fun state => { state with memory := state.memory.setOperand site operand number }
    return ((← memory).site site).operand operand

def historyOffset (offset : Float) : Except RunError Nat :=
  if !offset.isFinite || offset < 0.0 then
    .error (.invalidArgument "[]" "offset"
      ("expected a non-negative bar offset, got " ++ Numeral.text offset))
  else .ok (Numeral.toIndex offset)

/-- Variables that hold no numbers have no history. -/
def Memory.checkHistory (memory : Memory) : Expr → Except RunError Unit
  | .name path _ => if memory.isScalar path then .error (.notSeries path) else .ok ()
  | _ => .ok ()

def Eval.historyBars (series : Expr) (offset : Value) : Eval Nat := do
  let bars ← historyOffset (← offset.asNumber "[]")
  (← memory).checkHistory series
  return bars

/-! ## Built-in functions -/

/-- Indicators over a length, without `ema`, which also depends on its own past. -/
def Builtin.windowed? : Builtin → Option (Series Float → Nat → Float)
  | sma => some Series.sma
  | rsi => some Series.rsi
  | stdev => some Series.stdev
  | highest => some Series.highest
  | lowest => some Series.lowest
  | _ => none

/-- Combines all positional arguments; one missing number makes the result missing. -/
def Arguments.extreme (arguments : Arguments) (choose : Float → Float → Float) :
    Except RunError Float := do
  let numbers ← arguments.values.mapM (·.asNumber (arguments.operation "x"))
  match numbers with
  | [] => return Numeral.nan
  | first :: rest =>
    return rest.foldl
      (fun current next =>
        if next.isNaN || current.isNaN then Numeral.nan else choose current next)
      first

/-- The name of an input without a title: the variable it is for, or else its site. -/
def inputName (target : Option String) (site : Nat) : String :=
  target.getD ("input" ++ toString site)

def Arguments.input (arguments : Arguments) (target : Option String) (site : Nat) :
    Except RunError (String × Float) := do
  let default ← arguments.requiredNumber 0 "defval"
  let title ← arguments.string? 1 "title"
  return (title.getD (inputName target site), default)

def Eval.input (context : Context) (site : Nat) (arguments : Arguments) : Eval Value := do
  let (name, default) ← arguments.input context.target site
  let state ← get
  let (value, recorder) := state.recorder.input context.overrides name default
  set { state with recorder := recorder }
  return .number value

def Eval.indicator (builtin : Builtin) (site : Nat) (sources : List (Series Float))
    (arguments : Arguments) : Eval Value := do
  let first := sources.headD []
  let second := sources.tail.headD []
  match builtin with
  | .ema =>
    let length ← arguments.length 1 "length"
    let previous := ((← memory).site site).result.before 1
    settle site (first.ema length previous)
  | .change =>
    let length ← match arguments.get? 1 "length" with
      | some _ => arguments.length 1 "length"
      | none => pure 1
    settle site (first.change length)
  | .crossover => return .boolean (first.crossover second)
  | .crossunder => return .boolean (first.crossunder second)
  | _ =>
    match builtin.windowed? with
    | some windowed =>
      let length ← arguments.length 1 "length"
      settle site (windowed first length)
    | none => return .na

def Builtin.compute (builtin : Builtin) (arguments : Arguments) : Except RunError Value := do
  match builtin with
  | nz =>
    let value ← arguments.required 0 "source"
    if value.isNa then
      let replacement ← arguments.number? 1 "replacement"
      return .number (replacement.getD 0.0)
    else return value
  | na => return .boolean (← arguments.required 0 "source").isNa
  | abs => return .number (← arguments.requiredNumber 0 "x").abs
  | max => return .number (← arguments.extreme Series.larger)
  | min => return .number (← arguments.extreme Series.smaller)
  | colorNew =>
    let transparency ← arguments.number? 1 "transp"
    match ← arguments.color? 0 "color" with
    | some color => return .color (color.withTransparency (transparency.getD 0.0))
    | none => return .na
  | _ => return .na

def Builtin.apply (builtin : Builtin) (context : Context) (site : Nat)
    (sources : List (Series Float)) (arguments : Arguments) : Eval Value := do
  if builtin.isSeries then Eval.indicator builtin site sources arguments
  else
    let memory ← Eval.memory
    let bar := memory.barIndex
    match builtin with
    | plot => Eval.draw (·.plot site arguments)
    | hline => Eval.draw (·.line site arguments)
    | plotShape => Eval.draw (·.marker bar .shape arguments)
    | plotChar => Eval.draw (·.marker bar .character arguments)
    | backgroundColor => Eval.draw (·.background bar arguments)
    | alert => Eval.draw (·.alert site memory.bars.length arguments)
    | strategyEntry => Eval.draw (·.entry bar arguments)
    | strategyLong => Eval.draw (·.signal bar .long arguments)
    | strategyShort => Eval.draw (·.signal bar .short arguments)
    | strategyClose => Eval.draw (·.signal bar .close arguments)
    | input => Eval.input context site arguments
    | _ => builtin.compute arguments

def Builtin.operands (builtin : Builtin) : List Operand :=
  [.first, .second].take builtin.seriesArity

/-! ## Expressions and statements -/

def Eval.load (name : String) : Eval Value := do
  match (← memory).load? name <|> Value.constant? name with
  | some value => return value
  | none => throw (.undefinedVariable name)

/-- Applies an operator. The right operand of `and` and `or` is evaluated only where the left one
does not decide. -/
def Eval.binary (op : BinaryOp) (left : Value) (right : Eval Value) : Eval Value := do
  match op.deciding? with
  | some deciding =>
    if (← left.truthy op.symbol) = deciding then return .boolean deciding
    else
      let rightValue ← right
      return .boolean (← rightValue.truthy op.symbol)
  | none =>
    let rightValue ← right
    op.apply left rightValue

mutual

def Expr.evaluate (context : Context) : Expr → Eval Value
  | .number value _ => return .number value
  | .string text _ => return .string text
  | .boolean value _ => return .boolean value
  | .color value _ => return .color value
  | .name path _ => Eval.load path
  | .member _ name _ => throw (.unsupportedMember name)
  | .history series offset site _ => do
    let offsetValue ← offset.evaluate context
    let bars ← Eval.historyBars series offsetValue
    let values ← Eval.operand site .first series (series.evaluate context)
    return .number (values.before bars)
  | .unary op operand _ => do
    let value ← operand.evaluate context
    op.apply value
  | .binary left op right _ => do
    let leftValue ← left.evaluate context
    Eval.binary op leftValue (right.evaluate context)
  | .ternary condition whenTrue whenFalse _ => do
    let value ← condition.evaluate context
    if ← value.truthy "?:" then whenTrue.evaluate context else whenFalse.evaluate context
  | .call call _ => call.evaluate context

/-- Calls a function: series operands are evaluated first, then the other arguments in the order
in which they are passed. -/
def Call.evaluate (context : Context) : Call → Eval Value
  | .mk function site arguments named => do
    match Builtin.ofName? function with
    | none => throw (.undefinedFunction function)
    | some builtin =>
      let sources ← Expr.evaluateSources context function site builtin.operands arguments
      let positional ← Expr.evaluatePositional context builtin.seriesArity arguments
      let namedValues ← NamedArgument.evaluateAll context named
      builtin.apply context site sources ⟨function, positional, namedValues⟩

def Expr.evaluateSources (context : Context) (function : String) (site : Nat) :
    List Operand → List Expr → Eval (List (Series Float))
  | [], _ => return []
  | _ :: _, [] => throw (.missingArgument function "source")
  | operand :: operands, argument :: arguments => do
    let series ← Eval.operand site operand argument (argument.evaluate context)
    let others ← Expr.evaluateSources context function site operands arguments
    return series :: others

/-- The values of the positional arguments behind the first `skipped`. -/
def Expr.evaluatePositional (context : Context) :
    Nat → List Expr → Eval (List (Option Value))
  | _, [] => return []
  | skipped + 1, _ :: arguments => do
    let others ← Expr.evaluatePositional context skipped arguments
    return none :: others
  | 0, argument :: arguments => do
    let value ← argument.evaluate context
    let others ← Expr.evaluatePositional context 0 arguments
    return some value :: others

def NamedArgument.evaluateAll (context : Context) :
    List NamedArgument → Eval (List (String × Value))
  | [] => return []
  | .mk name argument _ :: arguments => do
    let value ← argument.evaluate context
    let others ← NamedArgument.evaluateAll context arguments
    return (name, value) :: others

end

def Declaration.evaluate (declaration : Declaration) (overrides : Table String Float) :
    Eval (String × Bool) := do
  let call := declaration.call
  let context : Context := ⟨overrides, none⟩
  let positional ← Expr.evaluatePositional context 0 call.arguments
  let named ← NamedArgument.evaluateAll context call.named
  let arguments : Arguments := ⟨call.function, positional, named⟩
  let title ← arguments.string? 0 "title"
  let overlay ← arguments.flag? 2 "overlay"
  return (title.getD Chart.defaultTitle, overlay.getD false)

def Eval.store (name : String) (value : Value) : Eval Unit := do
  let state ← get
  let memory ← state.memory.store name value
  set { state with memory := memory }

def Statement.execute (overrides : Table String Float) : Statement → Eval Unit
  | .assign name value _ => do
    let assigned ← value.evaluate ⟨overrides, some name⟩
    Eval.store name assigned
  | .expression value _ => do
    let _ ← value.evaluate ⟨overrides, none⟩
  | .ifThen condition thenBranch _ => do
    let value ← condition.evaluate ⟨overrides, none⟩
    if ← value.truthy "if" then thenBranch.execute overrides
  | .ifThenElse condition thenBranch elseBranch _ => do
    let value ← condition.evaluate ⟨overrides, none⟩
    if ← value.truthy "if" then thenBranch.execute overrides else elseBranch.execute overrides

def executeAll (overrides : Table String Float) : List Statement → Eval Unit
  | [] => return ()
  | statement :: rest => do
    statement.execute overrides
    executeAll overrides rest

end ChartScript
