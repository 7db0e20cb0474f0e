import ChartScript.Loaded.Memory
import ChartScript.Script

/-!
# Runs over a loaded window

A script evaluated on the bars of a window that is loaded as a whole, from the highest index down
to zero. What is drawn has a cell for each bar of the window from the start, and is placed by the
index of its bar.
-/

set_option autoImplicit false

namespace ChartScript.Loaded

structure State where
  memory : Memory
  recorder : Recorder

abbrev Eval := ExceptT RunError (StateM State)

def declarePlot (bars : Nat) (recorder : Recorder) (site : Nat) (title : Option String) :
    Recorder :=
  let title := title.getD ("Plot " ++ toString (recorder.plots.length + 1))
  let plot : Plot := ⟨title, .replicate bars Numeral.nan, Chart.plotColor, Chart.lineWidth⟩
  { recorder with plots := Table.setNew recorder.plots site plot }

def declarePlots (bars : Nat) (plots : List (Nat × Option String)) : Recorder :=
  plots.foldl (fun recorder plot => declarePlot bars recorder plot.1 plot.2) .empty

def updatePlot (bar : Nat) (plot : Plot) (value : Float) (title : Option String)
    (color : Option Color) (width : Option Float) : Plot :=
  { Recorder.updatePlot plot value title color width with values := plot.values.set bar value }

def plot (recorder : Recorder) (bar site : Nat) (arguments : Arguments) :
    Except RunError Recorder := do
  let value ← arguments.requiredNumber 0 "series"
  let title ← arguments.string? 1 "title"
  let color ← arguments.color? 2 "color"
  let width ← arguments.number? 3 "linewidth"
  return { recorder with
    plots := Table.modify recorder.plots site (updatePlot bar · value title color width) }

def setTriggered (bar : Nat) (alert : Alert) (triggered : Bool) : Alert :=
  { alert with triggered := alert.triggered.set bar triggered }

def alert (recorder : Recorder) (bar site bars : Nat) (arguments : Arguments) :
    Except RunError Recorder := do
  let (triggered, title, message) ← recorder.alertParts arguments
  let first : Alert := ⟨title, message, List.replicate bars false⟩
  let declared := Table.setNew recorder.alerts site first
  return { recorder with alerts := Table.modify declared site (setTriggered bar · triggered) }

def placed {α : Type} (entry : Nat × α) : OnBar α :=
  ⟨entry.1, entry.2⟩

def chart (recorder : Recorder) (title : String) (overlay : Bool) : Chart where
  title := title
  overlay := overlay
  error := none
  plots := recorder.plots.map (·.2)
  lines := recorder.lines.map (·.2)
  shapes := recorder.shapes.toList.map placed
  backgrounds := recorder.backgrounds.toList.map placed
  alerts := recorder.alerts.map (·.2)
  signals := recorder.signals.toList.map placed
  inputs := recorder.inputs.map (·.2)

/-! ## Evaluation -/

def memory : Eval Memory := do
  return (← get).memory

def draw (change : Recorder → Except RunError Recorder) : Eval Value := do
  let state ← get
  let recorder ← change state.recorder
  set { state with recorder := recorder }
  return .na

def settle (site : Nat) (result : Float) : Eval Value := do
  modify fun state => { state with memory := state.memory.setResult site result }
  return .number result

def Memory.namedColumn? (memory : Memory) : Expr → Option Column
  | .name path _ => memory.column? path
  | _ => none

def operand (site : Nat) (operand : Operand) (expr : Expr) (evaluated : Eval Value) :
    Eval Column := do
  match (← memory).namedColumn? expr with
  | some column => return column
  | none =>
    let value ← evaluated
    let number ← value.asNumber "series"
    modify fun state => { state with memory := state.memory.setOperand site operand number }
    return (← memory).operand site operand

def Memory.checkHistory (memory : Memory) : Expr → Except RunError Unit
  | .name path _ => if memory.isScalar path then .error (.notSeries path) else .ok ()
  | _ => .ok ()

def historyBars (series : Expr) (offset : Value) : Eval Nat := do
  let bars ← historyOffset (← offset.asNumber "[]")
  (← memory).checkHistory series
  return bars

def input (context : Context) (site : Nat) (arguments : Arguments) : Eval Value := do
  let (name, default) ← arguments.input context.target site
  let state ← get
  let (value, recorder) := state.recorder.input context.overrides name default
  set { state with recorder := recorder }
  return .number value

def windowed? : Builtin → Option (Column → Nat → Nat → Float)
  | .sma => some Column.sma
  | .rsi => some Column.rsi
  | .stdev => some Column.stdev
  | .highest => some Column.highest
  | .lowest => some Column.lowest
  | _ => none

def indicator (builtin : Builtin) (site : Nat) (sources : List Column) (arguments : Arguments) :
    Eval Value := do
  let first := sources.headD []
  let second := sources.tail.headD []
  let bar := (← memory).bar
  match builtin with
  | .ema =>
    let length ← arguments.length 1 "length"
    let previous := ((← memory).result site).value (bar + 1)
    settle site (first.ema bar length previous)
  | .change =>
    let length ← match arguments.get? 1 "length" with
      | some _ => arguments.length 1 "length"
      | none => pure 1
    settle site (first.change bar length)
  | .crossover => return .boolean (first.crossover second bar)
  | .crossunder => return .boolean (first.crossunder second bar)
  | _ =>
    match windowed? builtin with
    | some windowed =>
      let length ← arguments.length 1 "length"
      settle site (windowed first bar length)
    | none => return .na

def apply (builtin : Builtin) (context : Context) (site : Nat) (sources : List Column)
    (arguments : Arguments) : Eval Value := do
  if builtin.isSeries then indicator builtin site sources arguments
  else
    let memory ← Loaded.memory
    let bar := memory.bar
    match builtin with
    | .plot => draw (plot · bar site arguments)
    | .hline => draw (·.line site arguments)
    | .plotShape => draw (·.marker bar .shape arguments)
    | .plotChar => draw (·.marker bar .character arguments)
    | .backgroundColor => draw (·.background bar arguments)
    | .alert => draw (alert · bar site memory.bars.length arguments)
    | .strategyEntry => draw (·.entry bar arguments)
    | .strategyLong => draw (·.signal bar .long arguments)
    | .strategyShort => draw (·.signal bar .short arguments)
    | .strategyClose => draw (·.signal bar .close arguments)
    | .input => input context site arguments
    | _ => builtin.compute arguments

def load (name : String) : Eval Value := do
  match (← memory).load? name <|> Value.constant? name with
  | some value => return value
  | none => throw (.undefinedVariable name)

def binary (op : BinaryOp) (left : Value) (right : Eval Value) : Eval Value := do
  match op.deciding? with
  | some deciding =>
    if (← left.truthy op.symbol) = deciding then return .boolean deciding
    else
      let rightValue ← right
      return .boolean (← rightValue.truthy op.symbol)
  | none =>
    let rightValue ← right
    op.apply left rightValue

mutual

def evaluate (context : Context) : Expr → Eval Value
  | .number value _ => return .number value
  | .string text _ => return .string text
  | .boolean value _ => return .boolean value
  | .color value _ => return .color value
  | .name path _ => load path
  | .member _ name _ => throw (.unsupportedMember name)
  | .history series offset site _ => do
    let offsetValue ← evaluate context offset
    let bars ← historyBars series offsetValue
    let column ← operand site .first series (evaluate context series)
    return .number (column.value ((← memory).bar + bars))
  | .unary op operand _ => do
    let value ← evaluate context operand
    op.apply value
  | .binary left op right _ => do
    let leftValue ← evaluate context left
    binary op leftValue (evaluate context right)
  | .ternary condition whenTrue whenFalse _ => do
    let value ← evaluate context condition
    if ← value.truthy "?:" then evaluate context whenTrue else evaluate context whenFalse
  | .call call _ => evaluateCall context call

def evaluateCall (context : Context) : Call → Eval Value
  | .mk function site arguments named => do
    match Builtin.ofName? function with
    | none => throw (.undefinedFunction function)
    | some builtin =>
      let sources ← evaluateSources context function site builtin.operands arguments
      let positional ← evaluatePositional context builtin.seriesArity arguments
      let namedValues ← evaluateNamed context named
      apply builtin context site sources ⟨function, positional, namedValues⟩

/-- A column that was found stays as it is while the other arguments are evaluated. -/
def evaluateSources (context : Context) (function : String) (site : Nat) :
    List Operand → List Expr → Eval (List Column)
  | [], _ => return []
  | _ :: _, [] => throw (.missingArgument function "source")
  | which :: operands, argument :: arguments => do
    let column ← operand site which argument (evaluate context argument)
    let others ← evaluateSources context function site operands arguments
    return column :: others

def evaluatePositional (context : Context) : Nat → List Expr → Eval (List (Option Value))
  | _, [] => return []
  | skipped + 1, _ :: arguments => do
    let others ← evaluatePositional context skipped arguments
    return none :: others
  | 0, argument :: arguments => do
    let value ← evaluate context argument
    let others ← evaluatePositional context 0 arguments
    return some value :: others

def evaluateNamed (context : Context) : List NamedArgument → Eval (List (String × Value))
  | [] => return []
  | .mk name argument _ :: arguments => do
    let value ← evaluate context argument
    let others ← evaluateNamed context arguments
    return (name, value) :: others

end

def store (name : String) (value : Value) : Eval Unit := do
  let state ← get
  let memory ← state.memory.store name value
  set { state with memory := memory }

def execute (overrides : Table String Float) : Statement → Eval Unit
  | .assign name value _ => do
    let assigned ← evaluate ⟨overrides, some name⟩ value
    store name assigned
  | .expression value _ => do
    let _ ← evaluate ⟨overrides, none⟩ value
  | .ifThen condition thenBranch _ => do
    let value ← evaluate ⟨overrides, none⟩ condition
    if ← value.truthy "if" then execute overrides thenBranch
  | .ifThenElse condition thenBranch elseBranch _ => do
    let value ← evaluate ⟨overrides, none⟩ condition
    if ← value.truthy "if" then execute overrides thenBranch else execute overrides elseBranch

def executeAll (overrides : Table String Float) : List Statement → Eval Unit
  | [] => return ()
  | statement :: rest => do
    execute overrides statement
    executeAll overrides rest

def declare (declaration : Declaration) (overrides : Table String Float) :
    Eval (String × Bool) := do
  let call := declaration.call
  let context : Context := ⟨overrides, none⟩
  let positional ← evaluatePositional context 0 call.arguments
  let named ← evaluateNamed context call.named
  let arguments : Arguments := ⟨call.function, positional, named⟩
  let title ← arguments.string? 0 "title"
  let overlay ← arguments.flag? 2 "overlay"
  return (title.getD Chart.defaultTitle, overlay.getD false)

/-! ## Runs -/

def heading (script : Script) (overrides : Table String Float) : Eval (String × Bool) :=
  match script.program.declaration with
  | some declaration => declare declaration overrides
  | none => return (Chart.defaultTitle, false)

def State.on (bar : Nat) (state : State) : State :=
  { state with memory := { state.memory with bar := bar } }

/-- Evaluates the statements on the bars below an index, down to the newest one. -/
def runBelow (script : Script) (overrides : Table String Float) : Nat → Eval Unit
  | 0 => return ()
  | bar + 1 => do
    modify (State.on bar)
    executeAll overrides script.program.statements
    runBelow script overrides bar

def initial (script : Script) (window : List Candle) : State where
  memory := .load script.assignedNames script.program.siteCount window
  recorder := declarePlots window.length script.plots

def runWindow (script : Script) (overrides : Table String Float) (bars : Nat) :
    Eval (String × Bool) := do
  let heading ← heading script overrides
  runBelow script overrides bars
  return heading

def run (script : Script) (window : List Candle) (overrides : Table String Float) :
    Except RunError Chart :=
  match (runWindow script overrides window.length).run.run (initial script window) with
  | (.ok (title, overlay), state) => .ok (chart state.recorder title overlay)
  | (.error error, _) => .error error

end ChartScript.Loaded
