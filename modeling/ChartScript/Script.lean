import ChartScript.Evaluation

/-!
# Scripts

A script is a program that has been prepared: all functions it calls exist and get enough
arguments, and the variables and plots it can produce are known. `Script.run` evaluates it once
on each bar of a window, from the oldest to the newest.
-/

set_option autoImplicit false

namespace ChartScript

mutual

def Expr.calls : Expr → List Call
  | .number _ _ | .string _ _ | .boolean _ _ | .color _ _ | .name _ _ => []
  | .member object _ _ => object.calls
  | .history series offset _ _ => series.calls ++ offset.calls
  | .unary _ operand _ => operand.calls
  | .binary left _ right _ => left.calls ++ right.calls
  | .ternary condition whenTrue whenFalse _ =>
    condition.calls ++ whenTrue.calls ++ whenFalse.calls
  | .call call _ => call :: call.inner

def Call.inner : Call → List Call
  | .mk _ _ arguments named => Expr.callsOfAll arguments ++ NamedArgument.callsOfAll named

def Expr.callsOfAll : List Expr → List Call
  | [] => []
  | argument :: rest => argument.calls ++ Expr.callsOfAll rest

def NamedArgument.callsOfAll : List NamedArgument → List Call
  | [] => []
  | .mk _ value _ :: rest => value.calls ++ NamedArgument.callsOfAll rest

end

def Statement.calls : Statement → List Call
  | .assign _ value _ => value.calls
  | .expression value _ => value.calls
  | .ifThen condition thenBranch _ => condition.calls ++ thenBranch.calls
  | .ifThenElse condition thenBranch elseBranch _ =>
    condition.calls ++ thenBranch.calls ++ elseBranch.calls

def Statement.assigned : Statement → List String
  | .assign name _ _ => [name]
  | .expression _ _ => []
  | .ifThen _ thenBranch _ => thenBranch.assigned
  | .ifThenElse _ thenBranch elseBranch _ => thenBranch.assigned ++ elseBranch.assigned

namespace Program

def calls (program : Program) : List Call :=
  (program.declaration.elim [] (·.call.inner)) ++ program.statements.flatMap Statement.calls

/-- The names that a program can assign to, each one once. -/
def assignedNames (program : Program) : List String :=
  (program.statements.flatMap Statement.assigned).eraseDups

def title (program : Program) : String :=
  (program.declaration.bind (·.call.literalTitle? 0)).getD Chart.defaultTitle

end Program

namespace Call

/-- A call has to name a function and pass as many arguments as the function needs. -/
def check (call : Call) : Except RunError Unit :=
  match Builtin.ofName? call.function with
  | none => .error (.undefinedFunction call.function)
  | some builtin =>
    if call.argumentCount < builtin.minArguments then
      .error (.tooFewArguments call.function builtin.minArguments call.argumentCount)
    else .ok ()

def plot? (call : Call) : Option (Nat × Option String) :=
  if Builtin.ofName? call.function = some .plot then some (call.site, call.literalTitle? 1)
  else none

end Call

structure Script where
  program : Program
  assignedNames : List String
  plots : List (Nat × Option String)

def Program.prepare (program : Program) : Except RunError Script := do
  program.calls.forM Call.check
  return ⟨program, program.assignedNames, program.calls.filterMap Call.plot?⟩

/-! ## Runs -/

namespace Script

/-- The state before the first bar: all plots are there and nothing has a value. -/
def initial (script : Script) : RunState where
  memory := .empty script.assignedNames script.program.siteCount
  recorder := script.plots.foldl (fun recorder (site, title) => recorder.declarePlot site title)
    .empty

def openBar (candle : Candle) : Eval Unit :=
  modify fun state => ⟨state.memory.openBar candle, state.recorder.openBar⟩

def heading (script : Script) (overrides : Table String Float) : Eval (String × Bool) :=
  match script.program.declaration with
  | some declaration => declaration.evaluate overrides
  | none => return (Chart.defaultTitle, false)

def runBars (script : Script) (overrides : Table String Float) : List Candle → Eval Unit
  | [] => return ()
  | candle :: newer => do
    openBar candle
    executeAll overrides script.program.statements
    runBars script overrides newer

/-- Evaluates the declaration on the oldest bar and then the statements on all bars. Without a
bar there is only the declaration. -/
def runWindow (script : Script) (overrides : Table String Float) :
    List Candle → Eval (String × Bool)
  | [] => script.heading overrides
  | oldest :: newer => do
    openBar oldest
    let heading ← script.heading overrides
    executeAll overrides script.program.statements
    script.runBars overrides newer
    return heading

def run (script : Script) (window : List Candle) (overrides : Table String Float) :
    Except RunError Chart :=
  match (script.runWindow overrides window.reverse).run.run script.initial with
  | (.ok (title, overlay), state) =>
    .ok (state.recorder.finish title overlay state.memory.bars.length)
  | (.error error, _) => .error error

end Script

namespace Program

def execute (program : Program) (window : List Candle) (overrides : Table String Float) :
    Except RunError Chart := do
  (← program.prepare).run window overrides

/-- The chart of a run, or a chart that tells why there is none. -/
def chart (program : Program) (window : List Candle) (overrides : Table String Float) : Chart :=
  match program.execute window overrides with
  | .ok chart => chart
  | .error error => .failed program.title ("Runtime error: " ++ error.message)

end Program

end ChartScript
