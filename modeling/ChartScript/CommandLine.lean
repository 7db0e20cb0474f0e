import ChartScript.Candle.Record
import ChartScript.Candle.Ring
import ChartScript.Chart.Report
import ChartScript.Workspace

/-!
# The command line

What the arguments of the program ask for, and what it answers with: the charts of some script
files on the same candles, or the reason why there are none.
-/

set_option autoImplicit false

namespace ChartScript.CommandLine

inductive CommandError where
  | usage
  | unknownOption (argument : String)
  | missingFileName (argument : String)
  | missingPair (argument : String)
  | malformedPair (pair : String)
  | malformedInput (name : String)
  | missingSize (argument : String)
  | malformedCapacity (size : String)
  | unreadableInput
  | unreadableCandles (path : String)
  | malformedCandles
  | unreadableScript (path : String)
deriving Repr, DecidableEq

def usageText : String :=
  "Usage: pinelet [--candles FILE] [--input NAME=VALUE]... [--capacity N] [--pretty] SCRIPT..."

def CommandError.message : CommandError → String
  | usage => usageText
  | unknownOption argument => "Unknown option '" ++ argument ++ "'\n" ++ usageText
  | missingFileName argument => "Missing file name after " ++ argument
  | missingPair argument => "Missing NAME=VALUE after " ++ argument
  | malformedPair pair => "Expected NAME=VALUE, got '" ++ pair ++ "'"
  | malformedInput name => "Input '" ++ name ++ "' is not a number"
  | missingSize argument => "Missing size after " ++ argument
  | malformedCapacity size => "Invalid capacity '" ++ size ++ "'"
  | unreadableInput => "Reading stdin"
  | unreadableCandles path => "Reading " ++ path
  | malformedCandles => "Parsing candles (expected a JSON array, oldest first)"
  | unreadableScript path => "Loading script " ++ path

/-! ## Options -/

structure Options where
  /-- The file of the candles; without one they come from standard input. -/
  candles : Option String
  inputs : List (String × Float)
  capacity : Nat
  pretty : Bool
  scripts : List String

namespace Options

def default : Options := ⟨none, [], Ring.defaultCapacity, false, []⟩

def readInput (pair : String) : Except CommandError (String × Float) :=
  let characters := pair.toList
  match characters.dropWhile (· ≠ '=') with
  | [] => .error (.malformedPair pair)
  | _ :: value =>
    let name := String.ofList (characters.takeWhile (· ≠ '='))
    match Numeral.readFloat? value with
    | some number => .ok (name, number)
    | none => .error (.malformedInput name)

def readCapacity (size : String) : Except CommandError Nat :=
  match Numeral.readNatural? Numeral.wordLimit size.toList with
  | some capacity => .ok capacity
  | none => .error (.malformedCapacity size)

/-- Takes arguments one after the other. What is no option is a script. -/
def readFrom (options : Options) : List String → Except CommandError Options
  | [] => if options.scripts.isEmpty then .error .usage else .ok options
  | argument :: rest =>
    if argument = "--candles" || argument = "-c" then
      match rest with
      | [] => .error (.missingFileName argument)
      | path :: others => readFrom { options with candles := some path } others
    else if argument = "--input" || argument = "-i" then
      match rest with
      | [] => .error (.missingPair argument)
      | pair :: others =>
        match readInput pair with
        | .error error => .error error
        | .ok input => readFrom { options with inputs := options.inputs ++ [input] } others
    else if argument = "--capacity" then
      match rest with
      | [] => .error (.missingSize argument)
      | size :: others =>
        match readCapacity size with
        | .error error => .error error
        | .ok capacity => readFrom { options with capacity := capacity } others
    else if argument = "--pretty" then readFrom { options with pretty := true } rest
    else if argument = "--help" || argument = "-h" then .error .usage
    else if argument.toList.head? = some '-' then .error (.unknownOption argument)
    else readFrom { options with scripts := options.scripts ++ [argument] } rest

def read (arguments : List String) : Except CommandError Options :=
  readFrom default arguments

def paths (options : Options) : List String :=
  options.candles.toList ++ options.scripts

end Options

/-! ## Runs -/

abbrev TextReader := String → Except FileError String

instance : Coe String (Except FileError String) := ⟨.ok⟩

def candles (options : Options) (standardInput : Except FileError String) (readText : TextReader) :
    Except CommandError (List Candle) := do
  let text ← match options.candles with
    | none =>
      match standardInput with
      | .ok text => pure text
      | .error _ => .error .unreadableInput
    | some path =>
      match readText path with
      | .ok text => pure text
      | .error _ => .error (.unreadableCandles path)
  match Candle.listOfText? text with
  | some candles => return candles
  | none => .error .malformedCandles

def setInputs (document : Document) (inputs : List (String × Float)) : Document :=
  { document with
    inputs := inputs.foldl (fun table (name, value) => Table.set table name value)
      document.inputs }

def loadScript (inputs : List (String × Float)) (readText : TextReader) (workspace : Workspace)
    (path : String) : Except CommandError Workspace :=
  match workspace.load readText path with
  | .error _ => .error (.unreadableScript path)
  | .ok (index, loaded) =>
    match loaded.modify index (setInputs · inputs) with
    | .error _ => .error (.unreadableScript path)
    | .ok (_, changed) => .ok changed

/-- One chart for each script, on the last candles that the capacity admits. -/
def charts (options : Options) (standardInput : Except FileError String) (readText : TextReader) :
    Except CommandError (List Chart) := do
  let candles ← candles options standardInput readText
  let ring := (Ring.withCapacity options.capacity).extend candles
  let workspace ← options.scripts.foldlM (loadScript options.inputs readText) .empty
  return (workspace.runAll ring.window).1

def renderCharts (options : Options) (charts : List Chart) : String :=
  let report := Json.array (charts.map (·.report Json.ofFloat))
  (if options.pretty then report.renderIndented 0 else report.render) ++ "\n"

def run (arguments : List String) (standardInput : Except FileError String)
    (readText : TextReader) : Except CommandError String := do
  let options ← Options.read arguments
  let charts ← charts options standardInput readText
  return renderCharts options charts

/-- What the program ends with: its exit code, and what it writes to standard output and to
standard error. -/
structure Answer where
  code : UInt32
  output : String
  complaint : String
deriving Repr, DecidableEq

def answer (arguments : List String) (standardInput : Except FileError String)
    (readText : TextReader) : Answer :=
  match run arguments standardInput readText with
  | .ok text => ⟨0, text, ""⟩
  | .error error => ⟨1, "", "Error: " ++ error.message ++ "\n"⟩

end ChartScript.CommandLine
