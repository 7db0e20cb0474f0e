import ChartScript.CommandLine
import ChartScript.Proofs.Outcome
import Mathlib.Data.List.Induction

/-!
# What the options of a command line say

Some arguments of a command line take the word behind them along. `Argument.WrittenAll` cuts a list
of words into arguments, and `Options.take` is what one argument does to the options. A reading of
the words is a run of these steps, so the options depend on each kind of argument by itself
(`Groups`): of the candle files and the capacities only the last one counts, and inputs and scripts
keep their order among themselves.
-/

set_option autoImplicit false

namespace ChartScript.CommandLine

inductive Argument where
  | candles (path : String)
  | input (pair : String)
  | capacity (size : String)
  | pretty
  | script (path : String)
deriving Repr, DecidableEq

namespace Argument

/-- The words that stand for an argument. -/
inductive Written : Argument → List String → Prop
  | candles {word : String} (path : String) (isWord : word = "--candles" ∨ word = "-c") :
      Written (.candles path) [word, path]
  | input {word : String} (pair : String) (isWord : word = "--input" ∨ word = "-i") :
      Written (.input pair) [word, pair]
  | capacity (size : String) : Written (.capacity size) ["--capacity", size]
  | pretty : Written .pretty ["--pretty"]
  | script {path : String} (noOption : path.toList.head? ≠ some '-') :
      Written (.script path) [path]

def candles? : Argument → Option String
  | candles path => some path
  | _ => none

def pair? : Argument → Option String
  | input pair => some pair
  | _ => none

def size? : Argument → Option String
  | capacity size => some size
  | _ => none

def script? : Argument → Option String
  | script path => some path
  | _ => none

end Argument

/-- What arguments say, each kind of them by itself. -/
structure Groups where
  candles : Option String
  inputs : List String
  capacity : Option String
  pretty : Bool
  scripts : List String
deriving Repr, DecidableEq

def Groups.of (arguments : List Argument) : Groups where
  candles := (arguments.filterMap Argument.candles?).getLast?
  inputs := arguments.filterMap Argument.pair?
  capacity := (arguments.filterMap Argument.size?).getLast?
  pretty := .pretty ∈ arguments
  scripts := arguments.filterMap Argument.script?

namespace Groups

def add (groups : Groups) : Argument → Groups
  | .candles path => { groups with candles := some path }
  | .input pair => { groups with inputs := groups.inputs ++ [pair] }
  | .capacity size => { groups with capacity := some size }
  | .pretty => { groups with pretty := true }
  | .script path => { groups with scripts := groups.scripts ++ [path] }

theorem of_append (arguments : List Argument) (last : Argument) :
    of (arguments ++ [last]) = (of arguments).add last := by
  cases last <;>
    simp [of, add, List.filterMap_append, Argument.candles?, Argument.pair?, Argument.size?,
      Argument.script?]

end Groups

namespace Options

/-! ## One argument -/

/-- What one argument does to the options. -/
def take (options : Options) : Argument → Except CommandError Options
  | .candles path => return { options with candles := some path }
  | .input pair => return { options with inputs := options.inputs ++ [← readInput pair] }
  | .capacity size => return { options with capacity := ← readCapacity size }
  | .pretty => return { options with pretty := true }
  | .script path => return { options with scripts := options.scripts ++ [path] }

def finish (options : Options) : Except CommandError Options :=
  if options.scripts.isEmpty then .error .usage else .ok options

/-- The options say what the groups of arguments say. -/
structure Follows (options : Options) (groups : Groups) : Prop where
  candles : options.candles = groups.candles
  inputs : groups.inputs.mapM readInput = .ok options.inputs
  capacity : groups.capacity.elim (.ok Ring.defaultCapacity) readCapacity = .ok options.capacity
  pretty : options.pretty = groups.pretty
  scripts : options.scripts = groups.scripts

theorem Follows.unique {options others : Options} {groups : Groups}
    (follows : options.Follows groups) (othersFollow : others.Follows groups) :
    options = others := by
  have candles := follows.candles.trans othersFollow.candles.symm
  have inputs := Except.ok.inj (follows.inputs.symm.trans othersFollow.inputs)
  have capacity := Except.ok.inj (follows.capacity.symm.trans othersFollow.capacity)
  have pretty := follows.pretty.trans othersFollow.pretty.symm
  have scripts := follows.scripts.trans othersFollow.scripts.symm
  cases options
  cases others
  simp_all

theorem Follows.take {options next : Options} {groups : Groups} {argument : Argument}
    (follows : options.Follows groups) (taken : options.take argument = .ok next) :
    next.Follows (groups.add argument) := by
  cases argument with
  | candles path =>
    cases taken
    exact { follows with candles := rfl }
  | input pair =>
    obtain ⟨input, read, taken⟩ := of_bind_ok taken
    cases taken
    refine { follows with inputs := ?_ }
    rw [Groups.add, List.mapM_append, follows.inputs, List.mapM_cons, read]
    rfl
  | capacity size =>
    obtain ⟨capacity, read, taken⟩ := of_bind_ok taken
    cases taken
    exact { follows with capacity := read }
  | pretty =>
    cases taken
    exact { follows with pretty := rfl }
  | script path =>
    cases taken
    exact { follows with scripts := congrArg (· ++ [path]) follows.scripts }

end Options

end ChartScript.CommandLine
