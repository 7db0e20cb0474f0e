/-!
# Built-in functions

The functions a script can call, and the names they are called by.
-/

set_option autoImplicit false

namespace ChartScript

inductive Builtin where
  | plot
  | hline
  | plotShape
  | plotChar
  | backgroundColor
  | alert
  | strategyEntry
  | strategyLong
  | strategyShort
  | strategyClose
  | input
  | sma
  | ema
  | rsi
  | stdev
  | highest
  | lowest
  | crossover
  | crossunder
  | change
  | nz
  | na
  | abs
  | max
  | min
  | colorNew
deriving Repr, DecidableEq

namespace Builtin

def ofName? : String → Option Builtin
  | "plot" => some plot
  | "hline" => some hline
  | "plotshape" => some plotShape
  | "plotchar" => some plotChar
  | "bgcolor" => some backgroundColor
  | "alert" | "alertcondition" => some alert
  | "strategy.entry" => some strategyEntry
  | "strategy.long" => some strategyLong
  | "strategy.short" => some strategyShort
  | "strategy.close" => some strategyClose
  | "input" | "input.int" | "input.float" | "input.bool" => some input
  | "nz" => some nz
  | "na" => some na
  | "color.new" => some colorNew
  | "sma" | "ta.sma" => some sma
  | "ema" | "ta.ema" => some ema
  | "rsi" | "ta.rsi" => some rsi
  | "stdev" | "ta.stdev" => some stdev
  | "highest" | "ta.highest" => some highest
  | "lowest" | "ta.lowest" => some lowest
  | "crossover" | "ta.crossover" => some crossover
  | "crossunder" | "ta.crossunder" => some crossunder
  | "change" | "ta.change" => some change
  | "abs" | "math.abs" => some abs
  | "max" | "math.max" => some max
  | "min" | "math.min" => some min
  | _ => none

/-- How many leading arguments are read as whole series. -/
def seriesArity : Builtin → Nat
  | crossover | crossunder => 2
  | sma | ema | rsi | stdev | highest | lowest | change => 1
  | _ => 0

def isSeries (builtin : Builtin) : Bool :=
  builtin.seriesArity > 0

def minArguments : Builtin → Nat
  | sma | ema | rsi | stdev | highest | lowest | crossover | crossunder => 2
  | max | min | colorNew | strategyEntry => 2
  | strategyLong | strategyShort | strategyClose => 0
  | _ => 1

end Builtin

end ChartScript
