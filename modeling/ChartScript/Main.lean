import ChartScript.CommandLine

/-!
# The program

Reads what the command line names and writes the answer.
-/

set_option autoImplicit false

namespace ChartScript.CommandLine

def readDisk (path : String) : IO (Except FileError String) := do
  try
    return Files.textOf (← IO.FS.readBinFile path)
  catch
    | .inappropriateType .. => return .error .isDirectory
    | _ => return .error .notFound

def readNamed (arguments : List String) : IO TextReader := do
  match Options.read arguments with
  | .error _ => return fun _ => .error .notFound
  | .ok options =>
    let texts ← options.paths.mapM fun path => return (path, ← readDisk path)
    return fun path => (Table.get? texts path).getD (.error .notFound)

/-- Standard input is read only where the candles come from it. -/
def readStandardInput (arguments : List String) : IO (Except FileError String) := do
  match Options.read arguments with
  | .error _ => return .ok ""
  | .ok options =>
    if options.candles.isSome then return .ok ""
    else
      try
        return Files.textOf (← (← IO.getStdin).readBinToEnd)
      catch _ => return .error .notFound

end ChartScript.CommandLine

open ChartScript.CommandLine in
def main (arguments : List String) : IO UInt32 := do
  let readText ← readNamed arguments
  let standardInput ← readStandardInput arguments
  let answer := answer arguments standardInput readText
  IO.print answer.output
  IO.eprint answer.complaint
  return answer.code
