import ChartScript.Color
import ChartScript.Numeral.Shortest

/-!
# Values and evaluation errors

What the expressions of a script evaluate to, and why an evaluation fails. The number that is not
a number stands for a missing value, `na`.
-/

set_option autoImplicit false

namespace ChartScript

inductive ValueType where
  | number
  | boolean
  | string
  | color
deriving Repr, DecidableEq

def ValueType.describe : ValueType → String
  | number => "number"
  | boolean => "bool"
  | string => "string"
  | color => "color"

inductive RunError where
  | typeMismatch (operation : String) (expected got : ValueType)
  | undefinedVariable (name : String)
  | undefinedFunction (name : String)
  | tooFewArguments (function : String) (expected found : Nat)
  | missingArgument (function argument : String)
  | invalidArgument (function argument explanation : String)
  | readOnlyVariable (name : String)
  | notSeries (name : String)
  | unsupportedMember (name : String)
deriving Repr, DecidableEq

namespace RunError

def message : RunError → String
  | typeMismatch operation expected got =>
    "Operation '" ++ operation ++ "' expected " ++ expected.describe ++ ", got " ++ got.describe
  | undefinedVariable name => "Undefined variable '" ++ name ++ "'"
  | undefinedFunction name => "Undefined function '" ++ name ++ "'"
  | tooFewArguments function expected found =>
    "Function '" ++ function ++ "' expected at least " ++ toString expected ++
      " arguments, got " ++ toString found
  | missingArgument function argument =>
    "Function '" ++ function ++ "' is missing argument '" ++ argument ++ "'"
  | invalidArgument function argument explanation =>
    "Invalid argument '" ++ argument ++ "' for '" ++ function ++ "': " ++ explanation
  | readOnlyVariable name => "Cannot assign to built-in series '" ++ name ++ "'"
  | notSeries name => "'" ++ name ++ "' is not a numeric series and has no history"
  | unsupportedMember name => "Member access '." ++ name ++ "' is only supported on names"

end RunError

inductive Value where
  | number (value : Float)
  | boolean (value : Bool)
  | string (text : String)
  | color (value : Color)
deriving Repr

namespace Value

def na : Value := .number Numeral.nan

def isNa : Value → Bool
  | number value => value.isNaN
  | _ => false

def type : Value → ValueType
  | number _ => .number
  | boolean _ => .boolean
  | string _ => .string
  | color _ => .color

def mismatch (value : Value) (operation : String) (expected : ValueType) : RunError :=
  .typeMismatch operation expected value.type

/-- The number of a value; true counts as one and false as zero. -/
def asNumber (value : Value) (operation : String) : Except RunError Float :=
  match value with
  | number value => .ok value
  | boolean value => .ok (if value then 1.0 else 0.0)
  | other => .error (other.mismatch operation .number)

/-- Numbers other than zero count as true, and `na` as false. -/
def truthy (value : Value) (operation : String) : Except RunError Bool :=
  match value with
  | number value => .ok (value != 0.0 && !value.isNaN)
  | boolean value => .ok value
  | other => .error (other.mismatch operation .boolean)

def numeric? : Value → Option Float
  | number value => some value
  | boolean value => some (if value then 1.0 else 0.0)
  | _ => none

/-! ## Named constants -/

def shapeNames : List String :=
  ["xcross", "cross", "circle", "triangleup", "triangledown", "flag", "arrowup", "arrowdown",
    "labelup", "labeldown", "square", "diamond"]

def locationNames : List String :=
  ["abovebar", "belowbar", "top", "bottom", "absolute"]

def afterStart? (start text : String) : Option String :=
  if start.toList.isPrefixOf text.toList then
    some (String.ofList (text.toList.drop start.length))
  else none

/-- The constants a script can name: `na`, and members of a few namespaces. A line style is any
name that starts with `style_`. -/
def constant? (name : String) : Option Value :=
  if name = "na" then some na
  else
    let nameSpace := String.ofList (name.toList.takeWhile (· ≠ '.'))
    match name.toList.dropWhile (· ≠ '.') with
    | [] => none
    | _ :: rest =>
      let member := String.ofList rest
      match nameSpace with
      | "color" => (Color.named? member).map color
      | "shape" => if shapeNames.contains member then some (string member) else none
      | "location" => if locationNames.contains member then some (string member) else none
      | "hline" => (afterStart? "style_" member).map string
      | "strategy" =>
        if member = "long" || member = "short" then some (string member) else none
      | _ => none

end Value

end ChartScript
