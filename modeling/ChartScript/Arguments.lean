import ChartScript.Value

/-!
# Arguments of a call

The evaluated arguments of one call, and how a function takes a parameter out of them: by its
position first, and by its name where that position was not passed. Positions that were read as
series hold no value.
-/

set_option autoImplicit false

namespace ChartScript

structure Arguments where
  function : String
  positional : List (Option Value)
  named : List (String × Value)

namespace Arguments

def operation (arguments : Arguments) (parameter : String) : String :=
  arguments.function ++ "(" ++ parameter ++ ")"

def values (arguments : Arguments) : List Value :=
  arguments.positional.filterMap id

def named? (arguments : Arguments) (name : String) : Option Value :=
  (arguments.named.find? (·.1 = name)).map (·.2)

def get? (arguments : Arguments) (position : Nat) (name : String) : Option Value :=
  match arguments.positional[position]? with
  | some (some value) => some value
  | _ => arguments.named? name

/-! ## Typed parameters -/

def required (arguments : Arguments) (position : Nat) (name : String) : Except RunError Value :=
  match arguments.get? position name with
  | some value => .ok value
  | none => .error (.missingArgument arguments.function name)

def requiredNumber (arguments : Arguments) (position : Nat) (name : String) :
    Except RunError Float := do
  let value ← arguments.required position name
  value.asNumber (arguments.operation name)

def number? (arguments : Arguments) (position : Nat) (name : String) :
    Except RunError (Option Float) :=
  match arguments.get? position name with
  | none => .ok none
  | some value => some <$> value.asNumber (arguments.operation name)

def readFlag (arguments : Arguments) (name : String) :
    Option Value → Except RunError (Option Bool)
  | none => .ok none
  | some value => some <$> value.truthy (arguments.operation name)

def readString (arguments : Arguments) (name : String) :
    Option Value → Except RunError (Option String)
  | none => .ok none
  | some (.string text) => .ok (some text)
  | some value =>
    if value.isNa then .ok none else .error (value.mismatch (arguments.operation name) .string)

def readColor (arguments : Arguments) (name : String) :
    Option Value → Except RunError (Option Color)
  | none => .ok none
  | some (.color color) => .ok (some color)
  | some value =>
    if value.isNa then .ok none else .error (value.mismatch (arguments.operation name) .color)

def flag? (arguments : Arguments) (position : Nat) (name : String) :
    Except RunError (Option Bool) :=
  arguments.readFlag name (arguments.get? position name)

def namedFlag? (arguments : Arguments) (name : String) : Except RunError (Option Bool) :=
  arguments.readFlag name (arguments.named? name)

def string? (arguments : Arguments) (position : Nat) (name : String) :
    Except RunError (Option String) :=
  arguments.readString name (arguments.get? position name)

def namedString? (arguments : Arguments) (name : String) : Except RunError (Option String) :=
  arguments.readString name (arguments.named? name)

def color? (arguments : Arguments) (position : Nat) (name : String) :
    Except RunError (Option Color) :=
  arguments.readColor name (arguments.get? position name)

/-- A number of bars: a finite number from one on, without its fraction. -/
def length (arguments : Arguments) (position : Nat) (name : String) : Except RunError Nat := do
  let length ← arguments.requiredNumber position name
  if !length.isFinite || length < 1.0 then
    .error (.invalidArgument arguments.function name
      ("expected a length of at least 1, got " ++ Numeral.text length))
  else return Numeral.toIndex length

end Arguments

end ChartScript
