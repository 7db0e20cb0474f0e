import ChartScript.Json
import ChartScript.Numeral.Shortest

/-!
# Writing JSON

A value is written on one line, or with one element or member a line and two spaces of
indentation for each level.
-/

set_option autoImplicit false

namespace ChartScript.Json

/-! ## Numbers -/

/-- Numbers from `0.00001` up to `10 ^ 16` are written without an exponent, whole ones with a zero
after the point. -/
def numberLayout : Numeral.Layout where
  positional power := -5 ≤ power && power < 16
  wholeSuffix := ".0"
  tie := .toEven
  nan := "null"
  positiveInfinity := "null"
  negativeInfinity := "null"

/-- The number of a double; there is none for infinities and for what is not a number. -/
def ofFloat (value : Float) : Json :=
  if value.isFinite then .number (numberLayout.render value) else .null

def ofNat (value : Nat) : Json :=
  .number (toString value)

def ofBool (value : Bool) : Json :=
  .boolean value

def ofTextOption : Option String → Json
  | some text => ofText text
  | none => .null

/-! ## Text -/

mutual

def render : Json → String
  | .null => "null"
  | .boolean value => if value then "true" else "false"
  | .number numeral => numeral
  | .string raw => "\"" ++ raw ++ "\""
  | .array elements => "[" ++ ",".intercalate (renderElements elements) ++ "]"
  | .object members => "\x7b" ++ ",".intercalate (renderMembers members) ++ "\x7d"

def renderElements : List Json → List String
  | [] => []
  | element :: rest => element.render :: renderElements rest

def renderMembers : List (String × Json) → List String
  | [] => []
  | (key, value) :: rest => ("\"" ++ key ++ "\":" ++ value.render) :: renderMembers rest

end

def lineStart (level : Nat) : String :=
  "\n" ++ String.ofList (List.replicate (2 * level) ' ')

/-- Parts on lines of their own between two brackets; an empty list stands on one line. -/
def block (opening closing : String) (level : Nat) (parts : List String) : String :=
  if parts.isEmpty then opening ++ closing
  else
    opening ++ lineStart (level + 1) ++ ("," ++ lineStart (level + 1)).intercalate parts ++
      lineStart level ++ closing

mutual

/-- A value over several lines, at a level of indentation. -/
def renderIndented (level : Nat) : Json → String
  | .array elements => block "[" "]" level (indentedElements level elements)
  | .object members => block "\x7b" "\x7d" level (indentedMembers level members)
  | .null => render .null
  | .boolean value => render (.boolean value)
  | .number numeral => render (.number numeral)
  | .string raw => render (.string raw)

def indentedElements (level : Nat) : List Json → List String
  | [] => []
  | element :: rest => element.renderIndented (level + 1) :: indentedElements level rest

def indentedMembers (level : Nat) : List (String × Json) → List String
  | [] => []
  | (key, value) :: rest =>
    ("\"" ++ key ++ "\": " ++ value.renderIndented (level + 1)) :: indentedMembers level rest

end

end ChartScript.Json
