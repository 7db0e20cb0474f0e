import ChartScript.Numeral.Shortest
import ChartScript.Syntax
import ChartScript.Text.Quoted

/-!
# Displayed syntax

The text of an expression, with parentheses around every operator.
-/

set_option autoImplicit false

namespace ChartScript

mutual

def Expr.display : Expr → String
  | .number value _ => Numeral.text value
  | .string text _ => Text.quoted text
  | .boolean value _ => if value then "true" else "false"
  | .color value _ => "#" ++ value.hexText
  | .name path _ => path
  | .member object name _ => object.display ++ "." ++ name
  | .history series offset _ _ => series.display ++ "[" ++ offset.display ++ "]"
  | .unary .negate operand _ => "(-" ++ operand.display ++ ")"
  | .unary .logicalNot operand _ => "(not " ++ operand.display ++ ")"
  | .binary left op right _ =>
    "(" ++ left.display ++ " " ++ op.symbol ++ " " ++ right.display ++ ")"
  | .ternary condition whenTrue whenFalse _ =>
    "(" ++ condition.display ++ " ? " ++ whenTrue.display ++ " : " ++ whenFalse.display ++ ")"
  | .call call _ => call.display

def Call.display : Call → String
  | .mk function _ arguments named =>
    let passed := Expr.displayAll arguments ++ NamedArgument.displayAll named
    function ++ "(" ++ ", ".intercalate passed ++ ")"

def Expr.displayAll : List Expr → List String
  | [] => []
  | argument :: rest => argument.display :: Expr.displayAll rest

def NamedArgument.display : NamedArgument → String
  | .mk name value _ => name ++ "=" ++ value.display

def NamedArgument.displayAll : List NamedArgument → List String
  | [] => []
  | argument :: rest => argument.display :: NamedArgument.displayAll rest

end

end ChartScript
