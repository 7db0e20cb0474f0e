import ChartScript.Syntax
import ChartScript.Value

/-!
# Operators on values

What the operators of a script compute. A quotient by zero is missing, and a missing value equals
nothing. `and` and `or` look at their right operand only where the left one does not decide.
-/

set_option autoImplicit false

namespace ChartScript

namespace UnaryOp

def apply (op : UnaryOp) (operand : Value) : Except RunError Value :=
  match op with
  | negate => (fun number => .number (-number)) <$> operand.asNumber op.symbol
  | logicalNot => (fun truth => .boolean !truth) <$> operand.truthy op.symbol

end UnaryOp

namespace BinaryOp

/-- The truth of a left operand that settles the result. -/
def deciding? : BinaryOp → Option Bool
  | logicalAnd => some false
  | logicalOr => some true
  | _ => none

def onNumbers {α : Type} (op : BinaryOp) (left right : Value) (combine : Float → Float → α) :
    Except RunError α := do
  let leftNumber ← left.asNumber op.symbol
  let rightNumber ← right.asNumber op.symbol
  return combine leftNumber rightNumber

def quotient (divide : Float → Float → Float) (dividend divisor : Float) : Value :=
  if divisor == 0.0 then .na else .number (divide dividend divisor)

/-- Numbers and truth values are compared as numbers; otherwise the types have to agree. -/
def areEqual (op : BinaryOp) (left right : Value) : Except RunError Bool :=
  match left.numeric?, right.numeric? with
  | some leftNumber, some rightNumber => .ok (leftNumber == rightNumber)
  | _, _ =>
    match left, right with
    | .string leftText, .string rightText => .ok (leftText = rightText)
    | .color leftColor, .color rightColor => .ok (leftColor = rightColor)
    | _, _ => .error (right.mismatch op.symbol left.type)

def apply (op : BinaryOp) (left right : Value) : Except RunError Value :=
  match op with
  | add =>
    match left, right with
    | .string leftText, .string rightText => .ok (.string (leftText ++ rightText))
    | _, _ => .number <$> op.onNumbers left right (· + ·)
  | subtract => .number <$> op.onNumbers left right (· - ·)
  | multiply => .number <$> op.onNumbers left right (· * ·)
  | divide => op.onNumbers left right (quotient (· / ·))
  | modulo => op.onNumbers left right (quotient Numeral.remainder)
  | equal => .boolean <$> op.areEqual left right
  | notEqual => (fun same => .boolean !same) <$> op.areEqual left right
  | greater => .boolean <$> op.onNumbers left right (· > ·)
  | greaterEqual => .boolean <$> op.onNumbers left right (· ≥ ·)
  | less => .boolean <$> op.onNumbers left right (· < ·)
  | lessEqual => .boolean <$> op.onNumbers left right (· ≤ ·)
  | logicalAnd => do
    if ← left.truthy op.symbol then .boolean <$> right.truthy op.symbol
    else return .boolean false
  | logicalOr => do
    if ← left.truthy op.symbol then return .boolean true
    else .boolean <$> right.truthy op.symbol

end BinaryOp

end ChartScript
