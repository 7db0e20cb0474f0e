import ChartScript.Numeral.Reading

/-!
# Scaled numerals

Numerals read with one 64-bit significand and one power of ten. The digits that fit the
significand count, those of the whole part that do not are replaced by zeros, and those of the
fraction are left out. The product or quotient with the power is rounded again, so the result can
be off in the last place. A numeral that is out of range stands for no number.
-/

set_option autoImplicit false

namespace ChartScript.Numeral

structure Scaled where
  significand : Nat
  exponent : Int
deriving Repr, DecidableEq

namespace Scaled

/-- Appends a digit, if the significand is a 64-bit word then. -/
def append? (significand : Nat) (digit : Char) : Option Nat :=
  let longer := 10 * significand + (digit.toNat - '0'.toNat)
  if longer < wordLimit then some longer else none

def takeWhole (significand : Nat) : List Char → Scaled
  | [] => ⟨significand, 0⟩
  | digit :: rest =>
    match append? significand digit with
    | some longer => takeWhole longer rest
    | none => ⟨significand, rest.length + 1⟩

def takeFraction (number : Scaled) : List Char → Scaled
  | [] => number
  | digit :: rest =>
    match append? number.significand digit with
    | some longer => takeFraction ⟨longer, number.exponent - 1⟩ rest
    | none => number

def ofLiteral (literal : DecimalLiteral) : Scaled :=
  let number := takeFraction (takeWhole 0 literal.whole) literal.fraction
  ⟨number.significand, number.exponent + literal.exponent⟩

def largestPower : Nat := 308

def powerOfTen (exponent : Nat) : Float :=
  Float.ofScientific 1 false exponent

def toFloat? (number : Scaled) : Option Float :=
  let significand := ofIndex number.significand
  let power := number.exponent.natAbs
  if number.exponent ≥ 0 then
    if power ≤ largestPower then
      let product := significand * powerOfTen power
      if product.isInf then none else some product
    else if number.significand = 0 then some 0.0
    else none
  else if power ≤ largestPower then some (significand / powerOfTen power)
  else if power ≤ 2 * largestPower then
    some (significand / powerOfTen largestPower / powerOfTen (power - largestPower))
  else some 0.0

end Scaled

def readScaled? (characters : List Char) : Option Float := do
  let (negative, magnitude) := splitSign characters
  let literal ← readUnsigned? negative magnitude
  let number ← (Scaled.ofLiteral literal).toFloat?
  return if negative then -number else number

/-- A whole number that a signed 64-bit word holds: decimal digits with a minus sign or none.
There is no negative zero. -/
def readWord? (characters : List Char) : Option Int64 :=
  let (negative, digits) := match characters with
    | '-' :: rest => (true, rest)
    | rest => (false, rest)
  if digits.isEmpty || !digits.all Char.isDigit then none
  else
    let value := digitsValue digits
    if negative then
      if 0 < value && value ≤ signedLimit then some (Int64.ofInt (-value)) else none
    else if value < signedLimit then some (Int64.ofNat value)
    else none

end ChartScript.Numeral
