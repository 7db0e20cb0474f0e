import ChartScript.Numeral.Dyadic

/-!
# Reading decimal numerals

A numeral is split into its sign, digits and exponent; `DecimalLiteral.toFloat` then gives the
double nearest to the number it stands for. Numerals far outside the range of doubles are decided
by their power of ten, so no number of that size is ever formed.
-/

set_option autoImplicit false

namespace ChartScript.Numeral

def digitsValue (digits : List Char) : Nat :=
  digits.foldl (fun value digit => 10 * value + (digit.toNat - '0'.toNat)) 0

/-- The number `±whole.fraction * 10 ^ exponent`, the parts before the power as digits. -/
structure DecimalLiteral where
  negative : Bool
  whole : List Char
  fraction : List Char
  exponent : Int
deriving Repr, DecidableEq

namespace DecimalLiteral

def magnitude (literal : DecimalLiteral) : Float :=
  let digits := (literal.whole ++ literal.fraction).dropWhile (· = '0')
  let exponent := literal.exponent - literal.fraction.length
  let power := exponent + digits.length
  if digits.isEmpty || power < -330 then 0.0
  else if power > 330 then 1.0 / 0.0
  else Float.ofScientific (digitsValue digits) (exponent < 0) exponent.natAbs

def toFloat (literal : DecimalLiteral) : Float :=
  if literal.negative then -literal.magnitude else literal.magnitude

end DecimalLiteral

def splitSign : List Char → Bool × List Char
  | '-' :: rest => (true, rest)
  | '+' :: rest => (false, rest)
  | rest => (false, rest)

def splitDigits (characters : List Char) : List Char × List Char :=
  (characters.takeWhile Char.isDigit, characters.dropWhile Char.isDigit)

def readExponent? : List Char → Option Int
  | [] => some 0
  | mark :: rest =>
    if mark = 'e' || mark = 'E' then
      let (negative, digits) := splitSign rest
      if digits.isEmpty || !digits.all Char.isDigit then none
      else some (if negative then -(digitsValue digits : Int) else digitsValue digits)
    else none

/-- A numeral without its sign: digits with a point before, among or after them, and an exponent.
At least one digit stands before the exponent. -/
def readUnsigned? (negative : Bool) (characters : List Char) : Option DecimalLiteral :=
  let (whole, afterWhole) := splitDigits characters
  let (fraction, afterFraction) := match afterWhole with
    | '.' :: rest => splitDigits rest
    | rest => ([], rest)
  if whole.isEmpty && fraction.isEmpty then none
  else (readExponent? afterFraction).map fun exponent => ⟨negative, whole, fraction, exponent⟩

/-- The double that a numeral stands for. Besides numerals there are the words `inf`, `infinity`
and `nan`, in any case. -/
def readFloat? (characters : List Char) : Option Float :=
  let (negative, magnitude) := splitSign characters
  let word := String.ofList (magnitude.map Char.toLower)
  if word = "inf" || word = "infinity" then some (if negative then -1.0 / 0.0 else 1.0 / 0.0)
  else if word = "nan" then some nan
  else (readUnsigned? negative magnitude).map DecimalLiteral.toFloat

/-- A natural number below `limit`: decimal digits, with a plus sign or none. -/
def readNatural? (limit : Nat) (characters : List Char) : Option Nat :=
  let digits := match characters with
    | '+' :: rest => rest
    | rest => rest
  if digits.isEmpty || !digits.all Char.isDigit then none
  else
    let value := digitsValue digits
    if value < limit then some value else none

end ChartScript.Numeral
