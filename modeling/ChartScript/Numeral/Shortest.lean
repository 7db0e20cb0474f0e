import ChartScript.Numeral.Dyadic

/-!
# Shortest decimal numerals

The text of a double holds the fewest decimal digits that read back as the same double, and of
those the nearest to it. `Dyadic.shortest` finds the digits by exact arithmetic on naturals: for
one, two, … seventeen digits it tries the two neighbours of the number on that decimal grid.
A `Layout` says how the digits are written down.
-/

set_option autoImplicit false

namespace ChartScript.Numeral

def tenTo (exponent : Nat) : Nat :=
  Nat.pow 10 exponent

def fiveTo (exponent : Nat) : Nat :=
  Nat.pow 5 exponent

structure Decimal where
  digits : Nat
  exponent : Int
deriving Repr, DecidableEq

def digitCount (number : Nat) : Nat :=
  (Nat.toDigits 10 number).length

/-- The order of `decimal` and `number`, by cross-multiplication. -/
def Decimal.compareDyadic (decimal : Decimal) (number : Dyadic) : Ordering :=
  compare (decimal.digits * tenTo decimal.exponent.toNat * twoTo (-number.exponent).toNat)
    (number.significand * twoTo number.exponent.toNat * tenTo (-decimal.exponent).toNat)

namespace Dyadic

/-- The neighbour below is half as far away as the neighbour above. -/
def narrowBelow (number : Dyadic) : Bool :=
  number.significand = twoTo 52 && number.exponent > -1074

/-- The decimal lies among the reals that round to this double: from halfway to the neighbour
below to halfway to the neighbour above, with the ends when the significand is even. -/
def readsBack (number : Dyadic) (decimal : Decimal) : Bool :=
  let quarter := 4 * number.significand
  let lower : Dyadic :=
    ⟨if number.narrowBelow then quarter - 1 else quarter - 2, number.exponent - 2⟩
  let upper : Dyadic := ⟨quarter + 2, number.exponent - 2⟩
  let even := number.significand % 2 = 0
  (match decimal.compareDyadic lower with
    | .gt => true
    | .eq => even
    | .lt => false) &&
  match decimal.compareDyadic upper with
    | .lt => true
    | .eq => even
    | .gt => false

def scale (number : Dyadic) : Int :=
  let numerator := number.significand * twoTo number.exponent.toNat
  let denominator := twoTo (-number.exponent).toNat
  if numerator ≥ denominator then digitCount (numerator / denominator)
  else 1 - (digitCount ((denominator - 1) / numerator) : Int)

inductive Tie where
  | upward
  | toEven
deriving Repr, DecidableEq

/-- The decimal on the grid of `10 ^ exponent` that reads back and is nearest to the number. -/
def onGrid (number : Dyadic) (tie : Tie) (exponent : Int) : Option Decimal :=
  let numerator := number.significand * twoTo number.exponent.toNat * tenTo (-exponent).toNat
  let denominator := twoTo (-number.exponent).toNat * tenTo exponent.toNat
  let below := numerator / denominator
  let twiceRemainder := 2 * (numerator % denominator)
  let preferAbove : Bool := match compare twiceRemainder denominator with
    | .gt => true
    | .lt => false
    | .eq => tie = .upward || below % 2 = 1
  match number.readsBack ⟨below, exponent⟩, number.readsBack ⟨below + 1, exponent⟩ with
  | true, true => some ⟨if preferAbove then below + 1 else below, exponent⟩
  | true, false => some ⟨below, exponent⟩
  | false, true => some ⟨below + 1, exponent⟩
  | false, false => none

def exactDecimal (number : Dyadic) : Decimal :=
  if number.exponent ≥ 0 then ⟨number.significand * twoTo number.exponent.toNat, 0⟩
  else ⟨number.significand * fiveTo (-number.exponent).toNat, number.exponent⟩

/-- The fewest digits that read back as a positive number. -/
def shortest (number : Dyadic) (tie : Tie) : Decimal :=
  let scale := number.scale
  ((List.range' 1 17).findSome? fun (count : Nat) => number.onGrid tie (scale - count)).getD
    number.exactDecimal

end Dyadic

/-! ## Layout -/

structure Layout where
  /-- Numbers whose leading digit stands for `10 ^ power` are written without an exponent. -/
  positional : Int → Bool
  /-- What follows the digits of a whole number that is written without an exponent. -/
  wholeSuffix : String
  tie : Dyadic.Tie
  nan : String
  positiveInfinity : String
  negativeInfinity : String

def dropTrailingZeros (digits : List Char) : List Char :=
  (digits.reverse.dropWhile (· = '0')).reverse

namespace Layout

/-- The digits of a number below one stand after a point and zeros, those of a whole number are
filled up with zeros, and others have the point among them. -/
def positionalText (layout : Layout) (digits : List Char) (power : Int) : String :=
  if power < 0 then
    "0." ++ String.ofList (List.replicate (-power - 1).toNat '0' ++ digits)
  else
    let wholeLength := power.toNat + 1
    if digits.length ≤ wholeLength then
      String.ofList (digits ++ List.replicate (wholeLength - digits.length) '0') ++
        layout.wholeSuffix
    else
      String.ofList (digits.take wholeLength) ++ "." ++ String.ofList (digits.drop wholeLength)

/-- One digit, the others after a point, and the power of ten with its sign. -/
def exponentText (digits : List Char) (power : Int) : String :=
  let mantissa := match digits with
    | leading :: next :: rest => leading :: '.' :: next :: rest
    | short => short
  let sign := if power < 0 then "-" else "+"
  String.ofList mantissa ++ "e" ++ sign ++ toString power.natAbs

def magnitudeText (layout : Layout) (value : Float) : String :=
  let number := Dyadic.ofFloat value
  if number.significand = 0 then layout.positionalText ['0'] 0
  else
    let decimal := number.shortest layout.tie
    let allDigits := Nat.toDigits 10 decimal.digits
    let power := (allDigits.length : Int) - 1 + decimal.exponent
    let digits := dropTrailingZeros allDigits
    if layout.positional power then layout.positionalText digits power
    else exponentText digits power

def render (layout : Layout) (value : Float) : String :=
  if value.isNaN then layout.nan
  else if value.isInf then
    if isNegative value then layout.negativeInfinity else layout.positiveInfinity
  else
    let text := layout.magnitudeText value
    if isNegative value then "-" ++ text else text

def plain : Layout where
  positional _ := true
  wholeSuffix := ""
  tie := .upward
  nan := "NaN"
  positiveInfinity := "inf"
  negativeInfinity := "-inf"

end Layout

def text (value : Float) : String :=
  Layout.plain.render value

end ChartScript.Numeral
