/-!
# Doubles as exact numbers

A finite double is a whole significand times a power of two. The functions here read that pair
off the bits, rebuild a double from it, and do the two operations that must be exact on the
numbers themselves: the remainder of a division and the nearest whole number.
-/

set_option autoImplicit false

namespace ChartScript.Numeral

def twoTo (exponent : Nat) : Nat :=
  Nat.pow 2 exponent

def wordLimit : Nat := twoTo 64

def signedLimit : Nat := twoTo 63

structure Dyadic where
  significand : Nat
  exponent : Int
deriving Repr, DecidableEq

namespace Dyadic

/-- The magnitude of a finite double. Subnormal doubles share the least exponent. -/
def ofFloat (value : Float) : Dyadic :=
  let bits := value.toBits.toNat
  let fraction : Nat := bits % twoTo 52
  let scale : Nat := bits / twoTo 52 % twoTo 11
  if scale = 0 then ⟨fraction, -1074⟩ else ⟨twoTo 52 + fraction, (scale : Int) - 1075⟩

/-- The double with this magnitude, where it is representable with its own exponent. -/
def toFloat (number : Dyadic) : Float :=
  let power :=
    if number.exponent ≥ -1022 then
      Float.ofBits (UInt64.ofNat ((number.exponent + 1023).toNat * twoTo 52))
    else Float.ofBits (UInt64.ofNat (twoTo (number.exponent + 1074).toNat))
  number.significand.toUInt64.toFloat * power

def significandAt (number : Dyadic) (exponent : Int) : Nat :=
  number.significand * twoTo (number.exponent - exponent).toNat

/-- The remainder of the division that rounds its quotient toward zero. -/
def remainder (dividend divisor : Dyadic) : Dyadic :=
  let exponent := min dividend.exponent divisor.exponent
  ⟨dividend.significandAt exponent % divisor.significandAt exponent, exponent⟩

end Dyadic

def isNegative (value : Float) : Bool :=
  value.toBits.toNat / twoTo 63 = 1

def nan : Float := 0.0 / 0.0

def remainder (dividend divisor : Float) : Float :=
  if dividend.isNaN || divisor.isNaN || dividend.isInf || divisor == 0.0 then nan
  else if divisor.isInf then dividend
  else
    let magnitude := ((Dyadic.ofFloat dividend).remainder (Dyadic.ofFloat divisor)).toFloat
    if isNegative dividend then -magnitude else magnitude

/-- The whole number below a double, with negative numbers and NaN at zero and everything from
`2 ^ 64` on at the largest 64-bit word. -/
def toIndex (value : Float) : Nat :=
  value.toUInt64.toNat

def ofIndex (index : Nat) : Float :=
  index.toUInt64.toFloat

def ofInteger (number : Int) : Float :=
  if number < 0 then -ofIndex number.natAbs else ofIndex number.natAbs

end ChartScript.Numeral
