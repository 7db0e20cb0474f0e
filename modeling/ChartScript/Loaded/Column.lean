import ChartScript.Indicator

/-!
# Columns over a window

A column has a value for each bar of a window, the newest first, and the index of the value is that
of its bar. Whoever reads a column gets all of it, newer bars too: which bars an indicator looks at
depends on nothing but the indexes at which it reads.
-/

set_option autoImplicit false

namespace ChartScript

abbrev Column := List Float

namespace Column

open Quantity

def blank (bars : Nat) : Column :=
  List.replicate bars Numeral.nan

def value (column : Column) (bar : Nat) : Float :=
  column[bar]?.getD Numeral.nan

/-- The values of exactly `length` bars, from a bar back. -/
def window? (column : Column) (bar length : Nat) : Option (List Float) :=
  if length ≠ 0 ∧ bar + length ≤ column.length then some (column.extract bar (bar + length))
  else none

/-- The values of `length` bars from a bar back, or of those there are. -/
def clamped (column : Column) (bar length : Nat) : List Float :=
  column.extract bar (min (bar + length) column.length)

def pair? (column : Column) (bar : Nat) : Option (Float × Float) := do
  let now ← column[bar]?
  let before ← column[bar + 1]?
  return (now, before)

/-! ## Indicators at a bar -/

def sma (column : Column) (bar length : Nat) : Float :=
  match column.window? bar length with
  | some values => Series.mean values length
  | none => column.value bar

def ema (column : Column) (bar length : Nat) (previous : Float) : Float :=
  if previous.isNaN then column.sma bar length
  else
    let weight := Numeral.ofIndex 2 / (Numeral.ofIndex length + Numeral.ofIndex 1)
    column.value bar * weight + previous * (Numeral.ofIndex 1 - weight)

def rsi (column : Column) (bar length : Nat) : Float :=
  match column.window? bar (length + 1) with
  | some values => Series.rsi values length
  | none => Numeral.ofIndex 50

def stdev (column : Column) (bar length : Nat) : Float :=
  match column.window? bar length with
  | some values => Series.stdev values length
  | none => 0.0

def highest (column : Column) (bar length : Nat) : Float :=
  Series.combinePresent Series.larger (column.clamped bar length)

def lowest (column : Column) (bar length : Nat) : Float :=
  Series.combinePresent Series.smaller (column.clamped bar length)

def change (column : Column) (bar length : Nat) : Float :=
  match column[bar + length]? with
  | some older => column.value bar - older
  | none => Numeral.nan

def crossover (first second : Column) (bar : Nat) : Bool :=
  match first.pair? bar, second.pair? bar with
  | some (firstNow, firstBefore), some (secondNow, secondBefore) =>
    less secondNow firstNow && lessOrEqual firstBefore secondBefore
  | _, _ => false

def crossunder (first second : Column) (bar : Nat) : Bool :=
  match first.pair? bar, second.pair? bar with
  | some (firstNow, firstBefore), some (secondNow, secondBefore) =>
    less firstNow secondNow && lessOrEqual secondBefore firstBefore
  | _, _ => false

end Column

end ChartScript
