import ChartScript.Numeral.Dyadic

/-!
# Indicators

Functions of a series that look back from one bar. A series is a list of values, one for each bar
from the current one back, so none of them can see a newer bar. They are written for any kind of
number with a value that stands for a missing one, and used for doubles, where that is NaN.
-/

set_option autoImplicit false

namespace ChartScript

class Quantity (α : Type) extends Add α, Sub α, Mul α, Div α where
  missing : α
  isMissing : α → Bool
  ofNat : Nat → α
  /-- What a sum starts from. -/
  emptySum : α
  less : α → α → Bool
  lessOrEqual : α → α → Bool
  isZero : α → Bool

/-- Sums of doubles start from `-0.0`, which leaves every summand as it is. -/
instance : Quantity Float where
  missing := Numeral.nan
  isMissing := Float.isNaN
  ofNat := Numeral.ofIndex
  emptySum := -0.0
  less left right := left < right
  lessOrEqual left right := left ≤ right
  isZero value := value == 0.0

abbrev Series (α : Type) := List α

namespace Series

variable {α : Type} [Quantity α]

open Quantity

def now (series : Series α) : α :=
  series.headD missing

def before (series : Series α) (bars : Nat) : α :=
  series[bars]?.getD missing

def openBar (series : Series α) : Series α :=
  missing :: series

def setNow (series : Series α) (value : α) : Series α :=
  match series with
  | [] => []
  | _ :: older => value :: older

@[simp]
theorem now_openBar (series : Series α) : now (openBar series) = missing := rfl

@[simp]
theorem setNow_openBar (series : Series α) (value : α) :
    setNow (openBar series) value = value :: series := rfl

theorem before_zero (series : Series α) : before series 0 = now series := by
  cases series <;> rfl

@[simp]
theorem before_succ (value : α) (series : Series α) (bars : Nat) :
    before (value :: series) (bars + 1) = before series bars := rfl

omit [Quantity α] in
@[simp]
theorem length_setNow (series : Series α) (value : α) :
    (setNow series value).length = series.length := by
  cases series <;> rfl

omit [Quantity α] in
theorem drop_setNow (series : Series α) (value : α) (bars : Nat) :
    (setNow series value).drop (bars + 1) = series.drop (bars + 1) := by
  cases series <;> rfl

def fullWindow? (series : Series α) (length : Nat) : Option (List α) :=
  let window := series.take length
  if length ≠ 0 ∧ window.length = length then some window else none

def sum (values : List α) : α :=
  values.foldl (· + ·) emptySum

def mean (values : List α) (count : Nat) : α :=
  sum values / ofNat count

/-- The mean of the last `length` bars, or the current value where there are not as many. -/
def sma (series : Series α) (length : Nat) : α :=
  match fullWindow? series length with
  | some window => mean window length
  | none => now series

/-- The exponential average, `2 / (length + 1)` of it from the current value and the others from
the average one bar before. Where that is missing it starts as the mean. -/
def ema (series : Series α) (length : Nat) (previous : α) : α :=
  if isMissing previous then sma series length
  else
    let weight : α := ofNat 2 / (ofNat length + ofNat 1)
    now series * weight + previous * (ofNat 1 - weight)

/-- What the steps from bar to bar in a window add up to: those up, and those down as a positive
number. -/
def gainsAndLosses : α → α → List α → α × α
  | gains, losses, newer :: older :: rest =>
    let step := newer - older
    if less (ofNat 0) step then gainsAndLosses (gains + step) losses (older :: rest)
    else gainsAndLosses gains (losses - step) (older :: rest)
  | gains, losses, _ => (gains, losses)

/-- The relative strength index over `length` steps, from plain means. It is 50 where there are
not as many steps or a value among them is missing, and 100 where no step goes down. -/
def rsi (series : Series α) (length : Nat) : α :=
  match fullWindow? series (length + 1) with
  | none => ofNat 50
  | some window =>
    if window.any isMissing then ofNat 50
    else
      let (gains, losses) := gainsAndLosses (ofNat 0) (ofNat 0) window
      let averageGain := gains / ofNat length
      let averageLoss := losses / ofNat length
      if isZero averageLoss then ofNat 100
      else
        let strength := averageGain / averageLoss
        ofNat 100 - ofNat 100 / (ofNat 1 + strength)

def variance? (series : Series α) (length : Nat) : Option α :=
  (fullWindow? series length).map fun window =>
    let middle := mean window length
    mean (window.map fun value => (value - middle) * (value - middle)) length

/-- The larger of two values, the second of equal ones: of zeros of either sign it is the later
one that stays. -/
def larger (left right : α) : α :=
  if less right left then left else right

def smaller (left right : α) : α :=
  if less left right then left else right

def combinePresent (combine : α → α → α) (values : List α) : α :=
  match values.filter (!isMissing ·) with
  | [] => missing
  | first :: rest => rest.foldl combine first

def highest (series : Series α) (length : Nat) : α :=
  combinePresent larger (series.take length)

def lowest (series : Series α) (length : Nat) : α :=
  combinePresent smaller (series.take length)

def crossover (first second : Series α) : Bool :=
  match first, second with
  | firstNow :: firstBefore :: _, secondNow :: secondBefore :: _ =>
    less secondNow firstNow && lessOrEqual firstBefore secondBefore
  | _, _ => false

def crossunder (first second : Series α) : Bool :=
  match first, second with
  | firstNow :: firstBefore :: _, secondNow :: secondBefore :: _ =>
    less firstNow secondNow && lessOrEqual secondBefore firstBefore
  | _, _ => false

/-- The difference from the value `length` bars before, missing where there is no such bar. -/
def change (series : Series α) (length : Nat) : α :=
  match series[length]? with
  | some older => now series - older
  | none => missing

/-- The standard deviation over the last `length` bars, zero where there are not as many. -/
def stdev (series : Series Float) (length : Nat) : Float :=
  match variance? series length with
  | some variance => variance.sqrt
  | none => 0.0

end Series

end ChartScript
