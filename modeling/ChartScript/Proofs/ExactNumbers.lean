import ChartScript.Indicator
import Mathlib.Algebra.Order.BigOperators.Group.List
import Mathlib.Algebra.Order.Field.Rat

/-!
# Exact numbers

Rational numbers, and a value that stands for a missing one, as another kind of number for
indicators. On a series of rationals an indicator then has the value that its formula has without
rounding. A quotient by zero is missing, so where a value comes out nothing was divided by zero.
-/

set_option autoImplicit false

namespace ChartScript

inductive Exact where
  | missing
  | value (number : ℚ)
deriving DecidableEq

namespace Exact

def combine (operation : ℚ → ℚ → ℚ) : Exact → Exact → Exact
  | value left, value right => value (operation left right)
  | _, _ => missing

/-- No comparison holds of a missing number. -/
def compare (test : ℚ → ℚ → Bool) : Exact → Exact → Bool
  | value left, value right => test left right
  | _, _ => false

instance : Quantity Exact where
  add := combine (· + ·)
  sub := combine (· - ·)
  mul := combine (· * ·)
  div left right := if right = value 0 then missing else combine (· / ·) left right
  missing := missing
  isMissing number := number = missing
  ofNat number := value number
  emptySum := value 0
  less := compare (· < ·)
  lessOrEqual := compare (· ≤ ·)
  isZero number := number = value 0

section Rules

open Quantity

variable (left right : ℚ) (number : Nat)

@[simp]
theorem value_add : value left + value right = value (left + right) := rfl

@[simp]
theorem value_sub : value left - value right = value (left - right) := rfl

@[simp]
theorem value_mul : value left * value right = value (left * right) := rfl

theorem value_div {right : ℚ} (nonzero : right ≠ 0) :
    value left / value right = value (left / right) :=
  if_neg fun zero => nonzero (value.inj zero)

@[simp]
theorem ofNat_eq : (ofNat number : Exact) = value number := rfl

@[simp]
theorem isMissing_value : isMissing (value left) = false := rfl

@[simp]
theorem less_value : less (value left) (value right) = decide (left < right) := rfl

@[simp]
theorem isZero_value : isZero (value left) = decide (left = 0) := by
  show decide (value left = value 0) = decide (left = 0)
  simp only [value.injEq]

end Rules

/-- Rationals as a series without a missing value. -/
def series (numbers : List ℚ) : Series Exact :=
  numbers.map value

end Exact

namespace Series

open Exact (series)

variable (numbers : List ℚ) {length : Nat}

/-! ## Windows -/

theorem now_series {newest : ℚ} {older : List ℚ} :
    now (series (newest :: older)) = .value newest := rfl

theorem take_series (count : Nat) : (series numbers).take count = series (numbers.take count) :=
  List.map_take.symm

theorem drop_series (count : Nat) : (series numbers).drop count = series (numbers.drop count) :=
  List.map_drop.symm

theorem any_isMissing_series : (series numbers).any Quantity.isMissing = false := by
  rw [series, List.any_map, List.any_eq_false]
  exact fun _ _ => Bool.false_ne_true

theorem fullWindow?_series (positive : 1 ≤ length) (fits : length ≤ numbers.length) :
    fullWindow? (series numbers) length = some (series (numbers.take length)) := by
  have whole : (series (numbers.take length)).length = length := by
    rw [series, List.length_map, List.length_take, Nat.min_eq_left fits]
  simp only [fullWindow?, take_series]
  exact if_pos ⟨Nat.ne_of_gt positive, whole⟩

theorem fullWindow?_series_of_lt (short : numbers.length < length) :
    fullWindow? (series numbers) length = none := by
  have part : (series (numbers.take length)).length ≠ length := by
    rw [series, List.length_map, List.length_take]
    omega
  simp only [fullWindow?, take_series]
  exact if_neg fun whole => part whole.2

/-! ## Means -/

theorem foldl_add_series (start : ℚ) :
    (series numbers).foldl (· + ·) (.value start) = .value (start + numbers.sum) := by
  induction numbers generalizing start with
  | nil => simp [series]
  | cons number rest known =>
    rw [List.sum_cons, ← add_assoc]
    exact known (start + number)

theorem mean_series {count : Nat} (positive : 1 ≤ count) :
    mean (series numbers) count = .value (numbers.sum / count) := by
  have total : sum (series numbers) = .value numbers.sum := by
    rw [← zero_add numbers.sum]
    exact foldl_add_series numbers 0
  have nonzero : (count : ℚ) ≠ 0 := Nat.cast_ne_zero.mpr (Nat.ne_of_gt positive)
  rw [mean, total, Exact.ofNat_eq, Exact.value_div _ nonzero]

end Series

end ChartScript
