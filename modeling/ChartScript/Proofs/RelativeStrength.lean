import ChartScript.Proofs.ExactNumbers
import Mathlib.Tactic.FieldSimp
import Mathlib.Tactic.Linarith
import Mathlib.Tactic.Positivity
import Mathlib.Tactic.Ring

/-!
# The relative strength index is a percentage

In exact numbers the index is the share of the gains in all that the steps of a window add up to,
as a percentage. So it is 0 and 100 where all of that is lost or won, and there it cannot be undone
by rounding.
-/

set_option autoImplicit false

namespace ChartScript

/-- From bar to bar: the value of a bar and the value one bar before. -/
structure PriceStep where
  newer : ℚ
  older : ℚ

namespace PriceStep

def Rises (step : PriceStep) : Prop :=
  step.older < step.newer

def Falls (step : PriceStep) : Prop :=
  step.newer < step.older

def gain (step : PriceStep) : ℚ :=
  max (step.newer - step.older) 0

def loss (step : PriceStep) : ℚ :=
  max (step.older - step.newer) 0

/-- The steps between the bars of a window, the newest first. -/
def ofWindow (window : List ℚ) : List PriceStep :=
  List.zipWith mk window window.tail

theorem ofWindow_cons (newer older : ℚ) (rest : List ℚ) :
    ofWindow (newer :: older :: rest) = ⟨newer, older⟩ :: ofWindow (older :: rest) := rfl

theorem gain_nonneg (step : PriceStep) : 0 ≤ step.gain :=
  le_max_right _ _

theorem loss_nonneg (step : PriceStep) : 0 ≤ step.loss :=
  le_max_right _ _

theorem gain_eq_zero_iff (step : PriceStep) : step.gain = 0 ↔ ¬step.Rises := by
  rw [gain, max_eq_right_iff, sub_nonpos, Rises, not_lt]

theorem loss_eq_zero_iff (step : PriceStep) : step.loss = 0 ↔ ¬step.Falls := by
  rw [loss, max_eq_right_iff, sub_nonpos, Falls, not_lt]

end PriceStep

/-- What sums of no negative number come to is nothing only where each of them is. -/
theorem sum_map_eq_zero_iff {items : List PriceStep} {size : PriceStep → ℚ}
    (nonneg : ∀ item, 0 ≤ size item) :
    (items.map size).sum = 0 ↔ ∀ item ∈ items, size item = 0 := by
  constructor
  · intro total item member
    have all : ∀ number ∈ items.map size, 0 ≤ number :=
      List.forall_mem_map.mpr fun item _ => nonneg item
    exact List.all_zero_of_le_zero_le_of_sum_eq_zero all total (List.mem_map_of_mem member)
  · intro zero
    exact List.sum_eq_zero (List.forall_mem_map.mpr zero)

namespace Series

open Exact (series)

/-! ## Gains and losses -/

def gains (window : List ℚ) : ℚ :=
  ((PriceStep.ofWindow window).map PriceStep.gain).sum

def losses (window : List ℚ) : ℚ :=
  ((PriceStep.ofWindow window).map PriceStep.loss).sum

theorem gains_cons (newer older : ℚ) (rest : List ℚ) :
    gains (newer :: older :: rest) = (PriceStep.mk newer older).gain + gains (older :: rest) := by
  rw [gains, PriceStep.ofWindow_cons, List.map_cons, List.sum_cons, gains]

theorem losses_cons (newer older : ℚ) (rest : List ℚ) :
    losses (newer :: older :: rest) = (PriceStep.mk newer older).loss + losses (older :: rest) := by
  rw [losses, PriceStep.ofWindow_cons, List.map_cons, List.sum_cons, losses]

/-- A step is added to the gains or to the losses, and is nothing to the other sum. -/
theorem gainsAndLosses_series (window : List ℚ) (gained lost : ℚ) :
    gainsAndLosses (.value gained) (.value lost) (series window) =
      (.value (gained + gains window), .value (lost + losses window)) := by
  induction window generalizing gained lost with
  | nil => simp [series, gainsAndLosses, gains, losses, PriceStep.ofWindow]
  | cons newer rest known =>
    cases rest with
    | nil => simp [series, gainsAndLosses, gains, losses, PriceStep.ofWindow]
    | cons older rest =>
      rw [gains_cons, losses_cons, ← add_assoc, ← add_assoc, ← known]
      have step : gainsAndLosses (.value gained) (.value lost) (series (newer :: older :: rest)) =
          if 0 < newer - older then
            gainsAndLosses (.value (gained + (newer - older))) (.value lost)
              (series (older :: rest))
          else
            gainsAndLosses (.value gained) (.value (lost - (newer - older)))
              (series (older :: rest)) := by
        simp [series, gainsAndLosses]
      rw [step]
      by_cases rises : 0 < newer - older
      · have gain : (PriceStep.mk newer older).gain = newer - older := max_eq_left rises.le
        have loss : (PriceStep.mk newer older).loss = 0 := max_eq_right (by linarith)
        rw [if_pos rises, gain, loss, add_zero]
      · have gain : (PriceStep.mk newer older).gain = 0 := max_eq_right (by linarith)
        have loss : (PriceStep.mk newer older).loss = older - newer := max_eq_left (by linarith)
        rw [if_neg rises, gain, loss, add_zero, sub_sub_eq_add_sub, add_sub_assoc]

theorem gains_nonneg (window : List ℚ) : 0 ≤ gains window :=
  List.sum_nonneg (List.forall_mem_map.mpr fun step _ => step.gain_nonneg)

theorem losses_nonneg (window : List ℚ) : 0 ≤ losses window :=
  List.sum_nonneg (List.forall_mem_map.mpr fun step _ => step.loss_nonneg)

theorem gains_eq_zero_iff (window : List ℚ) :
    gains window = 0 ↔ ∀ step ∈ PriceStep.ofWindow window, ¬step.Rises := by
  rw [gains, sum_map_eq_zero_iff PriceStep.gain_nonneg]
  exact forall₂_congr fun step _ => step.gain_eq_zero_iff

theorem losses_eq_zero_iff (window : List ℚ) :
    losses window = 0 ↔ ∀ step ∈ PriceStep.ofWindow window, ¬step.Falls := by
  rw [losses, sum_map_eq_zero_iff PriceStep.loss_nonneg]
  exact forall₂_congr fun step _ => step.loss_eq_zero_iff

/-! ## The index -/

/-- The share of the gains in all steps of a window, as a percentage. -/
def strengthIndex (window : List ℚ) : ℚ :=
  if losses window = 0 then 100 else 100 * gains window / (gains window + losses window)

theorem strengthIndex_nonneg (window : List ℚ) : 0 ≤ strengthIndex window := by
  have won := gains_nonneg window
  have lost := losses_nonneg window
  unfold strengthIndex
  split <;> positivity

theorem strengthIndex_le (window : List ℚ) : strengthIndex window ≤ 100 := by
  have won := gains_nonneg window
  have lost := losses_nonneg window
  unfold strengthIndex
  split
  · exact le_rfl
  · exact div_le_of_le_mul₀ (by positivity) (by positivity) (by linarith)

theorem strengthIndex_eq_hundred_iff (window : List ℚ) :
    strengthIndex window = 100 ↔ ∀ step ∈ PriceStep.ofWindow window, ¬step.Falls := by
  rw [← losses_eq_zero_iff]
  have won := gains_nonneg window
  have lost := losses_nonneg window
  unfold strengthIndex
  split
  case isTrue none => simp [none]
  case isFalse some =>
    have total : gains window + losses window ≠ 0 := by positivity
    rw [div_eq_iff total]
    constructor
    · intro all
      linarith
    · intro none
      exact absurd none some

theorem strengthIndex_eq_zero_iff (window : List ℚ) :
    strengthIndex window = 0 ↔ (∀ step ∈ PriceStep.ofWindow window, ¬step.Rises) ∧
      ∃ step ∈ PriceStep.ofWindow window, step.Falls := by
  have fallen : losses window ≠ 0 ↔ ∃ step ∈ PriceStep.ofWindow window, step.Falls := by
    rw [ne_eq, losses_eq_zero_iff]
    push Not
    rfl
  rw [← gains_eq_zero_iff, ← fallen]
  have won := gains_nonneg window
  have lost := losses_nonneg window
  unfold strengthIndex
  split
  case isTrue none => simp [none]
  case isFalse some =>
    have total : gains window + losses window ≠ 0 := by positivity
    rw [div_eq_iff total, zero_mul]
    simp [some]

/-- One more than the ratio of the mean gain to the mean loss is the ratio of all to the losses. -/
theorem one_add_ratio {gained lost bars : ℚ} (some : lost ≠ 0) (nonzero : bars ≠ 0) :
    1 + gained / bars / (lost / bars) = (gained + lost) / lost := by
  rw [div_div_div_cancel_right₀ nonzero, add_div, div_self some, add_comm]

/-- In exact numbers an index is the share of the gains, if there is a window to take it from. -/
theorem rsi_series {numbers : List ℚ} {length : Nat} (positive : 1 ≤ length) :
    rsi (series numbers) length =
      .value (if length + 1 ≤ numbers.length then strengthIndex (numbers.take (length + 1))
        else 50) := by
  have wide : 1 ≤ length + 1 := Nat.succ_pos length
  by_cases fits : length + 1 ≤ numbers.length
  · have bars : (length : ℚ) ≠ 0 := Nat.cast_ne_zero.mpr (Nat.ne_of_gt positive)
    unfold rsi
    rw [if_pos fits, fullWindow?_series _ wide fits]
    simp only [any_isMissing_series, Bool.false_eq_true, if_false, Exact.ofNat_eq, Nat.cast_zero,
      gainsAndLosses_series, zero_add, Exact.value_div _ bars, Exact.isZero_value]
    unfold strengthIndex
    by_cases none : losses (numbers.take (length + 1)) = 0
    · rw [if_pos none, none, zero_div, decide_eq_true rfl]
      rfl
    · have won := gains_nonneg (numbers.take (length + 1))
      have lost := losses_nonneg (numbers.take (length + 1))
      have total : gains (numbers.take (length + 1)) + losses (numbers.take (length + 1)) ≠ 0 := by
        positivity
      have meanLoss : losses (numbers.take (length + 1)) / length ≠ 0 := div_ne_zero none bars
      rw [if_neg none, decide_eq_false meanLoss, if_neg Bool.false_ne_true,
        Exact.value_div _ meanLoss, Exact.value_add, Nat.cast_one, one_add_ratio none bars,
        Exact.value_div _ (div_ne_zero total none), Exact.value_sub]
      congr 1
      field_simp
      ring
  · unfold rsi
    rw [if_neg fits, fullWindow?_series_of_lt _ (Nat.lt_of_not_le fits)]
    rfl

/-- An index over rationals is between 0 and 100. In a window that fits it is 100 where no step
falls, and 0 where none rises and one falls, and only there; where no window fits it is 50. -/
theorem rsi_percentage (numbers : List ℚ) (bar length : Nat) (positive : 1 ≤ length) :
    ∃ index, rsi ((series numbers).drop bar) length = .value index ∧ 0 ≤ index ∧ index ≤ 100 ∧
      (bar + length + 1 ≤ numbers.length →
        let steps := PriceStep.ofWindow ((numbers.drop bar).take (length + 1))
        (index = 100 ↔ ¬∃ step ∈ steps, step.Falls) ∧
          (index = 0 ↔ (¬∃ step ∈ steps, step.Rises) ∧ ∃ step ∈ steps, step.Falls)) ∧
      (numbers.length < bar + length + 1 → index = 50) := by
  refine ⟨_, drop_series numbers bar ▸ rsi_series positive, ?_⟩
  rw [List.length_drop]
  split
  case isTrue fits =>
    refine ⟨strengthIndex_nonneg _, strengthIndex_le _, fun _ => ?_, fun short => by omega⟩
    constructor
    · rw [strengthIndex_eq_hundred_iff]
      push Not
      rfl
    · rw [strengthIndex_eq_zero_iff]
      push Not
      rfl
  case isFalse short =>
    exact ⟨by norm_num, by norm_num, fun fits => absurd fits (by omega), fun _ => rfl⟩

/-- One step rises by 1 and one falls by 3. -/
theorem rsi_percentage_mixed : 1 ≤ 2 ∧
    ∃ index, rsi ((series [9, 4, 3, 6]).drop 1) 2 = .value index ∧ 0 < index ∧ index < 100 := by
  have positive : 1 ≤ 2 := by decide
  obtain ⟨index, found, low, high, fits, _⟩ := rsi_percentage [9, 4, 3, 6] 1 2 positive
  obtain ⟨allWon, allLost⟩ := fits (by decide)
  have rises : ∃ step ∈ PriceStep.ofWindow [4, 3, 6], step.Rises :=
    ⟨⟨4, 3⟩, by simp [PriceStep.ofWindow], by norm_num [PriceStep.Rises]⟩
  have falls : ∃ step ∈ PriceStep.ofWindow [4, 3, 6], step.Falls :=
    ⟨⟨3, 6⟩, by simp [PriceStep.ofWindow], by norm_num [PriceStep.Falls]⟩
  exact ⟨positive, index, found, lt_of_le_of_ne low fun lost => (allLost.mp lost.symm).1 rises,
    lt_of_le_of_ne high fun won => allWon.mp won falls⟩

end Series

end ChartScript
