import ChartScript.Proofs.ExactNumbers
import Mathlib.Tactic.Linarith
import Mathlib.Tactic.NormNum
import Mathlib.Tactic.Positivity

/-!
# Averages stay within the extremes

In exact numbers the mean of a window is between its smallest and its largest value, and so is the
current value that takes its place where the history is too short. An exponential average is a
weighted mean of the current value and of the average before it, so by induction from the oldest
bar on it is between the smallest and the largest value so far.
-/

set_option autoImplicit false

namespace ChartScript.Series

section Chain

variable {α : Type} [Quantity α]

/-- The exponential average on each bar of a series. It is taken from that of the bar before, from
the oldest bar on, which has none before it. -/
def averages (length : Nat) : Series α → Series α
  | [] => []
  | value :: older =>
    ema (value :: older) length (now (averages length older)) :: averages length older

end Chain

open Exact (series)

/-- Of two values it is one that the other comes before, or that it is equal to. -/
structure PicksLast (pick : Exact → Exact → Exact) (before : ℚ → ℚ → Prop) : Prop where
  refl : ∀ number, before number number
  trans : ∀ first second third, before first second → before second third → before first third
  picks : ∀ left right,
    (pick (.value left) (.value right) = .value left ∧ before right left) ∨
      (pick (.value left) (.value right) = .value right ∧ before left right)

theorem larger_picksLast : PicksLast larger (· ≤ ·) where
  refl := le_refl
  trans _ _ _ := le_trans
  picks left right := by
    unfold larger
    rw [Exact.less_value]
    by_cases below : right < left
    · exact .inl ⟨if_pos (decide_eq_true below), below.le⟩
    · exact .inr ⟨if_neg (by simpa using below), not_lt.mp below⟩

theorem smaller_picksLast : PicksLast smaller (· ≥ ·) where
  refl := le_refl
  trans _ _ _ first second := le_trans second first
  picks left right := by
    unfold smaller
    rw [Exact.less_value]
    by_cases below : left < right
    · exact .inl ⟨if_pos (decide_eq_true below), below.le⟩
    · exact .inr ⟨if_neg (by simpa using below), not_lt.mp below⟩

section Picks

variable {pick : Exact → Exact → Exact} {before : ℚ → ℚ → Prop} (picks : PicksLast pick before)

include picks

theorem foldl_picks (first : ℚ) (rest : List ℚ) :
    ∃ last ∈ first :: rest, (series rest).foldl pick (.value first) = .value last ∧
      ∀ number ∈ first :: rest, before number last := by
  induction rest generalizing first with
  | nil => exact ⟨first, List.mem_cons_self, rfl, by simpa using picks.refl first⟩
  | cons second rest known =>
    have step : (series (second :: rest)).foldl pick (.value first) =
        (series rest).foldl pick (pick (.value first) (.value second)) := rfl
    rcases picks.picks first second with ⟨picked, ordered⟩ | ⟨picked, ordered⟩
    · obtain ⟨last, member, found, others⟩ := known first
      obtain ⟨here, behind⟩ := List.forall_mem_cons.mp others
      refine ⟨last, ?_, by rw [step, picked, found], ?_⟩
      · rcases List.mem_cons.mp member with rfl | among
        · exact List.mem_cons_self
        · exact List.mem_cons_of_mem _ (List.mem_cons_of_mem _ among)
      · exact List.forall_mem_cons.mpr ⟨here, List.forall_mem_cons.mpr
          ⟨picks.trans _ _ _ ordered here, behind⟩⟩
    · obtain ⟨last, member, found, others⟩ := known second
      obtain ⟨here, _⟩ := List.forall_mem_cons.mp others
      refine ⟨last, List.mem_cons_of_mem _ member, by rw [step, picked, found], ?_⟩
      exact List.forall_mem_cons.mpr ⟨picks.trans _ _ _ ordered here, others⟩

theorem combinePresent_picks {window : List ℚ} (nonempty : window ≠ []) :
    ∃ last ∈ window, combinePresent pick (series window) = .value last ∧
      ∀ number ∈ window, before number last := by
  obtain ⟨first, rest, rfl⟩ := List.exists_cons_of_ne_nil nonempty
  have present :
      (series (first :: rest)).filter (!Quantity.isMissing ·) = series (first :: rest) := by
    refine List.filter_eq_self.mpr (List.forall_mem_map.mpr fun number _ => ?_)
    rfl
  unfold combinePresent
  rw [present]
  exact foldl_picks picks first rest

end Picks

/-! ## Means -/

/-- All of the numbers are between two bounds. -/
def Between (low high : ℚ) (numbers : List ℚ) : Prop :=
  ∀ number ∈ numbers, low ≤ number ∧ number ≤ high

variable {numbers : List ℚ} {length : Nat}

theorem Between.mean {low high : ℚ} {window : List ℚ} (between : Between low high window)
    (nonempty : 1 ≤ window.length) :
    low ≤ window.sum / window.length ∧ window.sum / window.length ≤ high := by
  have positive : (0 : ℚ) < window.length := Nat.cast_pos.mpr nonempty
  constructor
  · have least := List.card_nsmul_le_sum window low fun number member => (between number member).1
    rw [nsmul_eq_mul] at least
    exact (le_div_iff₀ positive).mpr (by linarith)
  · have most := List.sum_le_card_nsmul window high fun number member => (between number member).2
    rw [nsmul_eq_mul] at most
    exact (div_le_iff₀ positive).mpr (by linarith)

/-- With a full window or without, a mean is within the bounds of the bars that it can see. -/
theorem sma_between (nonempty : numbers ≠ []) (positive : 1 ≤ length) :
    ∃ mean, sma (series numbers) length = .value mean ∧
      ∀ low high, Between low high (numbers.take length) → low ≤ mean ∧ mean ≤ high := by
  by_cases fits : length ≤ numbers.length
  · have whole : (numbers.take length).length = length := List.length_take_of_le fits
    refine ⟨_, ?_, fun low high between => between.mean (whole.symm ▸ positive)⟩
    unfold sma
    rw [fullWindow?_series numbers positive fits, whole]
    exact mean_series _ positive
  · obtain ⟨newest, older, rfl⟩ := List.exists_cons_of_ne_nil nonempty
    refine ⟨newest, ?_, fun low high between => between newest ?_⟩
    · unfold sma
      rw [fullWindow?_series_of_lt _ (Nat.lt_of_not_le fits)]
      rfl
    · obtain ⟨further, rfl⟩ := Nat.exists_eq_succ_of_ne_zero (Nat.ne_of_gt positive)
      exact List.mem_cons_self

/-! ## Exponential averages -/

def emaWeight (length : Nat) : ℚ :=
  2 / (length + 1)

theorem emaWeight_pos (length : Nat) : 0 < emaWeight length := by
  unfold emaWeight
  positivity

theorem emaWeight_le_one (positive : 1 ≤ length) : emaWeight length ≤ 1 := by
  have atLeast : (1 : ℚ) ≤ length := Nat.one_le_cast.mpr positive
  exact (div_le_one (by linarith)).mpr (by linarith)

theorem ema_series (newest : ℚ) (older : List ℚ) (length : Nat) (previous : ℚ) :
    ema (series (newest :: older)) length (.value previous) =
      .value (newest * emaWeight length + previous * (1 - emaWeight length)) := by
  have nonzero : (length : ℚ) + 1 ≠ 0 := by positivity
  unfold ema
  rw [Exact.isMissing_value, if_neg Bool.false_ne_true, now_series]
  simp only [Exact.ofNat_eq, Nat.cast_one, Nat.cast_ofNat, Exact.value_add,
    Exact.value_div _ nonzero, Exact.value_sub, Exact.value_mul, emaWeight]

theorem weighted_between {low high newest previous weight : ℚ} (positive : 0 ≤ weight)
    (small : weight ≤ 1) (now : low ≤ newest ∧ newest ≤ high)
    (before : low ≤ previous ∧ previous ≤ high) :
    low ≤ newest * weight + previous * (1 - weight) ∧
      newest * weight + previous * (1 - weight) ≤ high := by
  obtain ⟨nowLow, nowHigh⟩ := now
  obtain ⟨beforeLow, beforeHigh⟩ := before
  have rest : 0 ≤ 1 - weight := sub_nonneg.mpr small
  constructor
  · have first := mul_le_mul_of_nonneg_right nowLow positive
    have second := mul_le_mul_of_nonneg_right beforeLow rest
    linarith
  · have first := mul_le_mul_of_nonneg_right nowHigh positive
    have second := mul_le_mul_of_nonneg_right beforeHigh rest
    linarith

/-- From the oldest bar on, each average is within the bounds of all values up to its bar. -/
theorem averages_between (nonempty : numbers ≠ []) (positive : 1 ≤ length) :
    ∃ average, now (averages length (series numbers)) = .value average ∧
      ∀ low high, Between low high numbers → low ≤ average ∧ average ≤ high := by
  induction numbers with
  | nil => exact absurd rfl nonempty
  | cons newest older known =>
    by_cases first : older = []
    · subst first
      obtain ⟨mean, found, between⟩ := sma_between nonempty positive
      exact ⟨mean, found, fun low high all =>
        between low high fun number member => all number (List.mem_of_mem_take member)⟩
    · obtain ⟨previous, found, between⟩ := known first
      refine ⟨newest * emaWeight length + previous * (1 - emaWeight length), ?_, ?_⟩
      · show ema (series (newest :: older)) length (now (averages length (series older))) = _
        rw [found, ema_series]
      · intro low high all
        obtain ⟨here, behind⟩ := List.forall_mem_cons.mp all
        exact weighted_between (emaWeight_pos length).le (emaWeight_le_one positive) here
          (between low high behind)

/-- On every bar of a series of rationals, with a full history or a short one, the mean is between
the lowest and the highest value over its length. The exponential average that is taken from bar
to bar is between the smallest and the largest value up to the bar. -/
theorem averages_within_extremes (numbers : List ℚ) (bar length : Nat)
    (inside : bar < numbers.length) (positive : 1 ≤ length) :
    (∃ least mean greatest, lowest ((series numbers).drop bar) length = .value least ∧
      sma ((series numbers).drop bar) length = .value mean ∧
      highest ((series numbers).drop bar) length = .value greatest ∧
      least ≤ mean ∧ mean ≤ greatest) ∧
    ∃ least ∈ numbers.drop bar, ∃ greatest ∈ numbers.drop bar, ∃ average,
      Between least greatest (numbers.drop bar) ∧
      now (averages length ((series numbers).drop bar)) = .value average ∧
      least ≤ average ∧ average ≤ greatest := by
  have nonempty : numbers.drop bar ≠ [] := by simpa using inside
  have window : (numbers.drop bar).take length ≠ [] := by
    simp only [ne_eq, List.take_eq_nil_iff, nonempty, or_false]
    omega
  rw [drop_series]
  constructor
  · obtain ⟨least, _, lowestFound, above⟩ := combinePresent_picks smaller_picksLast window
    obtain ⟨greatest, _, highestFound, below⟩ := combinePresent_picks larger_picksLast window
    obtain ⟨mean, meanFound, between⟩ := sma_between nonempty positive
    refine ⟨least, mean, greatest, ?_, meanFound, ?_, ?_⟩
    · rw [lowest, take_series]
      exact lowestFound
    · rw [highest, take_series]
      exact highestFound
    · exact between least greatest fun number member => ⟨above number member, below number member⟩
  · obtain ⟨least, leastMember, _, above⟩ := combinePresent_picks smaller_picksLast nonempty
    obtain ⟨greatest, greatestMember, _, below⟩ := combinePresent_picks larger_picksLast nonempty
    obtain ⟨average, found, between⟩ := averages_between nonempty positive
    have all : Between least greatest (numbers.drop bar) :=
      fun number member => ⟨above number member, below number member⟩
    exact ⟨least, leastMember, greatest, greatestMember, average, all, found,
      between least greatest all⟩

/-- On the bar of the 4 the history is short of one bar. -/
theorem averages_within_extremes_short : 1 < 3 ∧ 1 ≤ 3 ∧
    (∃ least mean greatest, lowest ((series [9, 4, 1]).drop 1) 3 = .value least ∧
      sma ((series [9, 4, 1]).drop 1) 3 = .value mean ∧
      highest ((series [9, 4, 1]).drop 1) 3 = .value greatest ∧
      least ≤ mean ∧ mean ≤ greatest) ∧
    ∃ least ∈ [4, 1], ∃ greatest ∈ [4, 1], ∃ average, Between least greatest [4, 1] ∧
      now (averages 3 ((series [9, 4, 1]).drop 1)) = .value average ∧
      least ≤ average ∧ average ≤ greatest := by
  have inside : 1 < ([9, 4, 1] : List ℚ).length := by decide
  exact ⟨by decide, by decide, averages_within_extremes [9, 4, 1] 1 3 inside (by decide)⟩

end ChartScript.Series
