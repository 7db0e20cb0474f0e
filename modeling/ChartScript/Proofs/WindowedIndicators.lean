import ChartScript.Indicator

/-!
# Indicators see their window only

An indicator over a length looks at the value of its bar and at those of as many bars before, and
at whether there are as many. Where two series have the same values there, or both none, it gives
the same on both, whatever the newer and the older bars of either hold and however many there are.
-/

set_option autoImplicit false

namespace ChartScript.Series

section Windows

variable {α : Type}

/-- From their current bars back two series hold the same for a number of bars: the same value, or
neither has one. -/
def AgreeFor (bars : Nat) (source other : Series α) : Prop :=
  ∀ offset < bars, source[offset]? = other[offset]?

variable {bars length : Nat} {source other : Series α}

theorem AgreeFor.mono (agree : AgreeFor bars source other) (fewer : length ≤ bars) :
    AgreeFor length source other :=
  fun offset within => agree offset (Nat.lt_of_lt_of_le within fewer)

theorem AgreeFor.take_eq (agree : AgreeFor bars source other) :
    source.take bars = other.take bars := by
  apply List.ext_getElem?
  intro offset
  by_cases within : offset < bars
  · rw [List.getElem?_take_of_lt within, List.getElem?_take_of_lt within]
    exact agree offset within
  · rw [List.getElem?_take_eq_none (Nat.le_of_not_lt within),
      List.getElem?_take_eq_none (Nat.le_of_not_lt within)]

/-- The offsets of a window are counted from the bar on which it stands. -/
theorem agreeFor_drop {bar otherBar : Nat}
    (agree : ∀ offset ≤ length, source[bar + offset]? = other[otherBar + offset]?) :
    AgreeFor (length + 1) (source.drop bar) (other.drop otherBar) := by
  intro offset within
  rw [List.getElem?_drop, List.getElem?_drop]
  exact agree offset (Nat.le_of_lt_succ within)

theorem fullWindow?_of_agree (agree : AgreeFor length source other) :
    fullWindow? source length = fullWindow? other length := by
  unfold fullWindow?
  rw [agree.take_eq]

variable [Quantity α]

theorem now_of_agree (agree : AgreeFor (length + 1) source other) : now source = now other := by
  rw [← before_zero, ← before_zero]
  unfold before
  rw [agree 0 (Nat.succ_pos length)]

/-! ## Over a length -/

theorem sma_of_agree (agree : AgreeFor (length + 1) source other) :
    sma source length = sma other length := by
  unfold sma
  rw [fullWindow?_of_agree (agree.mono (Nat.le_succ length)), now_of_agree agree]

theorem ema_of_agree (agree : AgreeFor (length + 1) source other) (previous : α) :
    ema source length previous = ema other length previous := by
  unfold ema
  rw [sma_of_agree agree, now_of_agree agree]

/-- The steps of an index go from bar to bar, so its window has one bar more. -/
theorem rsi_of_agree (agree : AgreeFor (length + 1) source other) :
    rsi source length = rsi other length := by
  unfold rsi
  rw [fullWindow?_of_agree agree]

theorem variance?_of_agree (agree : AgreeFor (length + 1) source other) :
    variance? source length = variance? other length := by
  unfold variance?
  rw [fullWindow?_of_agree (agree.mono (Nat.le_succ length))]

theorem highest_of_agree (agree : AgreeFor (length + 1) source other) :
    highest source length = highest other length := by
  unfold highest
  rw [(agree.mono (Nat.le_succ length)).take_eq]

theorem lowest_of_agree (agree : AgreeFor (length + 1) source other) :
    lowest source length = lowest other length := by
  unfold lowest
  rw [(agree.mono (Nat.le_succ length)).take_eq]

theorem change_of_agree (agree : AgreeFor (length + 1) source other) :
    change source length = change other length := by
  unfold change
  rw [agree length (Nat.lt_succ_self length), now_of_agree agree]

theorem crossover_take (first second : Series α) :
    crossover (first.take 2) (second.take 2) = crossover first second := by
  rcases first with _ | ⟨_, _ | ⟨_, _⟩⟩ <;> rcases second with _ | ⟨_, _ | ⟨_, _⟩⟩ <;> rfl

theorem crossunder_take (first second : Series α) :
    crossunder (first.take 2) (second.take 2) = crossunder first second := by
  rcases first with _ | ⟨_, _ | ⟨_, _⟩⟩ <;> rcases second with _ | ⟨_, _ | ⟨_, _⟩⟩ <;> rfl

end Windows

/-! ## Doubles -/

theorem stdev_of_agree {length : Nat} {source other : Series Float}
    (agree : AgreeFor (length + 1) source other) : stdev source length = stdev other length := by
  unfold stdev
  rw [variance?_of_agree agree]

/-- On a bar of one series and a bar of another, an indicator over a length is the same if the
series hold the same from these bars on for the length and one bar more. A crossing is the same if
both of its series hold the same on its bar and on the one before. -/
theorem indicators_of_same_window :
    (∀ (source other : Series Float) (bar otherBar length : Nat),
      (∀ offset ≤ length, source[bar + offset]? = other[otherBar + offset]?) →
      sma (source.drop bar) length = sma (other.drop otherBar) length ∧
      (∀ previous, ema (source.drop bar) length previous =
        ema (other.drop otherBar) length previous) ∧
      rsi (source.drop bar) length = rsi (other.drop otherBar) length ∧
      stdev (source.drop bar) length = stdev (other.drop otherBar) length ∧
      highest (source.drop bar) length = highest (other.drop otherBar) length ∧
      lowest (source.drop bar) length = lowest (other.drop otherBar) length ∧
      change (source.drop bar) length = change (other.drop otherBar) length) ∧
    ∀ (first second otherFirst otherSecond : Series Float) (bar otherBar : Nat),
      (∀ offset ≤ 1, first[bar + offset]? = otherFirst[otherBar + offset]?) →
      (∀ offset ≤ 1, second[bar + offset]? = otherSecond[otherBar + offset]?) →
      crossover (first.drop bar) (second.drop bar) =
        crossover (otherFirst.drop otherBar) (otherSecond.drop otherBar) ∧
      crossunder (first.drop bar) (second.drop bar) =
        crossunder (otherFirst.drop otherBar) (otherSecond.drop otherBar) := by
  constructor
  · intro source other bar otherBar length same
    have agree := agreeFor_drop same
    exact ⟨sma_of_agree agree, ema_of_agree agree, rsi_of_agree agree, stdev_of_agree agree,
      highest_of_agree agree, lowest_of_agree agree, change_of_agree agree⟩
  · intro first second otherFirst otherSecond bar otherBar same sameSecond
    have firstPair := (agreeFor_drop same).take_eq
    have secondPair := (agreeFor_drop sameSecond).take_eq
    constructor
    · rw [← crossover_take, firstPair, secondPair, crossover_take]
    · rw [← crossunder_take, firstPair, secondPair, crossunder_take]

/-- The same three values between other bars, and once with none behind them. -/
theorem indicators_of_same_window_of_three :
    (∀ offset ≤ 2, ([9.0, 1.0, 4.0, 2.0, 7.0] : Series Float)[1 + offset]? =
        ([5.0, 5.0, 1.0, 4.0, 2.0] : Series Float)[2 + offset]?) ∧
      rsi ([1.0, 4.0, 2.0, 7.0] : Series Float) 2 = rsi ([1.0, 4.0, 2.0] : Series Float) 2 ∧
      crossunder ([1.0, 4.0, 2.0, 7.0] : Series Float) [3.0, 3.0] =
        crossunder ([1.0, 4.0, 2.0] : Series Float) [3.0, 3.0, 3.0] := by
  have same : ∀ offset ≤ 2, ([9.0, 1.0, 4.0, 2.0, 7.0] : Series Float)[1 + offset]? =
      ([5.0, 5.0, 1.0, 4.0, 2.0] : Series Float)[2 + offset]? := by decide +kernel
  have level : ∀ offset ≤ 1, ([0.0, 3.0, 3.0] : Series Float)[1 + offset]? =
      ([0.0, 0.0, 3.0, 3.0, 3.0] : Series Float)[2 + offset]? := by decide +kernel
  obtain ⟨indicators, crossings⟩ := indicators_of_same_window
  obtain ⟨_, _, sameIndex, _⟩ := indicators _ _ 1 2 2 same
  obtain ⟨_, sameCrossing⟩ := crossings _ _ _ _ 1 2
    (fun offset within => same offset (Nat.le_succ_of_le within)) level
  exact ⟨same, sameIndex, sameCrossing⟩

end ChartScript.Series
