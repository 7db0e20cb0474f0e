import ChartScript.Loaded.Column

/-!
# Columns from a bar back

What is read in a column at the index of a bar is what the series has that starts with this bar.
Each indicator at a bar of a column is the indicator of this series, so none of them reads a newer
bar. A column that has no values on the newer bars yet is a series laid over the window
(`overWindow`), and to set the value of the bar in it is to set the current one of the series.
-/

set_option autoImplicit false

namespace ChartScript

/-! ## Values over a window -/

section Window

variable {α : Type} (unset : α) (newer : Nat) (values : List α)

/-- The values from a bar on over the whole window, in which some newer bars have no value yet. -/
def overWindow : List α :=
  List.replicate newer unset ++ values

@[simp]
theorem length_overWindow : (overWindow unset newer values).length = newer + values.length := by
  rw [overWindow, List.length_append, List.length_replicate]

theorem drop_overWindow : (overWindow unset newer values).drop newer = values :=
  List.drop_left' List.length_replicate

theorem overWindow_succ :
    overWindow unset (newer + 1) values = overWindow unset newer (unset :: values) := by
  rw [overWindow, overWindow, List.replicate_succ', List.append_assoc, List.singleton_append]

theorem overWindow_replicate (bars : Nat) :
    overWindow unset newer (List.replicate bars unset) = List.replicate (newer + bars) unset :=
  List.replicate_append_replicate

theorem all_overWindow (holds : α → Bool) (unsetHolds : holds unset = true) :
    (overWindow unset newer values).all holds = values.all holds := by
  rw [overWindow, List.all_append, List.all_replicate, unsetHolds]
  simp

theorem set_overWindow (value : α) :
    (overWindow unset newer values).set newer value =
      overWindow unset newer (values.set 0 value) := by
  rw [overWindow, List.set_append_right _ _ (Nat.le_of_eq List.length_replicate),
    List.length_replicate, Nat.sub_self, overWindow]

end Window

theorem Series.setNow_eq_set (series : Series Float) (value : Float) :
    series.setNow value = series.set 0 value := by
  cases series <;> rfl

/-! ## Reading at indexes -/

namespace Column

variable (column : Column) (bar length : Nat)

theorem value_add : column.value (bar + length) = Series.before (column.drop bar) length := by
  rw [value, Series.before, List.getElem?_drop]
  rfl

theorem value_eq_now : column.value bar = Series.now (column.drop bar) := by
  rw [← Series.before_zero, ← value_add, Nat.add_zero]

theorem extract_eq_take : column.extract bar (bar + length) = (column.drop bar).take length := by
  rw [List.extract_eq_take_drop, Nat.add_sub_cancel_left]

theorem window?_eq : column.window? bar length = Series.fullWindow? (column.drop bar) length := by
  have fits : length ≠ 0 ∧ bar + length ≤ column.length ↔
      length ≠ 0 ∧ ((column.drop bar).take length).length = length := by
    rw [List.length_take, List.length_drop]
    omega
  simp only [window?, extract_eq_take, Series.fullWindow?, fits]

theorem clamped_eq : column.clamped bar length = (column.drop bar).take length := by
  rw [clamped, List.extract_eq_take_drop]
  rcases Nat.le_total (bar + length) column.length with enough | short
  · rw [Nat.min_eq_left enough, Nat.add_sub_cancel_left]
  · have all : (column.drop bar).length ≤ length := by
      rw [List.length_drop]
      omega
    rw [Nat.min_eq_right short, List.take_of_length_le all,
      List.take_of_length_le (Nat.le_of_eq List.length_drop)]

/-- A window that was cut out of a column is full on its own. -/
theorem fullWindow?_of_some {series values : List Float}
    (found : Series.fullWindow? series length = some values) :
    Series.fullWindow? values length = some values := by
  have cut : (length ≠ 0 ∧ (series.take length).length = length) ∧ series.take length = values :=
    Option.ite_none_right_eq_some.mp found |>.imp id Option.some.inj
  obtain ⟨full, rfl⟩ := cut
  rw [Series.fullWindow?, List.take_take, Nat.min_self]
  exact if_pos full

theorem sma_eq : column.sma bar length = Series.sma (column.drop bar) length := by
  unfold sma Series.sma
  rw [window?_eq, value_eq_now]
  cases Series.fullWindow? (column.drop bar) length <;> rfl

theorem ema_eq (previous : Float) :
    column.ema bar length previous = Series.ema (column.drop bar) length previous := by
  unfold ema Series.ema
  rw [sma_eq, value_eq_now]
  rfl

theorem rsi_eq : column.rsi bar length = Series.rsi (column.drop bar) length := by
  unfold rsi
  rw [window?_eq]
  cases found : Series.fullWindow? (column.drop bar) (length + 1) with
  | none => simp only [Series.rsi, found]; rfl
  | some values => simp only [Series.rsi, found, fullWindow?_of_some (length + 1) found]

theorem stdev_eq : column.stdev bar length = Series.stdev (column.drop bar) length := by
  unfold stdev
  rw [window?_eq]
  cases found : Series.fullWindow? (column.drop bar) length with
  | none => simp only [Series.stdev, Series.variance?, found]; rfl
  | some values =>
    simp only [Series.stdev, Series.variance?, found, fullWindow?_of_some length found]

theorem highest_eq : column.highest bar length = Series.highest (column.drop bar) length := by
  rw [highest, clamped_eq, Series.highest]

theorem lowest_eq : column.lowest bar length = Series.lowest (column.drop bar) length := by
  rw [lowest, clamped_eq, Series.lowest]

theorem change_eq : column.change bar length = Series.change (column.drop bar) length := by
  unfold change Series.change
  rw [List.getElem?_drop, value_eq_now]
  cases column[bar + length]? <;> rfl

theorem pair?_eq : column.pair? bar =
    match column.drop bar with
    | now :: before :: _ => some (now, before)
    | _ => none := by
  have now : column[bar]? = (column.drop bar)[0]? := by rw [List.getElem?_drop, Nat.add_zero]
  have before : column[bar + 1]? = (column.drop bar)[1]? := by rw [List.getElem?_drop]
  rw [pair?, now, before]
  rcases column.drop bar with _ | ⟨_, _ | ⟨_, _⟩⟩ <;> rfl

theorem crossover_eq (second : Column) :
    column.crossover second bar = Series.crossover (column.drop bar) (second.drop bar) := by
  rw [crossover, pair?_eq, pair?_eq]
  rcases column.drop bar with _ | ⟨_, _ | ⟨_, _⟩⟩ <;>
    rcases second.drop bar with _ | ⟨_, _ | ⟨_, _⟩⟩ <;> rfl

theorem crossunder_eq (second : Column) :
    column.crossunder second bar = Series.crossunder (column.drop bar) (second.drop bar) := by
  rw [crossunder, pair?_eq, pair?_eq]
  rcases column.drop bar with _ | ⟨_, _ | ⟨_, _⟩⟩ <;>
    rcases second.drop bar with _ | ⟨_, _ | ⟨_, _⟩⟩ <;> rfl

end Column

end ChartScript
