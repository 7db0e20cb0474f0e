import ChartScript.Proofs.AlignedChart
import ChartScript.Proofs.ErrorOrigins
import ChartScript.Proofs.NamedSeries

/-!
# States within a run

The states that a run can get to while a bar is the newest one opened, also in the middle of a
statement or where one has failed. In all of them everything that has a value on each bar has as
many values as bars are opened, and the variables of the script are there.
-/

set_option autoImplicit false

namespace ChartScript

open Eval

/-- What steps of statements make of the state that a run is in when it has opened some bars, which
are given with the newest first. -/
inductive Script.Reaches (script : Script) (overrides : Table String Float) :
    List Candle → RunState → Prop
  | first (candle : Candle) : Reaches script overrides [candle] (script.initial.openBar candle)
  | next {opened : List Candle} {state : RunState} (candle : Candle)
      (reached : Reaches script overrides opened state) :
      Reaches script overrides (candle :: opened) (state.openBar candle)
  | step {opened : List Candle} {before after : RunState}
      (reached : Reaches script overrides opened before)
      (step : RunState.StatementStep overrides before after) :
      Reaches script overrides opened after

namespace Script.Reaches

variable {script : Script} {overrides : Table String Float} {opened window : List Candle}
  {bar : Nat} {state final : RunState}

theorem moves {α : Type} {evaluation : Eval α}
    (reached : script.Reaches overrides opened state)
    (moves : Moves (RunState.StatementStep overrides) evaluation) :
    script.Reaches overrides opened (outcome evaluation state).2 :=
  moves.keeps (script.Reaches overrides opened) (fun _ _ step known => known.step step) rfl reached

theorem runBars {candles : List Candle} (reached : script.Reaches overrides opened state)
    (ran : outcome (script.runBars overrides candles) state = (.ok (), final)) :
    script.Reaches overrides (candles.reverse ++ opened) final := by
  induction candles generalizing opened state with
  | nil =>
    cases ran
    exact reached
  | cons candle newer ih =>
    obtain ⟨after, executed, ran⟩ := of_runBars_cons_ok ran
    have onBar := (reached.next candle).moves (executeAll_moves overrides script.program.statements)
    rw [executed] at onBar
    rw [List.reverse_cons, List.append_assoc]
    exact ih onBar ran

/-- The state at the end of a run, from which the run over a longer window goes on. -/
theorem runWindow {oldest : Candle} {newer : List Candle} {heading : String × Bool}
    (ran : outcome (script.runWindow overrides (oldest :: newer)) script.initial =
      (.ok heading, final)) :
    script.Reaches overrides (oldest :: newer).reverse final := by
  obtain ⟨declared, after, headed, executed, ran⟩ := of_runWindow_cons_ok ran
  have opened : script.Reaches overrides [oldest] (script.initial.openBar oldest) := .first oldest
  have reached := opened.moves (script.heading_moves overrides)
  rw [headed] at reached
  have onBar := reached.moves (executeAll_moves overrides script.program.statements)
  rw [executed] at onBar
  rw [List.reverse_cons]
  exact onBar.runBars ran

theorem ne_nil (reached : script.Reaches overrides opened state) : opened ≠ [] := by
  induction reached with
  | first | next => exact List.cons_ne_nil _ _
  | step _ _ ih => exact ih

/-- With the newer bars, which are not opened yet, the bars are those of the window. -/
theorem count (reached : script.Reaches overrides (window.drop bar) state) :
    bar + (window.drop bar).length = window.length := by
  have within : bar < window.length :=
    Nat.lt_of_not_le fun outside => reached.ne_nil (List.drop_of_length_le outside)
  rw [List.length_drop]
  exact Nat.add_sub_of_le within.le

end Script.Reaches

/-! ## Filled memory -/

/-- Every series that is kept has a value for each bar so far. -/
structure Memory.Filled (memory : Memory) : Prop where
  slots : ∀ name values, memory.slots.get? name = some (.numeric values) →
    values.length = memory.bars.length
  operands : ∀ site operand, site < memory.sites.size →
    ((memory.site site).operand operand).length = memory.bars.length
  results : ∀ site, site < memory.sites.size →
    (memory.site site).result.length = memory.bars.length

namespace Memory.Filled

variable {memory next : Memory}

theorem empty (names : List String) (count : Nat) : (Memory.empty names count).Filled where
  slots := by
    intro name values found
    rw [get?_empty] at found
    split at found <;> cases found
    rfl
  operands site operand _ := by
    rw [site_empty]
    cases operand <;> rfl
  results site _ := by
    rw [site_empty]
    rfl

theorem openBar (filled : memory.Filled) (candle : Candle) : (memory.openBar candle).Filled where
  slots := by
    intro name values found
    have opened : (memory.openBar candle).slots.get? name =
        (memory.slots.get? name).map openSlot := Table.get?_map _ _ _
    rw [opened] at found
    obtain ⟨slot, known, same⟩ := Option.map_eq_some_iff.mp found
    cases slot with
    | scalar value => cases same
    | numeric older =>
      cases same
      exact congrArg Nat.succ (filled.slots name older known)
  operands site operand inside := by
    rw [size_openBar] at inside
    rw [site_openBar, if_pos inside, SiteMemory.operand_openBar]
    exact congrArg Nat.succ (filled.operands site operand inside)
  results site inside := by
    rw [size_openBar] at inside
    rw [site_openBar, if_pos inside]
    exact congrArg Nat.succ (filled.results site inside)

theorem setOperand (filled : memory.Filled) (site : Nat) (operand : Operand) (value : Float) :
    (memory.setOperand site operand value).Filled where
  slots := filled.slots
  operands other which inside := by
    rw [size_setOperand] at inside
    have known := filled.operands other which inside
    rw [site_setOperand]
    split
    · rw [SiteMemory.operand_setOperand]
      split
      · exact (Series.length_setNow _ _).trans known
      · exact known
    · exact known
  results other inside := by
    rw [size_setOperand] at inside
    rw [result_setOperand]
    exact filled.results other inside

theorem setResult (filled : memory.Filled) (site : Nat) (value : Float) :
    (memory.setResult site value).Filled where
  slots := filled.slots
  operands other which inside := by
    rw [size_setResult] at inside
    rw [operand_setResult]
    exact filled.operands other which inside
  results other inside := by
    rw [size_setResult] at inside
    have known := filled.results other inside
    rw [site_setResult]
    split
    · exact (Series.length_setNow _ _).trans known
    · exact known

theorem store (filled : memory.Filled) {name : String} {value : Value}
    (stored : memory.store name value = .ok next) : next.Filled := by
  obtain ⟨slot, assigns, rfl⟩ := of_store_ok stored
  refine ⟨fun other values found => ?_, filled.operands, filled.results⟩
  by_cases same : name = other
  · subst same
    rw [Table.get?_set_self] at found
    cases found
    obtain ⟨older, number, current, rfl⟩ := of_assign_numeric assigns
    rw [Series.length_setNow]
    cases known : memory.slots.get? name with
    | none =>
      rw [known] at current
      cases current
      exact List.length_map _
    | some slot =>
      rw [known, Option.getD_some] at current
      exact filled.slots name older (current ▸ known)
  · rw [Table.get?_set_of_ne _ _ _ _ same] at found
    exact filled.slots other values found

end Memory.Filled

/-! ## What holds in reached states -/

/-- The bars are there, and everything with a value on each of them has as many. -/
structure Script.Holds (script : Script) (bars : Nat) (state : RunState) : Prop where
  bars : state.memory.bars.length = bars
  placed : state.Placed
  aligned : state.Aligned
  filled : state.memory.Filled
  slots : state.HasSlots script.assignedNames

namespace Script

variable {script : Script} {overrides : Table String Float} {opened : List Candle}
  {bars : Nat} {state before after : RunState}

theorem holds_openBar (candle : Candle) (aligned : state.Aligned) (filled : state.memory.Filled)
    (slots : state.HasSlots script.assignedNames) (count : state.memory.bars.length = bars) :
    script.Holds (bars + 1) (state.openBar candle) := by
  obtain ⟨placed, stillAligned⟩ := aligned.openBar candle
  have opening : RunState.RunStep [] state (state.openBar candle) := .bar state candle
  exact ⟨congrArg Nat.succ count, placed, stillAligned, filled.openBar candle, slots.step opening⟩

theorem Holds.step (holds : script.Holds bars before)
    (step : RunState.StatementStep overrides before after) : script.Holds bars after where
  bars := (congrArg List.length step.bars).trans holds.bars
  placed := holds.placed.step step
  aligned := holds.aligned.step holds.placed step
  filled := by
    cases step with
    | store name value memory stored => exact holds.filled.store stored
    | expression _ step =>
      cases step with
      | operand site operand value => exact holds.filled.setOperand site operand value
      | result site value => exact holds.filled.setResult site value
      | draw recorder drawn => exact holds.filled
  slots := holds.slots.step (.statement before after step)

theorem Reaches.holds (reached : script.Reaches overrides opened state) :
    script.Holds opened.length state := by
  induction reached with
  | first candle =>
    exact holds_openBar candle script.initial_aligned (.empty _ _) script.initial_hasSlots rfl
  | next candle _ ih => exact holds_openBar candle ih.aligned ih.filled ih.slots ih.bars
  | step _ step ih => exact ih.step step

end Script

end ChartScript
