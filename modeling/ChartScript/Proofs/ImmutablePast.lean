import ChartScript.Proofs.LoadedColumns
import ChartScript.Proofs.NodePlaces
import ChartScript.Proofs.PlotsOfCalls
import ChartScript.Proofs.ReachedStates
import ChartScript.Proofs.Resolution

/-!
# The past cannot be changed

Whatever a statement does on a bar, it does to that bar only. Everything with a value on each bar
is seen here over the whole window, the newest bar first (`overWindow`), as a loaded window has it
(`RunState.inWindow`), and compared before and after the statement (`SameBut`): variables, what the
sites remember, plots and alerts. What can be reached on a bar (`Script.Reaches`) takes in the
states in the middle of a statement and those in which one has failed.
-/

set_option autoImplicit false

namespace ChartScript

section Window

variable {α : Type}

/-- As many values as before, which differ at one index at most. -/
structure SameBut (index : Nat) (earlier later : List α) : Prop where
  length : later.length = earlier.length
  others : ∀ other, other ≠ index → later[other]? = earlier[other]?

theorem SameBut.refl (index : Nat) (values : List α) : SameBut index values values :=
  ⟨rfl, fun _ _ => rfl⟩

theorem SameBut.trans {index : Nat} {earlier middle later : List α}
    (first : SameBut index earlier middle) (second : SameBut index middle later) :
    SameBut index earlier later :=
  ⟨second.length.trans first.length, fun other differs =>
    (second.others other differs).trans (first.others other differs)⟩

/-- On the bar itself, values differ in the first one at most. -/
theorem sameBut_of_drop {unset : α} {newer : Nat} {earlier later : List α}
    (length : later.length = earlier.length) (past : later.drop 1 = earlier.drop 1) :
    SameBut newer (overWindow unset newer earlier) (overWindow unset newer later) where
  length := by rw [length_overWindow, length_overWindow, length]
  others := by
    intro other differs
    unfold overWindow
    rcases Nat.lt_or_gt_of_ne differs with isNewer | isOlder
    · rw [List.getElem?_append_left (by simpa using isNewer),
        List.getElem?_append_left (by simpa using isNewer)]
    · rw [List.getElem?_append_right (by simpa using isOlder.le),
        List.getElem?_append_right (by simpa using isOlder.le), List.length_replicate]
      obtain ⟨behind, rfl⟩ : ∃ behind, other = newer + (1 + behind) :=
        ⟨other - newer - 1, by omega⟩
      rw [Nat.add_sub_cancel_left, ← List.getElem?_drop, ← List.getElem?_drop, past]

theorem sameBut_setNow (newer : Nat) (series : Series Float) (value : Float) :
    SameBut newer (overWindow Numeral.nan newer series)
      (overWindow Numeral.nan newer (series.setNow value)) :=
  sameBut_of_drop (Series.length_setNow series value) (Series.drop_setNow series value 0)

end Window

/-- A variable keeps its numbers on all other bars, as long as it holds numbers. -/
inductive Slot.KeepsPast (newer : Nat) : Slot → Slot → Prop
  | series {values next : Series Float} (same : SameBut newer
      (overWindow Numeral.nan newer values) (overWindow Numeral.nan newer next)) :
      KeepsPast newer (.numeric values) (.numeric next)
  | retyped {values : Series Float} {value : Value} :
      KeepsPast newer (.numeric values) (.scalar value)
  | scalar {value next : Value} : KeepsPast newer (.scalar value) (.scalar next)

namespace Slot.KeepsPast

variable {newer : Nat} {slot middle next : Slot}

theorem refl (newer : Nat) (slot : Slot) : slot.KeepsPast newer slot := by
  cases slot with
  | numeric values => exact .series (.refl _ _)
  | scalar value => exact .scalar

theorem trans (first : slot.KeepsPast newer middle) (second : middle.KeepsPast newer next) :
    slot.KeepsPast newer next := by
  cases first with
  | series same =>
    cases second with
    | series others => exact .series (same.trans others)
    | retyped => exact .retyped
  | retyped =>
    cases second
    exact .retyped
  | scalar =>
    cases second
    exact .scalar

theorem of_assign {name : String} {value : Value}
    (assigns : Memory.assign name slot value = .ok next) : slot.KeepsPast newer next := by
  unfold Memory.assign at assigns
  split at assigns
  · cases assigns
    exact .series (sameBut_setNow _ _ _)
  · split at assigns <;> cases assigns
    exact .retyped
  · split at assigns <;> cases assigns
    exact .scalar
  · cases assigns
    exact .scalar

end Slot.KeepsPast

/-- The entries are related to those there were, under the same keys, and new ones only come behind
them. -/
inductive Table.Grows {κ ν : Type} (related : ν → ν → Prop) (isNew : ν → Prop) :
    Table κ ν → Table κ ν → Prop
  | added {entries : Table κ ν} (new : ∀ entry ∈ entries, isNew entry.2) :
      Grows related isNew [] entries
  | kept {key : κ} {value next : ν} {rest others : Table κ ν} (first : related value next)
      (behind : Grows related isNew rest others) :
      Grows related isNew ((key, value) :: rest) ((key, next) :: others)

namespace Table.Grows

variable {κ ν : Type} {related : ν → ν → Prop} {isNew : ν → Prop} {table middle last : Table κ ν}

theorem refl (same : ∀ value, related value value) (table : Table κ ν) :
    Grows related isNew table table := by
  induction table with
  | nil => exact .added nofun
  | cons entry rest ih => exact .kept (same entry.2) ih

theorem trans (composed : ∀ value middle next, related value middle → related middle next →
      related value next)
    (stays : ∀ value next, related value next → isNew value → isNew next)
    (first : Grows related isNew table middle) (second : Grows related isNew middle last) :
    Grows related isNew table last := by
  induction first generalizing last with
  | added new =>
    refine .added ?_
    induction second with
    | added others => exact others
    | kept related _ ih =>
      obtain ⟨isFirst, behind⟩ := List.forall_mem_cons.mp new
      exact List.forall_mem_cons.mpr ⟨stays _ _ related isFirst, ih behind⟩
  | kept related _ ih =>
    cases second with
    | kept next behind => exact .kept (composed _ _ _ related next) (ih behind)

theorem modify [DecidableEq κ] (same : ∀ value, related value value) (table : Table κ ν) (key : κ)
    {change : ν → ν} (changed : ∀ value, related value (change value)) :
    Grows related isNew table (table.modify key change) := by
  induction table with
  | nil => exact .added nofun
  | cons entry rest ih =>
    rw [Table.modify, List.map_cons]
    split
    · exact .kept (changed entry.2) ih
    · exact .kept (same entry.2) ih

theorem append (same : ∀ value, related value value) (table : Table κ ν) {entries : Table κ ν}
    (new : ∀ entry ∈ entries, isNew entry.2) : Grows related isNew table (table ++ entries) := by
  induction table with
  | nil => exact .added new
  | cons entry rest ih => exact .kept (same entry.2) ih

theorem setNew [DecidableEq κ] (same : ∀ value, related value value) (table : Table κ ν) (key : κ)
    {value : ν} (new : isNew value) : Grows related isNew table (table.setNew key value) := by
  unfold Table.setNew
  split
  · exact refl same table
  · exact append same table (List.forall_mem_singleton.mpr new)

end Table.Grows

/-! ## States -/

/-- The plot keeps its values on all other bars. -/
def Plot.KeepsPast (newer : Nat) (earlier later : Plot) : Prop :=
  SameBut newer (overWindow Numeral.nan newer earlier.values)
    (overWindow Numeral.nan newer later.values)

theorem Plot.KeepsPast.refl (newer : Nat) (plot : Plot) : plot.KeepsPast newer plot :=
  SameBut.refl newer _

theorem Plot.KeepsPast.trans {newer : Nat} (plot middle last : Plot)
    (first : plot.KeepsPast newer middle) (second : middle.KeepsPast newer last) :
    plot.KeepsPast newer last :=
  SameBut.trans first second

/-- The alert keeps its flags on all other bars. -/
def Alert.KeepsPast (newer : Nat) (earlier later : Alert) : Prop :=
  SameBut newer (overWindow false newer earlier.triggered)
    (overWindow false newer later.triggered)

/-- The alert has no flag on any other bar of the window. -/
def Alert.IsNew (window newer : Nat) (alert : Alert) : Prop :=
  SameBut newer (List.replicate window false) (overWindow false newer alert.triggered)

theorem Alert.KeepsPast.refl (newer : Nat) (alert : Alert) : alert.KeepsPast newer alert :=
  SameBut.refl newer _

theorem Alert.KeepsPast.trans {newer : Nat} (alert middle last : Alert)
    (first : alert.KeepsPast newer middle) (second : middle.KeepsPast newer last) :
    alert.KeepsPast newer last :=
  SameBut.trans first second

theorem Alert.IsNew.keepsPast {window newer : Nat} (alert last : Alert)
    (same : alert.KeepsPast newer last) (new : alert.IsNew window newer) :
    last.IsNew window newer :=
  SameBut.trans new same

namespace RunState

/-- One state comes from another, and on all bars of the window but the one that some bars are
newer than nothing has changed. -/
structure KeepsPast (window newer : Nat) (before after : RunState) : Prop where
  bars : after.memory.bars = before.memory.bars
  slots : ∀ name slot, before.memory.slots.get? name = some slot →
    ∃ next, after.memory.slots.get? name = some next ∧ slot.KeepsPast newer next
  operands : ∀ site operand, SameBut newer
    (overWindow Numeral.nan newer ((before.memory.site site).operand operand))
    (overWindow Numeral.nan newer ((after.memory.site site).operand operand))
  results : ∀ site, SameBut newer (overWindow Numeral.nan newer (before.memory.site site).result)
    (overWindow Numeral.nan newer (after.memory.site site).result)
  plots : Table.Grows (Plot.KeepsPast newer) (fun _ => False) before.recorder.plots
    after.recorder.plots
  alerts : Table.Grows (Alert.KeepsPast newer) (Alert.IsNew window newer) before.recorder.alerts
    after.recorder.alerts

namespace KeepsPast

variable {window newer : Nat} {before middle after : RunState}

theorem refl (window newer : Nat) (state : RunState) : state.KeepsPast window newer state where
  bars := rfl
  slots _ slot found := ⟨slot, found, .refl newer slot⟩
  operands _ _ := .refl _ _
  results _ := .refl _ _
  plots := .refl (Plot.KeepsPast.refl newer) _
  alerts := .refl (Alert.KeepsPast.refl newer) _

theorem trans (first : before.KeepsPast window newer middle)
    (second : middle.KeepsPast window newer after) : before.KeepsPast window newer after where
  bars := second.bars.trans first.bars
  slots := by
    intro name slot found
    obtain ⟨next, known, kept⟩ := first.slots name slot found
    obtain ⟨last, found, behind⟩ := second.slots name next known
    exact ⟨last, found, kept.trans behind⟩
  operands site operand := (first.operands site operand).trans (second.operands site operand)
  results site := (first.results site).trans (second.results site)
  plots := first.plots.trans Plot.KeepsPast.trans (fun _ _ _ => id) second.plots
  alerts := first.alerts.trans Alert.KeepsPast.trans Alert.IsNew.keepsPast second.alerts

/-- What a call draws: a plot and an alert change on the current bar. -/
theorem draw {overrides : Table String Float} {bar : Nat} {state : RunState} {recorder : Recorder}
    (count : newer + state.memory.bars.length = window)
    (drawn : Recorder.Step overrides bar state.memory.bars.length state.recorder recorder) :
    state.KeepsPast window newer { state with recorder := recorder } := by
  have unchanged := refl window newer state
  cases drawn with
  | plot site value title color width =>
    have updated : Table.Grows (Plot.KeepsPast newer) (fun _ => False) state.recorder.plots
        (state.recorder.plots.modify site (Recorder.updatePlot · value title color width)) :=
      .modify (Plot.KeepsPast.refl newer) _ site fun plot => sameBut_setNow newer plot.values value
    exact { unchanged with plots := updated }
  | alert site title message triggered =>
    have new : Alert.IsNew window newer
        ⟨title, message, List.replicate state.memory.bars.length false⟩ := by
      rw [Alert.IsNew, overWindow, List.replicate_append_replicate, count]
      exact .refl _ _
    have declared : Table.Grows (Alert.KeepsPast newer) (Alert.IsNew window newer)
        state.recorder.alerts _ := .setNew (Alert.KeepsPast.refl newer) _ site new
    have flagged : ∀ alert : Alert, alert.KeepsPast newer (Recorder.setTriggered alert triggered) :=
      fun alert => sameBut_of_drop (Recorder.length_setTriggered alert triggered)
        (congrArg Alert.triggered (Recorder.older_setTriggered alert triggered 0))
    exact { unchanged with
      alerts := declared.trans Alert.KeepsPast.trans Alert.IsNew.keepsPast
        (.modify (Alert.KeepsPast.refl newer) _ site flagged) }
  | _ => exact { unchanged with }

theorem step {overrides : Table String Float} (count : newer + before.memory.bars.length = window)
    (step : StatementStep overrides before after) : before.KeepsPast window newer after := by
  have unchanged := refl window newer before
  cases step with
  | store name value memory stored =>
    obtain ⟨slot, assigns, rfl⟩ := Memory.of_store_ok stored
    refine { unchanged with slots := fun other earlier found => ?_ }
    by_cases same : name = other
    · subst same
      rw [found, Option.getD_some] at assigns
      exact ⟨slot, Table.get?_set_self _ _ _, .of_assign assigns⟩
    · exact ⟨earlier, (Table.get?_set_of_ne _ _ _ _ same).trans found, .refl _ _⟩
  | expression _ step =>
    cases step with
    | draw recorder drawn => exact draw count drawn
    | operand site operand value =>
      refine { unchanged with
        operands := fun other which => ?_
        results := fun other => ?_ }
      · rw [Memory.site_setOperand]
        split
        · rw [SiteMemory.operand_setOperand]
          split
          · exact sameBut_setNow _ _ _
          · exact .refl _ _
        · exact .refl _ _
      · rw [Memory.result_setOperand]
        exact .refl _ _
    | result site value =>
      refine { unchanged with
        operands := fun other which => ?_
        results := fun other => ?_ }
      · rw [Memory.operand_setResult]
        exact .refl _ _
      · rw [Memory.site_setResult]
        split
        · exact sameBut_setNow _ _ _
        · exact .refl _ _

/-- What every step keeps is kept by an evaluation, and when it fails too. -/
theorem of_moves {overrides : Table String Float} {α : Type} {evaluation : Eval α}
    (moves : Eval.Moves (StatementStep overrides) evaluation) {state : RunState}
    (count : newer + state.memory.bars.length = window) :
    state.KeepsPast window newer (Eval.outcome evaluation state).2 := by
  refine moves.keeps (state.KeepsPast window newer) ?_ rfl (.refl _ _ _)
  intro _ _ step kept
  exact kept.trans (KeepsPast.step (kept.bars.symm ▸ count) step)

end KeepsPast

end RunState

theorem Table.keys_set {κ ν : Type} [DecidableEq κ] {table : Table κ ν} {key : κ} (value : ν)
    (member : key ∈ table.map Prod.fst) :
    (table.set key value).map Prod.fst = table.map Prod.fst := by
  unfold Table.set
  cases found : table.get? key with
  | none => exact absurd member (Table.get?_eq_none_iff.mp found)
  | some current => exact Table.map_fst_modify table key _

namespace RunState

/-- The names of all variables, with a value or without. -/
def names (state : RunState) : List String :=
  state.memory.slots.map Prod.fst

/-- Where all targets are variables already, no others come up. -/
def KeepsNames (targets : List String) (before after : RunState) : Prop :=
  (∀ name ∈ targets, PriceField.ofName? name = none → name ∈ before.names) →
    after.names = before.names

theorem KeepsNames.of_slots {targets : List String} {before after : RunState}
    (same : after.memory.slots = before.memory.slots) : before.KeepsNames targets after :=
  fun _ => congrArg (List.map Prod.fst) same

theorem KeepsNames.of_store {targets : List String} {name : String} (target : name ∈ targets)
    {state : RunState} {value : Value} {memory : Memory}
    (stored : state.memory.store name value = .ok memory) :
    state.KeepsNames targets { state with memory := memory } := by
  intro known
  have member := known name target (Memory.notField_of_store stored)
  obtain ⟨slot, _, rfl⟩ := Memory.of_store_ok stored
  exact Table.keys_set slot member

end RunState

section Names

variable {targets : List String} (overrides : Table String Float)

theorem Eval.store_keepsNames {name : String} (target : name ∈ targets) (value : Value) :
    Eval.Moves (RunState.KeepsNames targets) (Eval.store name value) := by
  intro state
  rw [Eval.outcome_store]
  cases stored : state.memory.store name value with
  | error error => exact .refl
  | ok memory => exact .single (.of_store target stored)

theorem Expr.evaluate_keepsNames (context : Context) (expr : Expr) :
    Eval.Moves (RunState.KeepsNames targets) (expr.evaluate context) :=
  (expr.evaluate_moves context).mono fun _ _ step => .of_slots step.slots

theorem Statement.execute_keepsNames (statement : Statement)
    (assigns : ∀ name ∈ statement.assigned, name ∈ targets) :
    Eval.Moves (RunState.KeepsNames targets) (statement.execute overrides) := by
  induction statement with
  | assign name value _ =>
    refine Eval.moves_bind _ _ (value.evaluate_keepsNames _) fun assigned => ?_
    exact Eval.store_keepsNames (assigns name List.mem_cons_self) assigned
  | expression value _ =>
    exact Eval.moves_bind _ _ (value.evaluate_keepsNames _) fun _ => Eval.moves_pure _
  | ifThen condition _ _ thenKeeps =>
    refine Eval.moves_bind _ _ (condition.evaluate_keepsNames _) fun value => ?_
    refine Eval.moves_bind _ _ (Eval.moves_lift _) fun holds => ?_
    split
    · exact thenKeeps assigns
    · exact Eval.moves_pure _
  | ifThenElse condition _ _ _ thenKeeps elseKeeps =>
    obtain ⟨thenAssigns, elseAssigns⟩ := List.forall_mem_append.mp assigns
    refine Eval.moves_bind _ _ (condition.evaluate_keepsNames _) fun value => ?_
    refine Eval.moves_bind _ _ (Eval.moves_lift _) fun holds => ?_
    split
    · exact thenKeeps thenAssigns
    · exact elseKeeps elseAssigns

theorem Statement.execute_names (statement : Statement) {state : RunState}
    (assigns : ∀ name ∈ statement.assigned, name ∈ targets)
    (known : ∀ name ∈ targets, PriceField.ofName? name = none → name ∈ state.names) :
    (Eval.outcome (statement.execute overrides) state).2.names = state.names := by
  refine (statement.execute_keepsNames overrides assigns).keeps (·.names = state.names) ?_ rfl rfl
  intro before after step same
  exact (step (same ▸ known)).trans same

end Names

theorem Statement.mem_nested (statement : Statement) : statement ∈ statement.nested := by
  cases statement <;> exact List.mem_cons_self

theorem Statement.assigned_of_nested {statement inner : Statement}
    (member : inner ∈ statement.nested) :
    ∀ name ∈ inner.assigned, name ∈ statement.assigned := by
  induction statement with
  | assign | expression =>
    cases List.mem_singleton.mp member
    exact fun _ => id
  | ifThen _ _ _ thenAssigns =>
    rcases List.mem_cons.mp member with rfl | within
    · exact fun _ => id
    · exact thenAssigns within
  | ifThenElse _ _ _ _ thenAssigns elseAssigns =>
    rcases List.mem_cons.mp member with rfl | within
    · exact fun _ => id
    · rcases List.mem_append.mp within with within | within
      · exact fun name known => List.mem_append_left _ (thenAssigns within name known)
      · exact fun name known => List.mem_append_right _ (elseAssigns within name known)

/-! ## Statements within a run -/

/-- Everything that has a value on each bar fills the window, in which some bars are newer. -/
structure RunState.FillsWindow (window newer : Nat) (state : RunState) : Prop where
  slots : ∀ name values, state.memory.slots.get? name = some (.numeric values) →
    (overWindow Numeral.nan newer values).length = window
  operands : ∀ site operand, (state.memory.site site).operand operand ≠ [] →
    (overWindow Numeral.nan newer ((state.memory.site site).operand operand)).length = window
  results : ∀ site, (state.memory.site site).result ≠ [] →
    (overWindow Numeral.nan newer (state.memory.site site).result).length = window
  plots : ∀ entry ∈ state.recorder.plots,
    (overWindow Numeral.nan newer entry.2.values).length = window
  alerts : ∀ entry ∈ state.recorder.alerts,
    (overWindow false newer entry.2.triggered).length = window

theorem Memory.site_of_outside {memory : Memory} {site : Nat} (outside : memory.sites.size ≤ site) :
    memory.site site = .empty := by
  rw [Memory.site, Array.getD_eq_getD_getElem?, Array.getElem?_eq_none outside]
  rfl

theorem Script.Holds.fillsWindow {script : Script} {bars newer window : Nat} {state : RunState}
    (holds : script.Holds bars state) (count : newer + bars = window) :
    state.FillsWindow window newer := by
  have memory := holds.filled
  have recorder := holds.aligned.recorder
  have length {α : Type} {unset : α} {values : List α}
      (each : values.length = state.memory.bars.length) :
      (overWindow unset newer values).length = window := by
    rw [length_overWindow, each, holds.bars, count]
  refine ⟨fun name values known => length (memory.slots name values known), ?_, ?_,
    fun entry member => length (recorder.plots entry member),
    fun entry member => length (recorder.alerts entry member)⟩
  · intro site operand nonempty
    refine length (memory.operands site operand (Nat.lt_of_not_le fun outside => nonempty ?_))
    rw [Memory.site_of_outside outside]
    cases operand <;> rfl
  · intro site nonempty
    refine length (memory.results site (Nat.lt_of_not_le fun outside => nonempty ?_))
    rw [Memory.site_of_outside outside]
    rfl

namespace Script

variable {program : Program} {script : Script} {overrides : Table String Float}
  {window : List Candle} {bar : Nat} {state : RunState} {statement : Statement}

theorem Holds.names {bars : Nat} (holds : script.Holds bars state) :
    ∀ name ∈ script.assignedNames, PriceField.ofName? name = none → name ∈ state.names := by
  intro name assigned notField
  obtain ⟨slot, _, found, _⟩ := holds.slots name assigned notField
  by_contra absent
  rw [Table.get?_eq_none_iff.mpr absent] at found
  cases found

/-- A statement that is executed on a bar, whether it fails or not, changes nothing on any other
bar of the window: not the numbers of a variable that stays one, not what a site remembers, not a
plot and not the flags of an alert. It changes no price field and brings up no variable, and
everything with a value on each bar still has as many as the window. -/
theorem execute_keepsPast (prepared : program.prepare = .ok script)
    (reached : script.Reaches overrides (window.drop bar) state)
    (member : statement ∈ program.statements.flatMap Statement.nested) :
    state.KeepsPast window.length bar
        (Eval.outcome (statement.execute overrides) state).2 ∧
      (∀ field, (Eval.outcome (statement.execute overrides) state).2.memory.prices field =
        state.memory.prices field) ∧
      (Eval.outcome (statement.execute overrides) state).2.names = state.names ∧
      state.FillsWindow window.length bar ∧
      (Eval.outcome (statement.execute overrides) state).2.FillsWindow window.length bar := by
  have moves := statement.execute_moves overrides
  have before := reached.holds
  have after := (reached.moves moves).holds
  have keeps : state.KeepsPast window.length bar
      (Eval.outcome (statement.execute overrides) state).2 :=
    .of_moves moves (by rw [before.bars, reached.count])
  refine ⟨keeps, fun field => congrArg (List.map field.value) keeps.bars, ?_,
    before.fillsWindow reached.count, after.fillsWindow reached.count⟩
  refine statement.execute_names overrides (fun name assigned => ?_) before.names
  obtain ⟨outer, among, within⟩ := List.mem_flatMap.mp member
  rw [Program.eq_of_prepare prepared]
  exact Program.mem_assignedNames.mpr
    ⟨outer, among, Statement.assigned_of_nested within name assigned⟩

/-- Assigns, plots and alerts on each bar, and fails on a bar that closes above one. -/
def failingLaterSource : String :=
  "x = close + 1\nplot(sma(x * 2, 2))\nalert(x > 2)\nif close > 1\n  x = high[0 - close]"

/-- The run over the oldest bar succeeds, and one of the statements fails on the next one. -/
def failsOnSecond (script : Script) (oldest candle : Candle) (statement : Statement) : Bool :=
  match Eval.outcome (script.runWindow [] [oldest]) script.initial with
  | (.ok _, state) =>
    (errorOf? (Eval.outcome (statement.execute []) (state.openBar candle)).1).isSome
  | (.error _, _) => false

theorem execute_keepsPast_failing :
    ∃ program script candle oldest heading closed statement error,
      parse failingLaterSource = .ok program ∧ program.prepare = .ok script ∧
      risingCandles.drop 1 = [candle, oldest] ∧
      Eval.outcome (script.runWindow [] [oldest]) script.initial = (.ok heading, closed) ∧
      statement ∈ program.statements.flatMap Statement.nested ∧
      (Eval.outcome (statement.execute []) (closed.openBar candle)).1 = .error error ∧
      (closed.openBar candle).KeepsPast 3 1
        (Eval.outcome (statement.execute []) (closed.openBar candle)).2 := by
  have runs : (parse failingLaterSource).toOption.any fun program =>
      program.prepare.toOption.any fun script => program.statements.any
        (script.failsOnSecond ⟨1, 1.0, 1.0, 1.0, 1.0, 1.0⟩ ⟨2, 2.0, 2.0, 2.0, 2.0, 1.0⟩) := by
    decide +kernel
  obtain ⟨program, parsed, runs⟩ := of_toOption_any runs
  obtain ⟨script, prepared, runs⟩ := of_toOption_any runs
  obtain ⟨statement, among, fails⟩ := List.any_eq_true.mp runs
  unfold failsOnSecond at fails
  split at fails
  case h_2 => cases fails
  case h_1 heading closed ran =>
    obtain ⟨error, failed⟩ := Option.isSome_iff_exists.mp fails
    have member : statement ∈ program.statements.flatMap Statement.nested :=
      List.mem_flatMap.mpr ⟨statement, among, statement.mem_nested⟩
    have reached : script.Reaches [] (risingCandles.drop 1) (closed.openBar _) :=
      (Reaches.runWindow ran).next _
    exact ⟨program, script, _, _, heading, closed, statement, error, parsed, prepared, rfl, ran,
      member, of_errorOf? failed, (execute_keepsPast prepared reached member).1⟩

end Script

end ChartScript
