import ChartScript.Proofs.LastPlots
import ChartScript.Proofs.SparedState
import ChartScript.Proofs.WholeNumbers
import Mathlib.Logic.Equiv.Basic

/-!
# The history of a history

A reference to the history of a history looks back twice: the inner one reads the series of the
name, and the outer one what the inner one was on the bars before, which its site has kept. On every
bar the site keeps the series as many bars before as the inner reference says (`Series.Delayed`),
so both together are one reference to as many bars before as both say.
-/

set_option autoImplicit false

namespace ChartScript

open Eval

namespace Series

variable {past buffer values : Series Float}

theorem before_of_length_le {series : Series Float} {bars : Nat} (short : series.length ≤ bars) :
    before series bars = Numeral.nan := by
  unfold before
  rw [List.getElem?_eq_none short]
  rfl

/-- The second series is the first one some bars before. -/
def Delayed (bars : Nat) (past buffer : Series Float) : Prop :=
  ∀ offset, before buffer offset = before past (bars + offset)

theorem Delayed.step {bars : Nat} (delayed : Delayed bars past buffer) (newest : Float) :
    Delayed bars (newest :: past) (before (newest :: past) bars :: buffer)
  | 0 => rfl
  | offset + 1 => delayed offset

/-- The values are missing on every bar that has no bar so many bars before. -/
def MissingBefore (bars : Nat) (past values : Series Float) : Prop :=
  ∀ offset, past.length ≤ offset + bars → (before values offset).isNaN = true

theorem MissingBefore.step {bars : Nat} (missing : MissingBefore bars past values)
    (newest : Float) :
    MissingBefore bars (newest :: past) (before (newest :: past) bars :: values)
  | 0, outside => by
    rw [Nat.zero_add] at outside
    rw [before_zero]
    show (before (newest :: past) bars).isNaN = true
    rw [before_of_length_le outside]
    decide +kernel
  | offset + 1, outside => by
    rw [List.length_cons, Nat.add_right_comm] at outside
    exact missing offset (Nat.le_of_succ_le_succ outside)

/-- What is kept of a series for the outer reference, and what has been plotted of it. -/
structure LookedAt (first bars : Nat) (past buffer values : Series Float) : Prop where
  delayed : Delayed first past buffer
  missing : MissingBefore bars past values
  length : values.length = past.length

theorem LookedAt.nil (first bars : Nat) : LookedAt first bars [] [] [] where
  delayed offset := by rw [before_of_length_le (Nat.zero_le _), before_of_length_le (Nat.zero_le _)]
  missing offset _ := by
    rw [before_of_length_le (Nat.zero_le _)]
    decide +kernel
  length := rfl

theorem LookedAt.step {first bars : Nat} (looked : LookedAt first bars past buffer values)
    (newest : Float) :
    LookedAt first bars (newest :: past) (before (newest :: past) first :: buffer)
      (before (newest :: past) bars :: values) where
  delayed := looked.delayed.step newest
  missing := looked.missing.step newest
  length := congrArg Nat.succ looked.length

end Series

/-- On a bar that is open the series of a name has one value more than it had before. -/
structure Memory.Past (path : String) (past : Series Float) (memory : Memory) : Prop where
  known : PriceField.ofName? path = none → memory.slots.get? path ≠ none
  older : ∀ series, memory.numeric? path = some series → ∃ newest, series = newest :: past

theorem Memory.past_openBar {memory : Memory} {path : String} {past : Series Float}
    (named : memory.numeric? path = some past) (candle : Candle) :
    (memory.openBar candle).Past path past := by
  have opened : (memory.openBar candle).slots.get? path =
      (memory.slots.get? path).map Memory.openSlot := Table.get?_map _ _ _
  unfold Memory.numeric? at named
  cases found : memory.slots.get? path with
  | some slot =>
    rw [found] at named opened
    cases slot with
    | scalar value => cases named
    | numeric values =>
      cases named
      refine ⟨fun _ => by rw [opened]; exact nofun, fun series isSeries => ?_⟩
      rw [Memory.numeric?, opened] at isSeries
      exact ⟨_, (Option.some.inj isSeries).symm⟩
  | none =>
    rw [found] at named opened
    obtain ⟨field, isField, rfl⟩ := Option.map_eq_some_iff.mp named
    refine ⟨fun notField => ?_, fun series isSeries => ?_⟩
    · rw [isField] at notField
      cases notField
    · rw [Memory.numeric?, opened, isField] at isSeries
      exact ⟨_, (Option.some.inj isSeries).symm⟩

theorem Memory.Past.step {overrides : Table String Float} {before after : RunState} {path : String}
    {past : Series Float} (step : RunState.StatementStep overrides before after)
    (inPast : before.memory.Past path past) : after.memory.Past path past := by
  cases step with
  | expression _ step =>
    have same : after.memory.numeric? path = before.memory.numeric? path := by
      unfold Memory.numeric? Memory.prices
      rw [step.slots, step.bars]
    exact ⟨step.slots ▸ inPast.known, same ▸ inPast.older⟩
  | store name value memory stored =>
    have notField := Memory.notField_of_store stored
    obtain ⟨slot, assigns, rfl⟩ := Memory.of_store_ok stored
    by_cases same : name = path
    · subst same
      refine ⟨fun _ => by rw [Table.get?_set_self]; exact nofun, fun series isSeries => ?_⟩
      rw [Memory.numeric?, Table.get?_set_self] at isSeries
      cases slot with
      | scalar _ => cases isSeries
      | numeric values =>
        cases isSeries
        obtain ⟨earlier, number, isEarlier, rfl⟩ := Memory.of_assign_numeric assigns
        cases found : before.memory.slots.get? name with
        | none => exact absurd found (inPast.known notField)
        | some known =>
          rw [found, Option.getD_some] at isEarlier
          have named : before.memory.numeric? name = some earlier := by
            rw [Memory.numeric?, found, isEarlier]
          obtain ⟨newest, rfl⟩ := inPast.older earlier named
          exact ⟨number, rfl⟩
    · have kept := Table.get?_set_of_ne before.memory.slots path name slot same
      refine ⟨fun isVariable => kept ▸ inPast.known isVariable, fun series isSeries => ?_⟩
      have unchanged : before.memory.numeric? path = some series := by
        simp only [Memory.numeric?, kept] at isSeries
        exact isSeries
      exact inPast.older series unchanged

namespace Lookback

variable {look : Expr} {path : String} {bars : Nat} {state after : RunState}

theorem readsOne_history (offset : Float) : (history offset).ReadsOne :=
  trivial

theorem outcome_of_name (small : bars < 2 ^ 53) {series : Series Float}
    (named : state.memory.numeric? path = some series) (span : Span) (site : Nat)
    (evaluated : Eval Value) :
    let lookback := history (Numeral.ofIndex bars)
    outcome (lookback.bars (.name path span) >>= fun count =>
        Eval.operand site .first (.name path span) evaluated >>= fun series =>
          lookback.answer site count series) state =
      (.ok (.number (Series.before series bars)), state) := by
  have visible : state.memory.isScalar path = false := by
    unfold Memory.numeric? at named
    unfold Memory.isScalar
    split at named
    · simp_all
    · cases named
    · simp_all
  have checked : state.memory.checkHistory (.name path span) = .ok () := by
    rw [Memory.checkHistory, visible]
    rfl
  have isSeries : state.memory.namedSeries? (.name path span) = some series := named
  have isOffset : (Value.number (Numeral.ofIndex bars)).asNumber "[]" =
      .ok (Numeral.ofIndex bars) := rfl
  simp only [Lookback.bars, Eval.historyBars, Eval.operand, outcome_bind, outcome_lift,
    outcome_memory, isOffset, historyOffset_ofIndex small, checked, isSeries, outcome_pure, answer]

theorem outcome_history_name
    (same : look.shape = (history (Numeral.ofIndex bars)).on (.name path .nowhere))
    (small : bars < 2 ^ 53) (context : Context) {series : Series Float}
    (named : state.memory.numeric? path = some series) :
    outcome (look.evaluate context) state = (.ok (.number (Series.before series bars)), state) := by
  obtain ⟨site, expr, sameExpr, _, evaluates⟩ := evaluate_eq (readsOne_history _) same
  obtain ⟨span, rfl⟩ := Expr.eq_name_of_shape sameExpr
  rw [evaluates]
  exact outcome_of_name small named span site _

theorem exists_series_of_history_name
    (same : look.shape = (history (Numeral.ofIndex bars)).on (.name path .nowhere))
    {context : Context} {value : Value}
    (known : PriceField.ofName? path = none → state.memory.slots.get? path ≠ none)
    (ran : outcome (look.evaluate context) state = (.ok value, after)) :
    ∃ series, state.memory.numeric? path = some series := by
  obtain ⟨site, expr, sameExpr, _, evaluates⟩ := evaluate_eq (readsOne_history _) same
  obtain ⟨span, rfl⟩ := Expr.eq_name_of_shape sameExpr
  rw [evaluates] at ran
  obtain ⟨count, between, counted, ran⟩ := of_outcome_bind_ok ran
  obtain ⟨number, _, read, counted⟩ := of_outcome_bind_ok counted
  cases read
  obtain ⟨_, _, isCount, counted⟩ := of_outcome_bind_ok counted
  rw [outcome_lift] at isCount
  obtain ⟨_, rfl⟩ := Prod.mk.inj isCount
  obtain ⟨_, _, got, counted⟩ := of_outcome_bind_ok counted
  cases got
  obtain ⟨_, _, checked, counted⟩ := of_outcome_bind_ok counted
  rw [outcome_lift] at checked
  have checked := (Prod.mk.inj checked).1
  unfold Memory.numeric?
  cases found : state.memory.slots.get? path with
  | some slot =>
    cases slot with
    | numeric values => exact ⟨values, rfl⟩
    | scalar value =>
      rw [Memory.checkHistory, Memory.isScalar, found] at checked
      cases checked
  | none =>
    cases field : PriceField.ofName? path with
    | none => exact absurd found (known field)
    | some isField => exact ⟨_, rfl⟩

/-- An operand that is not a name is evaluated before anything else changes. -/
theorem of_plot_ok {offset : Float} {plotSite outer : Nat} {drawn operand : Expr}
    (draws : (history offset).Draws drawn operand plotSite outer)
    (unnamed : ∀ path span, operand ≠ .name path span) {context : Context} {result : Value}
    (ran : outcome (drawn.evaluate context) state = (.ok result, after)) :
    ∃ value reached, outcome (operand.evaluate context) state = (.ok value, reached) := by
  have noSeries : state.memory.namedSeries? operand = none := by
    cases operand with
    | name path span => exact absurd rfl (unnamed path span)
    | _ => rfl
  rw [draws.evaluate] at ran
  obtain ⟨_, _, looks, _⟩ := of_outcome_bind_ok ran
  obtain ⟨_, _, counted, looks⟩ := of_outcome_bind_ok looks
  obtain ⟨_, _, taken, _⟩ := of_outcome_bind_ok looks
  rw [(of_bars_ok counted).1] at taken
  unfold Eval.operand at taken
  rw [outcome_bind, outcome_memory] at taken
  simp only [noSeries] at taken
  obtain ⟨value, reached, evaluated, _⟩ := of_outcome_bind_ok taken
  exact ⟨value, reached, evaluated⟩

theorem outcome_plot_operand {second plotSite outer : Nat} {drawn operand : Expr}
    (draws : (history (Numeral.ofIndex second)).Draws drawn operand plotSite outer)
    (small : second < 2 ^ 53) (unnamed : ∀ path span, operand ≠ .name path span)
    (context : Context) {number : Float}
    (evaluated : outcome (operand.evaluate context) state = (.ok (.number number), state)) :
    outcome (drawn.evaluate context) state =
      (.ok .na,
        { memory := state.memory.setOperand outer .first number
          recorder := state.recorder.setPlotted plotSite (Series.before
            ((state.memory.setOperand outer .first number).site outer).first second) }) := by
  have checked : state.memory.checkHistory operand = .ok () := by
    cases operand with
    | name path span => exact absurd rfl (unnamed path span)
    | _ => rfl
  have noSeries : state.memory.namedSeries? operand = none := by
    cases operand with
    | name path span => exact absurd rfl (unnamed path span)
    | _ => rfl
  have isOffset : (Value.number (Numeral.ofIndex second)).asNumber "[]" =
      .ok (Numeral.ofIndex second) := rfl
  have isNumber : (Value.number number).asNumber "series" = .ok number := rfl
  rw [draws.evaluate]
  simp only [Lookback.bars, Eval.historyBars, Eval.operand, outcome_bind, outcome_lift,
    outcome_memory, isOffset, historyOffset_ofIndex small, checked, noSeries, evaluated, isNumber,
    outcome_pure, answer]
  rfl

theorem outcome_plot_name {plotSite site : Nat} {shown : Expr} {span : Span}
    (draws : (history (Numeral.ofIndex bars)).Draws shown (.name path span) plotSite site)
    (small : bars < 2 ^ 53) (context : Context) {series : Series Float}
    (named : state.memory.numeric? path = some series) :
    outcome (shown.evaluate context) state =
      (.ok .na, { state with
        recorder := state.recorder.setPlotted plotSite (Series.before series bars) }) := by
  rw [draws.evaluate, outcome_bind, outcome_of_name small named]
  rfl

end Lookback

/-! ## A run that looks back twice -/

section Run

variable {path : String} {first bars outer plotSite : Nat} {past buffer values : Series Float}

/-- Between two bars of a run that plots the history of a history of a name: what the name has as
its series, what the outer reference has kept and what has been plotted. -/
structure RunState.LooksBack (path : String) (first bars outer plotSite : Nat)
    (past buffer values : Series Float) (state : RunState) : Prop where
  present : outer < state.memory.sites.size
  named : state.memory.numeric? path = some past
  kept : (state.memory.site outer).first = buffer
  plotted : state.recorder.plotted? plotSite = some values
  count : state.memory.bars.length = past.length
  looked : Series.LookedAt first bars past buffer values

/-- The same on a bar that is open, on which the reference has not been evaluated yet. -/
structure RunState.LooksBackOpen (path : String) (first bars outer plotSite : Nat)
    (past buffer values : Series Float) (state : RunState) : Prop where
  present : outer < state.memory.sites.size
  inPast : state.memory.Past path past
  kept : (state.memory.site outer).first = Series.openBar buffer
  plotted : state.recorder.plotted? plotSite = some (Series.openBar values)
  count : state.memory.bars.length = past.length + 1
  looked : Series.LookedAt first bars past buffer values

variable {state after : RunState} {sites : Nat → Prop} {names : String → Prop}

theorem RunState.LooksBack.openBar
    (looks : state.LooksBack path first bars outer plotSite past buffer values) (candle : Candle) :
    (state.openBar candle).LooksBackOpen path first bars outer plotSite past buffer values where
  present := by
    simp only [RunState.openBar, Memory.size_openBar]
    exact looks.present
  inPast := Memory.past_openBar looks.named candle
  kept := by
    simp only [RunState.openBar, Memory.site_openBar, if_pos looks.present]
    exact congrArg Series.openBar looks.kept
  plotted := (state.recorder.plotted?_openBar plotSite).trans (by rw [looks.plotted]; rfl)
  count := congrArg Nat.succ looks.count
  looked := looks.looked

theorem RunState.LooksBack.spared
    (looks : state.LooksBack path first bars outer plotSite past buffer values)
    (spares : state.Spares sites (fun _ => False) after) (foreign : ¬sites outer)
    (plots : after.recorder.plotted? plotSite = state.recorder.plotted? plotSite) :
    after.LooksBack path first bars outer plotSite past buffer values where
  present := spares.size ▸ looks.present
  named := (spares.numeric? id).trans looks.named
  kept := (congrArg SiteMemory.first (spares.others outer foreign)).trans looks.kept
  plotted := plots.trans looks.plotted
  count := (congrArg List.length spares.bars).trans looks.count
  looked := looks.looked

/-- Other statements can assign to the name on the bar, but its past stays. -/
theorem RunState.LooksBackOpen.spared
    (looks : state.LooksBackOpen path first bars outer plotSite past buffer values)
    (spares : state.Spares sites names after) (foreign : ¬sites outer)
    (inPast : after.memory.Past path past)
    (plots : after.recorder.plotted? plotSite = state.recorder.plotted? plotSite) :
    after.LooksBackOpen path first bars outer plotSite past buffer values where
  present := spares.size ▸ looks.present
  inPast := inPast
  kept := (congrArg SiteMemory.first (spares.others outer foreign)).trans looks.kept
  plotted := plots.trans looks.plotted
  count := (congrArg List.length spares.bars).trans looks.count
  looked := looks.looked

/-- The plot sets on the site of the outer reference what the inner one reads, and plots what the
site has kept. That is the value of the name as many bars before as both references say. -/
theorem RunState.LooksBackOpen.plot {second : Nat}
    (looks : state.LooksBackOpen path first (first + second) outer plotSite past buffer values)
    {drawn operand : Expr}
    (draws : (Lookback.history (Numeral.ofIndex second)).Draws drawn operand plotSite outer)
    (reads : operand.shape =
      (Lookback.history (Numeral.ofIndex first)).on (.name path .nowhere))
    (small : first + second < 2 ^ 53) {context : Context} {result : Value}
    (ran : outcome (drawn.evaluate context) state = (.ok result, after)) :
    ∃ newest, state.memory.numeric? path = some (newest :: past) ∧ result = .na ∧
      after =
        { memory := state.memory.setOperand outer .first (Series.before (newest :: past) first)
          recorder := state.recorder.setPlotted plotSite
            (Series.before (newest :: past) (first + second)) } ∧
      after.LooksBack path first (first + second) outer plotSite (newest :: past)
        (Series.before (newest :: past) first :: buffer)
        (Series.before (newest :: past) (first + second) :: values) := by
  have unnamed : ∀ path span, operand ≠ .name path span := by
    rintro path span rfl
    cases reads
  obtain ⟨_, _, operandRan⟩ := Lookback.of_plot_ok draws unnamed ran
  obtain ⟨series, named⟩ :=
    Lookback.exists_series_of_history_name reads looks.inPast.known operandRan
  obtain ⟨newest, rfl⟩ := looks.inPast.older series named
  have looked := looks.looked.step newest
  have evaluated := Lookback.outcome_history_name reads (Nat.lt_of_le_of_lt (Nat.le_add_right _ _)
    small) context named
  have plotted := Lookback.outcome_plot_operand draws
    (Nat.lt_of_le_of_lt (Nat.le_add_left _ _) small) unnamed context evaluated
  have kept : ((state.memory.setOperand outer .first
      (Series.before (newest :: past) first)).site outer).first =
        Series.before (newest :: past) first :: buffer := by
    rw [Memory.site_setOperand, if_pos rfl]
    show Series.setNow (state.memory.site outer).first _ = _
    rw [looks.kept, Series.setNow_openBar]
  rw [kept, looked.delayed second] at plotted
  rw [plotted] at ran
  cases ran
  refine ⟨newest, named, rfl, rfl, ?_⟩
  exact
    { present := by
        simp only [Memory.size_setOperand]
        exact looks.present
      named := named
      kept := kept
      plotted := by
        rw [Recorder.plotted?_setPlotted, if_pos rfl, looks.plotted]
        rfl
      count := looks.count
      looked := looked }

end Run

section Runs

variable {number : Nat → Nat} {sites : Nat → Prop} {path : String}
  {first bars outer plotSite : Nat} {left right : RunState}

/-- Between two bars: the first run looks back twice on a name, and the second one shares with it
what comes before on each bar. -/
def Composes (number : Nat → Nat) (sites : Nat → Prop) (path : String)
    (first bars outer plotSite : Nat) (left right : RunState) : Prop :=
  left.Shares number sites right ∧
    ∃ past buffer values, left.LooksBack path first bars outer plotSite past buffer values

def ComposesOpen (number : Nat → Nat) (sites : Nat → Prop) (path : String)
    (first bars outer plotSite : Nat) (left right : RunState) : Prop :=
  left.Shares number sites right ∧
    ∃ past buffer values, left.LooksBackOpen path first bars outer plotSite past buffer values

theorem Composes.openBar
    (composes : Composes number sites path first bars outer plotSite left right)
    (candle : Candle) : ComposesOpen number sites path first bars outer plotSite
      (left.openBar candle) (right.openBar candle) := by
  obtain ⟨shares, past, buffer, values, looks⟩ := composes
  exact ⟨shares.openBar candle, past, buffer, values, looks.openBar candle⟩

theorem RunState.Shares.plotted (shares : left.Shares number sites right)
    (injective : Function.Injective number) (foreign : ¬sites outer) (kept value : Float) :
    Shares number sites
      { memory := left.memory.setOperand outer .first kept
        recorder := left.recorder.setPlotted plotSite value }
      { right with recorder := right.recorder.setPlotted (number plotSite) value } where
  agrees := by
    refine ⟨shares.agrees.bars, shares.agrees.slots, fun site isOwn => ?_⟩
    have differs : outer ≠ site := by
      rintro rfl
      exact foreign isOwn
    rw [Memory.site_setOperand, if_neg differs]
    exact shares.agrees.sites site isOwn
  sizes site isOwn := by
    simp only [Memory.size_setOperand]
    exact shares.sizes site isOwn
  recorder := by
    rw [← Recorder.setPlotted_renumber _ _ injective, ← shares.recorder]

section Statements

variable {overrides : Table String Float} {statements : List Statement} {second directSite : Nat}
  {drawn shown operand : Expr} {drawnSpan shownSpan span : Span}
  (injective : Function.Injective number) (fixed : ∀ site, sites site → number site = site)
  (own : ∀ site ∈ statements.flatMap Statement.sites, sites site) (foreign : ¬sites outer)
  (apart : plotSite ∉ (statements.flatMap Statement.calls).map Call.site)
  (draws : (Lookback.history (Numeral.ofIndex second)).Draws drawn operand plotSite outer)
  (reads : operand.shape = (Lookback.history (Numeral.ofIndex first)).on (.name path .nowhere))
  (shows : (Lookback.history (Numeral.ofIndex (first + second))).Draws shown (.name path span)
    (number plotSite) directSite)
  (small : first + second < 2 ^ 53)

include injective fixed own foreign apart draws reads shows small

/-- What comes before is executed alike, and then both runs plot what the name was as many bars
before as both references say. -/
theorem ComposesOpen.statements_mirror
    (composes : ComposesOpen number sites path first (first + second) outer plotSite left right) :
    Eval.MirrorsAt (Composes number sites path first (first + second) outer plotSite)
      (executeAll overrides (statements ++ [.expression drawn drawnSpan]))
      (executeAll overrides (statements ++ [.expression shown shownSpan])) left right := by
  obtain ⟨shares, past, buffer, values, looks⟩ := composes
  intro result final ran
  rw [executeAll_append] at ran
  obtain ⟨_, after, executed, ran⟩ := of_outcome_bind_ok ran
  obtain ⟨reached, mirrored, sharesAfter, spares⟩ :=
    executeAll_shares injective fixed own shares executed
  have inPast := (executeAll_moves overrides statements).keeps (·.memory.Past path past)
    (fun _ _ step inPast => inPast.step step) executed looks.inPast
  have plots := (executeAll_drawsOnce overrides _ _ _ _ executed).plotted? apart
  have looksAfter := looks.spared spares foreign inPast plots
  rw [executeAll_expression] at ran
  obtain ⟨_, last, evaluated, ran⟩ := of_outcome_bind_ok ran
  cases ran
  obtain ⟨newest, named, rfl, rfl, looksLast⟩ := looksAfter.plot draws reads small evaluated
  have namedToo : reached.memory.numeric? path = some (newest :: past) := by
    rw [← named]
    unfold Memory.numeric? Memory.prices
    rw [sharesAfter.agrees.slots path trivial, sharesAfter.agrees.bars]
  have shown := Lookback.outcome_plot_name shows small ⟨overrides, none⟩ namedToo
  refine ⟨_, ?_, sharesAfter.plotted injective foreign _ _, _, _, _, looksLast⟩
  rw [executeAll_append, outcome_bind, mirrored]
  show outcome (executeAll overrides [.expression _ shownSpan]) reached = _
  rw [executeAll_expression, outcome_bind, shown]
  rfl

end Statements

theorem Composes.heading_mirrors (script other : Script) (overrides : Table String Float)
    (injective : Function.Injective number) (fixed : ∀ site, sites site → number site = site)
    (same : other.program.declaration = script.program.declaration)
    (own : ∀ declaration ∈ script.program.declaration,
      ∀ site ∈ declaration.call.sites, sites site)
    (apart : plotSite ∉ (script.program.declaration.elim [] (·.call.inner)).map Call.site)
    (foreign : ¬sites outer) :
    Eval.Mirrors (Composes number sites path first bars outer plotSite)
        (script.heading overrides) (other.heading overrides) ∧
      Eval.Mirrors (ComposesOpen number sites path first bars outer plotSite)
        (script.heading overrides) (other.heading overrides) := by
  constructor
  · rintro left right ⟨shares, past, buffer, values, looks⟩ heading after ran
    obtain ⟨next, mirrored, sharesAfter, spares⟩ :=
      Script.heading_shares injective fixed same own shares ran
    have plots := (script.heading_drawsOnce overrides _ _ _ ran).plotted? apart
    exact ⟨next, mirrored, sharesAfter, past, buffer, values, looks.spared spares foreign plots⟩
  · rintro left right ⟨shares, past, buffer, values, looks⟩ heading after ran
    obtain ⟨next, mirrored, sharesAfter, spares⟩ :=
      Script.heading_shares injective fixed same own shares ran
    have plots := (script.heading_drawsOnce overrides _ _ _ ran).plotted? apart
    have inPast := (script.heading_moves overrides).keeps (·.memory.Past path past)
      (fun _ _ step inPast => inPast.step step) ran looks.inPast
    exact ⟨next, mirrored, sharesAfter, past, buffer, values,
      looks.spared spares foreign inPast plots⟩

end Runs

/-! ## Programs -/

namespace Program

theorem Continues.notMem_sites {tokens : List Token} {program start : Program}
    {last : List Statement} (continues : program.Continues start last)
    (parsed : parseTokens tokens = .ok program) {site : Nat}
    (member : site ∈ last.flatMap Statement.sites) : site ∉ start.sites := by
  have nodup := (numbered_of_parseTokens parsed).nodup
  rw [continues.sites, List.nodup_append'] at nodup
  exact fun early => nodup.2.2 early member

/-- The plot of the last statement comes behind those that a program begins with. -/
theorem Continues.plots {program start : Program} {value : Expr} {span : Span} {site : Nat}
    (continues : program.Continues start [.expression value span])
    (plots : value.calls.filterMap Call.plot? = [(site, none)]) :
    program.calls.filterMap Call.plot? =
      start.calls.filterMap Call.plot? ++ [(site, none)] := by
  have last : (Statement.expression value span).calls.filterMap Call.plot? = [(site, none)] := plots
  rw [continues.calls, List.flatMap_singleton, List.filterMap_append, last]

theorem quiet_history_name {operand : Expr} {path : String} {offset : Float}
    (reads : operand.shape = (Lookback.history offset).on (.name path .nowhere)) :
    ∀ call ∈ operand.calls, Builtin.ofName? call.function ≠ some .plot := by
  let notPlot (signature : String × Nat) : Prop := Builtin.ofName? signature.1 ≠ some .plot
  have silent : ∀ call ∈ operand.shape.calls, notPlot call.signature := by
    rw [reads]
    exact nofun
  exact Expr.forall_calls_shape.mp silent

/-- A one-to-one renumbering of the sites of one program as those of another one. Both begin alike,
and at the end one has a plot and a reference that the other one does not have as they are. -/
structure Trading (number : Nat → Nat) (start nested direct : Program) (plotSite outer : Nat) :
    Prop where
  injective : Function.Injective number
  fixed : ∀ site ∈ start.sites, number site = site
  counts : ∀ site ∈ start.sites, (site < direct.siteCount ↔ site < nested.siteCount)
  plotNew : plotSite ∉ start.sites
  outerNew : outer ∉ start.sites
  present : outer < nested.siteCount

section Composition

variable {start nested direct : Program} {drawn shown operand : Expr}
  {drawnSpan shownSpan span : Span} {path : String} {first second plotSite outer site : Nat}
  {number : Nat → Nat}
  (continues : nested.Continues start [.expression drawn drawnSpan])
  (directContinues : direct.Continues start [.expression shown shownSpan])

include continues directContinues

theorem exists_trading {tokens others : List Token} {directSite : Nat} {inner within : List Nat}
    (parsed : parseTokens tokens = .ok nested) (parsedDirect : parseTokens others = .ok direct)
    (sites : drawn.sites = plotSite :: outer :: inner)
    (directSites : shown.sites = directSite :: within) :
    ∃ number, Trading number start nested direct plotSite outer ∧ number plotSite = directSite := by
  have lastSites : [Statement.expression drawn drawnSpan].flatMap Statement.sites =
      plotSite :: outer :: inner := (List.flatMap_singleton _ _).trans sites
  have directLast : [Statement.expression shown shownSpan].flatMap Statement.sites =
      directSite :: within := (List.flatMap_singleton _ _).trans directSites
  have plotNew : plotSite ∉ start.sites :=
    continues.notMem_sites parsed (lastSites ▸ List.mem_cons_self)
  have directNew : directSite ∉ start.sites :=
    directContinues.notMem_sites parsedDirect (directLast ▸ List.mem_cons_self)
  obtain ⟨_, _, outerNew, present⟩ := continues.apart parsed lastSites
  refine ⟨Equiv.swap plotSite directSite, ?_, Equiv.swap_apply_left _ _⟩
  refine ⟨(Equiv.swap _ _).injective, fun site early => ?_, fun site early => ?_, plotNew, outerNew,
    present⟩
  · refine Equiv.swap_apply_of_ne_of_ne ?_ ?_
    · rintro rfl
      exact plotNew early
    · rintro rfl
      exact directNew early
  · have inNested : site ∈ nested.sites := by
      rw [continues.sites]
      exact List.mem_append_left _ early
    have inDirect : site ∈ direct.sites := by
      rw [directContinues.sites]
      exact List.mem_append_left _ early
    exact iff_of_true (lt_siteCount parsedDirect inDirect) (lt_siteCount parsed inNested)

theorem Trading.plots (trading : Trading number start nested direct plotSite outer)
    (records : (Lookback.history (Numeral.ofIndex second)).Draws drawn operand plotSite outer)
    (reads : operand.shape = (Lookback.history (Numeral.ofIndex first)).on (.name path .nowhere))
    (loads : (Lookback.history (Numeral.ofIndex (first + second))).Draws shown (.name path span)
      (number plotSite) site) :
    direct.calls.filterMap Call.plot? =
      (nested.calls.filterMap Call.plot?).map fun plot => (number plot.1, plot.2) := by
  have keeps : Keeps number (· ∈ start.sites) start.sites :=
    fun site early => ⟨early, trading.fixed site early⟩
  rw [continues.plots (records.plots (quiet_history_name reads)),
    directContinues.plots (loads.plots nofun), List.map_append, plots_of_keeps keeps]
  rfl

/-- All calls resolve that are left where one reference takes the place of two. -/
theorem resolves_of_composed
    (draws : drawn.shape = Lookback.plotted ((Lookback.history (Numeral.ofIndex second)).on
      ((Lookback.history (Numeral.ofIndex first)).on (.name path .nowhere))))
    (shows : shown.shape = Lookback.plotted
      ((Lookback.history (Numeral.ofIndex (first + second))).on (.name path .nowhere)))
    (resolves : ∀ call ∈ nested.calls, call.Resolves) : ∀ call ∈ direct.calls, call.Resolves := by
  let known (signature : String × Nat) : Prop :=
    ∃ builtin, Builtin.ofName? signature.1 = some builtin ∧ builtin.minArguments ≤ signature.2
  have all : ∀ call ∈ nested.calls, known call.signature := resolves
  show ∀ call ∈ direct.calls, known call.signature
  rw [continues.calls, List.forall_mem_append, List.flatMap_singleton] at all
  obtain ⟨early, late⟩ := all
  obtain ⟨plots, _, _⟩ := (Lookback.forall_calls_plotted draws).mp late
  rw [directContinues.calls, List.forall_mem_append, List.flatMap_singleton]
  exact ⟨early, (Lookback.forall_calls_plotted shows).mpr ⟨plots, nofun, nofun⟩⟩

theorem Trading.initial (trading : Trading number start nested direct plotSite outer)
    (first bars : Nat) (known : (PriceField.ofName? path).isSome ∨ path ∈ start.assignedNames)
    {plots directPlots : List (Nat × Option String)}
    (samePlots : directPlots = plots.map fun plot => (number plot.1, plot.2))
    (plotted : (Script.initial ⟨nested, nested.assignedNames, plots⟩).recorder.plotted? plotSite =
      some []) :
    Composes number (· ∈ start.sites) path first bars outer plotSite
      (Script.initial ⟨nested, nested.assignedNames, plots⟩)
      (Script.initial ⟨direct, direct.assignedNames, directPlots⟩) := by
  have nestedNames (name : String) : name ∈ nested.assignedNames ↔ name ∈ start.assignedNames := by
    rw [continues.mem_assignedNames, List.flatMap_singleton]
    exact or_iff_left List.not_mem_nil
  have directNames (name : String) : name ∈ direct.assignedNames ↔ name ∈ start.assignedNames := by
    rw [directContinues.mem_assignedNames, List.flatMap_singleton]
    exact or_iff_left List.not_mem_nil
  refine ⟨⟨⟨rfl, fun name _ => ?_, fun site _ => ?_⟩, fun site own => ?_, ?_⟩, [], [], [],
    ⟨?_, ?_, ?_, plotted, rfl, .nil _ _⟩⟩
  · simp only [Script.initial, Memory.get?_empty, nestedNames, directNames]
  · simp only [Script.initial, Memory.site_empty]
  · simp only [Script.initial, Memory.empty, Array.size_replicate]
    exact trading.counts site own
  · exact Script.initial_recorder_of_plots trading.injective samePlots
  · simp only [Script.initial, Memory.empty, Array.size_replicate]
    exact trading.present
  · simp only [Memory.numeric?, Script.initial, Memory.get?_empty, nestedNames]
    cases field : PriceField.ofName? path with
    | none =>
      rw [field] at known
      rw [if_pos ⟨known.resolve_left Bool.false_ne_true, rfl⟩]
    | some isField =>
      rw [if_neg fun both => Option.some_ne_none _ both.2]
      rfl
  · simp only [Script.initial, Memory.site_empty]
    rfl

theorem Trading.runWindow_mirrors (trading : Trading number start nested direct plotSite outer)
    (records : (Lookback.history (Numeral.ofIndex second)).Draws drawn operand plotSite outer)
    (reads : operand.shape = (Lookback.history (Numeral.ofIndex first)).on (.name path .nowhere))
    (loads : (Lookback.history (Numeral.ofIndex (first + second))).Draws shown (.name path span)
      (number plotSite) site) (small : first + second < 2 ^ 53)
    {plots directPlots : List (Nat × Option String)} (overrides : Table String Float)
    (candles : List Candle) :
    Eval.Mirrors (Composes number (· ∈ start.sites) path first (first + second) outer plotSite)
      (Script.runWindow ⟨nested, nested.assignedNames, plots⟩ overrides candles)
      (Script.runWindow ⟨direct, direct.assignedNames, directPlots⟩ overrides candles) := by
  have apart : plotSite ∉ start.calls.map Call.site := fun called =>
    trading.plotNew (start.calls_sites_sublist.subset called)
  rw [Program.calls, List.map_append, List.mem_append, not_or] at apart
  have own : ∀ site ∈ start.statements.flatMap Statement.sites, site ∈ start.sites :=
    fun site member => List.mem_append_right _ member
  have same : direct.declaration = nested.declaration :=
    directContinues.declaration.trans continues.declaration.symm
  have declared : ∀ declaration ∈ nested.declaration, ∀ site ∈ declaration.call.sites,
      site ∈ start.sites := by
    intro declaration isDeclared site member
    rw [continues.declaration] at isDeclared
    rw [Program.sites, Option.mem_def.mp isDeclared]
    exact List.mem_append_left _ member
  rw [← continues.declaration] at apart
  obtain ⟨headsBetween, headsOnBar⟩ := Composes.heading_mirrors
    ⟨nested, nested.assignedNames, plots⟩ ⟨direct, direct.assignedNames, directPlots⟩ overrides
    trading.injective trading.fixed same declared apart.1 trading.outerNew
  refine Script.runWindow_mirrors (fun _ _ candle composes => composes.openBar candle) ?_
    headsBetween headsOnBar candles
  intro left right composes
  rw [continues.statements, directContinues.statements]
  exact composes.statements_mirror trading.injective trading.fixed own trading.outerNew apart.2
    records reads loads small

end Composition

/-- A plot of a reference to the history of a history of a name, at the end of a program, draws what
a plot of one reference draws that looks back as many bars as both do. It is missing on the bars
that have no bar so many bars before. -/
theorem execute_history_of_history {tokens others : List Token} {start nested direct : Program}
    {drawn shown : Expr} {drawnSpan shownSpan : Span} {path : String} {first second : Nat}
    (parsed : parseTokens tokens = .ok nested) (parsedDirect : parseTokens others = .ok direct)
    (continues : nested.Continues start [.expression drawn drawnSpan])
    (directContinues : direct.Continues start [.expression shown shownSpan])
    (draws : drawn.shape = Lookback.plotted ((Lookback.history (Numeral.ofIndex second)).on
      ((Lookback.history (Numeral.ofIndex first)).on (.name path .nowhere))))
    (shows : shown.shape = Lookback.plotted
      ((Lookback.history (Numeral.ofIndex (first + second))).on (.name path .nowhere)))
    (known : (PriceField.ofName? path).isSome ∨ path ∈ start.assignedNames)
    (small : first + second < 2 ^ 53) (window : List Candle) (overrides : Table String Float)
    (chart : Chart) (ran : nested.execute window overrides = .ok chart) :
    direct.execute window overrides = .ok chart ∧
      ∃ (others : List Plot) (plot : Plot), chart.plots = others ++ [plot] ∧
        plot.values.length = window.length ∧
        ∀ bar, window.length ≤ bar + (first + second) →
          ∀ value, plot.values[bar]? = some value → value.isNaN = true := by
  obtain ⟨plotSite, outer, operand, reads, records⟩ :=
    Lookback.exists_draws (Lookback.readsOne_history _) draws
  obtain ⟨directSite, site, name, isName, loads⟩ :=
    Lookback.exists_draws (Lookback.readsOne_history _) shows
  obtain ⟨span, rfl⟩ := Expr.eq_name_of_shape isName
  obtain ⟨number, trading, rfl⟩ := exists_trading continues directContinues parsed parsedDirect
    records.sites loads.sites
  have samePlots := trading.plots continues directContinues records reads loads
  have nodup := nodup_calls_sites parsed
  obtain ⟨recorder, recorded⟩ := exists_records ran
  have plots := continues.plots (records.plots (quiet_history_name reads))
  obtain ⟨earlier, drawnPlots, parts, shownValues⟩ := recorded.last_plots nodup plots
  obtain ⟨script, heading, final, prepared, finished, rfl, rfl⟩ := recorded
  have plotted : script.initial.recorder.plotted? plotSite = some [] := by
    refine plotted?_initial nodup prepared ?_
    rw [plots, List.map_append]
    exact List.mem_append_right _ List.mem_cons_self
  have resolves := resolves_of_composed continues directContinues draws shows
    (resolves_of_prepare prepared)
  obtain rfl := eq_of_prepare prepared
  have initial := trading.initial continues directContinues first (first + second) known samePlots
    plotted
  obtain ⟨next, mirrored, shares, past, buffer, values, looks⟩ :=
    trading.runWindow_mirrors continues directContinues records reads loads small overrides
      window.reverse _ _ initial heading final finished
  constructor
  · rw [execute, prepare_of_resolves resolves]
    show Script.run _ window overrides = _
    rw [Eval.run_outcome, mirrored]
    simp only [shares.recorder, shares.agrees.bars, Recorder.finish_renumber]
  · rw [List.map_singleton, looks.plotted] at shownValues
    obtain ⟨plot, others, rfl, isValues, none⟩ := List.map_eq_cons_iff.mp shownValues
    obtain rfl := List.map_eq_nil_iff.mp none
    have count : past.length = window.length := by
      rw [← looks.count, Script.bars_of_runWindow finished, List.length_reverse]
    refine ⟨earlier, plot, parts, ?_, fun bar outside value found => ?_⟩
    · rw [Option.some.inj isValues, looks.looked.length, count]
    · have missing := looks.looked.missing bar (count ▸ outside)
      rw [Option.some.inj isValues] at found
      rwa [Series.before, found] at missing

def twiceBackSource : String :=
  "x = close * 2\nplot(x[1][1])"

def onceBackSource : String :=
  "x = close * 2\nplot(x[2])"

/-- Two programs are those of the two sources, up to sites and to places in the last part. -/
def looksBackAlike (nested direct : Program) : Bool :=
  match nested.declaration, nested.statements, direct.declaration, direct.statements with
  | none, [.assign name (.binary (.name field fieldSpan) op (.number factor factorSpan) within) span,
      .expression (.call (.mk plot _ [.history (.history (.name path _) (.number first _) _ _)
        (.number second _) _ _] []) _) _],
    none, [.assign sameName (.binary (.name sameField sameFieldSpan) sameOp
        (.number sameFactor sameFactorSpan) sameWithin) sameSpan,
      .expression (.call (.mk samePlot _ [.history (.name samePath _) (.number both _) _ _] []) _)
        _] =>
    decide (sameName = name ∧ sameField = field ∧ sameFieldSpan = fieldSpan ∧ sameOp = op ∧
      sameFactor = factor ∧ sameFactorSpan = factorSpan ∧ sameWithin = within ∧ sameSpan = span ∧
      name = "x" ∧ path = "x" ∧ samePath = "x" ∧ plot = "plot" ∧ samePlot = "plot" ∧
      first = Numeral.ofIndex 1 ∧ second = Numeral.ofIndex 1 ∧ both = Numeral.ofIndex (1 + 1))
  | _, _, _, _ => false

theorem execute_history_of_history_doubled :
    ∃ tokens others nested direct chart,
      tokenize twiceBackSource = .ok tokens ∧ parseTokens tokens = .ok nested ∧
      tokenize onceBackSource = .ok others ∧ parseTokens others = .ok direct ∧
      nested.execute Script.risingCandles [] = .ok chart ∧
      direct.execute Script.risingCandles [] = .ok chart ∧
      ∃ (earlier : List Plot) (plot : Plot), chart.plots = earlier ++ [plot] ∧
        plot.values.length = Script.risingCandles.length := by
  have reads : (tokenize twiceBackSource).toOption.any fun tokens =>
      (parseTokens tokens).toOption.any fun nested =>
      (tokenize onceBackSource).toOption.any fun others =>
      (parseTokens others).toOption.any fun direct =>
        looksBackAlike nested direct && (nested.execute Script.risingCandles []).isOk := by
    decide +kernel
  obtain ⟨tokens, scanned, reads⟩ := of_toOption_any reads
  obtain ⟨nested, parsed, reads⟩ := of_toOption_any reads
  obtain ⟨others, scannedDirect, reads⟩ := of_toOption_any reads
  obtain ⟨direct, parsedDirect, reads⟩ := of_toOption_any reads
  obtain ⟨alike, succeeds⟩ := Bool.and_eq_true_iff.mp reads
  cases ran : nested.execute Script.risingCandles [] with
  | error failure =>
    rw [ran] at succeeds
    cases succeeds
  | ok chart =>
    unfold looksBackAlike at alike
    split at alike
    case h_2 => cases alike
    case h_1 declared statements directDeclared directStatements =>
      obtain ⟨rfl, rfl, rfl, rfl, rfl, rfl, rfl, rfl, rfl, rfl, rfl, rfl, rfl, rfl, rfl, rfl⟩ :=
        of_decide_eq_true alike
      obtain ⟨ranDirect, earlier, plot, parts, length, _⟩ := execute_history_of_history parsed
        parsedDirect (⟨declared, statements⟩ :
          nested.Continues ⟨nested.version, none, [_], 0⟩ [.expression _ _])
        ⟨directDeclared, directStatements⟩ rfl rfl (.inr List.mem_cons_self) (by decide)
        Script.risingCandles [] chart ran
      exact ⟨tokens, others, nested, direct, chart, scanned, parsed, scannedDirect, parsedDirect,
        ran, ranDirect, earlier, plot, parts, length⟩

end Program

end ChartScript
