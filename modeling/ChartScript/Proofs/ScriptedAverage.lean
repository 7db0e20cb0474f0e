import ChartScript.Proofs.LastPlots
import ChartScript.Proofs.SparedState
import ChartScript.Proofs.WholeNumbers

/-!
# An average follows from the one before

An exponential average takes its own result of the bar before, which its site has kept. So where a
script plots a variable and its average, each value of the second plot follows from the first plot
and from the next older value of the second one (`Series.Averaged`), or starts anew from a mean
where that is missing.
-/

set_option autoImplicit false

namespace ChartScript

open Eval

namespace Series

variable {length : Nat} {source averages : Series Float}

/-- The second series has the averages of the first one, each of which is taken from the value of
its bar and from the average one bar before. -/
inductive Averaged (length : Nat) : Series Float → Series Float → Prop
  | nil : Averaged length [] []
  | cons {source averages : Series Float} (value : Float) (older : Averaged length source averages) :
      Averaged length (value :: source)
        (ema (value :: source) length (now averages) :: averages)

namespace Averaged

theorem length_eq (averaged : Averaged length source averages) :
    averages.length = source.length := by
  induction averaged with
  | nil => rfl
  | cons value _ same => exact congrArg Nat.succ same

theorem getElem? (averaged : Averaged length source averages) {bar : Nat}
    (within : bar < source.length) :
    averages[bar]? = some (ema (source.drop bar) length (before averages (bar + 1))) := by
  induction averaged generalizing bar with
  | nil => cases within
  | cons value older known =>
    cases bar with
    | zero => rw [before_succ, before_zero]; rfl
    | succ bar => exact known (Nat.lt_of_succ_lt_succ within)

/-- Where the average one bar before is missing, or there is no such bar, a mean takes its place. -/
theorem restarts (averaged : Averaged length source averages) {bar : Nat}
    (within : bar < source.length)
    (missing : ∀ older, averages[bar + 1]? = some older → older.isNaN = true) :
    averages[bar]? = some (sma (source.drop bar) length) := by
  have absent : (before averages (bar + 1)).isNaN = true := by
    unfold before
    cases found : averages[bar + 1]? with
    | none => decide +kernel
    | some older => exact missing older found
  rw [averaged.getElem? within]
  exact congrArg some (if_pos absent)

theorem continues (averaged : Averaged length source averages) {bar : Nat} {current older : Float}
    (now : source[bar]? = some current) (before : averages[bar + 1]? = some older)
    (present : older.isNaN = false) :
    let weight : Float := 2.0 / (Numeral.ofIndex length + 1.0)
    averages[bar]? = some (current * weight + older * (1.0 - weight)) := by
  obtain ⟨within, _⟩ := List.getElem?_eq_some_iff.mp now
  have newest : Series.now (source.drop bar) = current := by
    rw [Series.now, List.headD_eq_head?_getD, List.head?_drop, now]
    rfl
  have previous : Series.before averages (bar + 1) = older := by
    rw [Series.before, before]
    rfl
  have given : Quantity.isMissing older = false := present
  rw [averaged.getElem? within, previous, ema, given, newest, ← Numeral.ofIndex_one,
    ← Numeral.ofIndex_two]
  rfl

/-- Each average follows from the one before it, and a mean takes its place where that is
missing. -/
theorem follows (averaged : Averaged length source averages) {bar : Nat}
    (within : bar < source.length) :
    let weight : Float := 2.0 / (Numeral.ofIndex length + 1.0)
    (bar + 1 = source.length → averages[bar]? = some (sma (source.drop bar) length)) ∧
      ∀ older, averages[bar + 1]? = some older →
        (older.isNaN = true → averages[bar]? = some (sma (source.drop bar) length)) ∧
        (older.isNaN = false → ∀ current, source[bar]? = some current →
          averages[bar]? = some (current * weight + older * (1.0 - weight))) := by
  intro weight
  refine ⟨fun oldest => ?_, fun older found => ⟨fun missing => ?_, fun present current now => ?_⟩⟩
  · have outside : averages[bar + 1]? = none := by
      apply List.getElem?_eq_none
      rw [averaged.length_eq, oldest]
    refine averaged.restarts within fun older found => ?_
    cases outside.symm.trans found
  · refine averaged.restarts within fun known same => ?_
    cases found.symm.trans same
    exact missing
  · exact averaged.continues now found present

end Averaged

end Series

/-! ## On a bar -/

namespace Lookback

theorem outcome_plot_ema {length plotSite site : Nat} {drawn : Expr} {name : String} {span : Span}
    (draws : (indicator "ema" [Numeral.ofIndex length] []).Draws drawn (.name name span) plotSite
      site)
    (positive : 1 ≤ length) (small : length < 2 ^ 53) (context : Context) (state : RunState)
    {series : Series Float} (named : state.memory.numeric? name = some series) :
    let average := series.ema length (Series.before (state.memory.site site).result 1)
    outcome (drawn.evaluate context) state =
      (.ok .na,
        { memory := state.memory.setResult site average
          recorder := state.recorder.setPlotted plotSite average }) := by
  have found : Builtin.ofName? "ema" = some .ema := rfl
  have isSeries : state.memory.namedSeries? (.name name span) = some series := named
  have isLength : (arguments "ema" [Numeral.ofIndex length] []).length 1 "length" = .ok length :=
    Arguments.length_of_ofIndex rfl positive small
  rw [draws.evaluate]
  simp only [Lookback.bars, pure_bind, Eval.operand, answer, found, Eval.indicator, isLength,
    outcome_bind, outcome_memory, isSeries, outcome_pure, outcome_lift]
  rfl

end Lookback

section OnBar

variable {view : Series Float → Series Float} {name : String} {length first second site : Nat}
  {source averages : Series Float} {state after : RunState}

/-- A run that plots a variable and its average. The variable, the site of the average and the two
plots have views of a series and of its averages. -/
structure RunState.Averages (view : Series Float → Series Float) (name : String)
    (length first second site : Nat) (source averages : Series Float) (state : RunState) :
    Prop where
  present : site < state.memory.sites.size
  named : state.memory.slots.get? name = some (.numeric (view source))
  kept : (state.memory.site site).result = view averages
  plotted : state.recorder.plotted? first = some (view source)
  plottedAverage : state.recorder.plotted? second = some (view averages)
  count : state.memory.bars.length = (view source).length
  averaged : Series.Averaged length source averages

namespace RunState.Averages

theorem openBar (holds : state.Averages id name length first second site source averages)
    (candle : Candle) :
    (state.openBar candle).Averages Series.openBar name length first second site source averages
    where
  present := by
    simp only [RunState.openBar, Memory.size_openBar]
    exact holds.present
  named := state.openBar_slot name candle holds.named
  kept := by
    simp only [RunState.openBar, Memory.site_openBar, if_pos holds.present]
    exact congrArg Series.openBar holds.kept
  plotted := (state.recorder.plotted?_openBar first).trans (by rw [holds.plotted]; rfl)
  plottedAverage :=
    (state.recorder.plotted?_openBar second).trans (by rw [holds.plottedAverage]; rfl)
  count := congrArg Nat.succ holds.count
  averaged := holds.averaged

theorem spared {sites : Nat → Prop} {names : String → Prop}
    (holds : state.Averages view name length first second site source averages)
    (spares : state.Spares sites names after) (foreign : ¬sites site) (unassigned : ¬names name)
    (plots : after.recorder.plotted? first = state.recorder.plotted? first)
    (plotsAverage : after.recorder.plotted? second = state.recorder.plotted? second) :
    after.Averages view name length first second site source averages where
  present := spares.size ▸ holds.present
  named := (spares.slots name unassigned).trans holds.named
  kept := (congrArg SiteMemory.result (spares.others site foreign)).trans holds.kept
  plotted := plots.trans holds.plotted
  plottedAverage := plotsAverage.trans holds.plottedAverage
  count := (congrArg List.length spares.bars).trans holds.count
  averaged := holds.averaged

/-- What an assignment leaves in a variable that has numbers so far. -/
inductive Assigned (before : Series Float) : Slot → Prop
  | number (newest : Float) : Assigned before (.numeric (newest :: before))
  | scalar (value : Value) (notNumber : value.numeric? = none) : Assigned before (.scalar value)

theorem of_store_ok {value : Value} {before : Series Float}
    (named : state.memory.slots.get? name = some (.numeric (Series.openBar before)))
    (ran : outcome (Eval.store name value) state = (.ok (), after)) :
    ∃ slot, Assigned before slot ∧ after = { state with
      memory := { state.memory with slots := state.memory.slots.set name slot } } := by
  obtain ⟨memory, stored, rfl⟩ := Eval.of_store_ok ran
  obtain ⟨slot, assigns, rfl⟩ := Memory.of_store_ok stored
  refine ⟨slot, ?_, rfl⟩
  rw [named, Option.getD_some] at assigns
  cases isNumber : value.numeric? with
  | some number =>
    simp only [Memory.assign, isNumber, Except.ok.injEq] at assigns
    subst assigns
    exact .number number
  | none =>
    simp only [Memory.assign, isNumber] at assigns
    split at assigns
    · cases assigns
      exact .scalar value isNumber
    · cases assigns

theorem of_plot_ok {before : Series Float} {slot : Slot} (assigned : Assigned before slot)
    (found : state.memory.slots.get? name = some slot) {context : Context} {result : Value}
    (ran : outcome (Eval.load name >>= fun value =>
      Builtin.plot.apply context first [] ⟨"plot", [some value], []⟩) state =
        (.ok result, after)) :
    ∃ newest, slot = .numeric (newest :: before) ∧
      after = { state with recorder := state.recorder.setPlotted first newest } := by
  cases assigned with
  | number newest =>
    have known : state.memory.load? name = some (.number newest) := by
      simp only [Memory.load?, found]
      rfl
    rw [outcome_bind, Eval.load_of_known known] at ran
    obtain ⟨number, isNumber, rfl⟩ := Builtin.outcome_plot_ok ran
    cases isNumber
    exact ⟨newest, rfl, rfl⟩
  | scalar value notNumber =>
    have known : state.memory.load? name = some value := by
      simp only [Memory.load?, found]
    rw [outcome_bind, Eval.load_of_known known] at ran
    obtain ⟨number, isNumber, _⟩ := Builtin.outcome_plot_ok ran
    rw [Value.numeric?_of_asNumber isNumber] at notNumber
    cases notNumber

/-- On a bar the variable gets its next value, which is plotted, and then the average that follows
is plotted. -/
theorem lastStatements {overrides : Table String Float} {value shown drawn : Expr}
    {valueSpan shownSpan drawnSpan place span : Span}
    (holds : state.Averages Series.openBar name length first second site source averages)
    (foreign : site ∉ value.sites) (apart : first ∉ value.calls.map Call.site)
    (apartAverage : second ∉ value.calls.map Call.site) (differ : first ≠ second)
    (shows : ∀ context, shown.evaluate context =
      (Expr.name name place).evaluate context >>= fun value =>
        Builtin.plot.apply context first [] ⟨"plot", [some value], []⟩)
    (draws : (Lookback.indicator "ema" [Numeral.ofIndex length] []).Draws drawn (.name name span)
      second site)
    (positive : 1 ≤ length) (small : length < 2 ^ 53)
    (ran : outcome (executeAll overrides [.assign name value valueSpan,
      .expression shown shownSpan, .expression drawn drawnSpan]) state = (.ok (), after)) :
    ∃ newest, after.Averages id name length first second site (newest :: source)
      (Series.ema (newest :: source) length (Series.now averages) :: averages) := by
  obtain ⟨_, stored, assigns, ran⟩ := of_outcome_bind_ok ran
  obtain ⟨given, evaluated, gives, stores⟩ := of_outcome_bind_ok assigns
  have marked := value.evaluate_drawsOnce _ _ _ _ gives
  have onBar := holds.spared (Expr.evaluate_spares gives) foreign id (marked.plotted? apart)
    (marked.plotted? apartAverage)
  obtain ⟨slot, isAssigned, rfl⟩ := of_store_ok onBar.named stores
  rw [executeAll_expression] at ran
  obtain ⟨_, plotted, shownRan, ran⟩ := of_outcome_bind_ok ran
  rw [shows] at shownRan
  obtain ⟨newest, rfl, rfl⟩ := of_plot_ok isAssigned (Table.get?_set_self _ _ _) shownRan
  rw [executeAll_expression] at ran
  obtain ⟨_, last, averageRan, ran⟩ := of_outcome_bind_ok ran
  cases ran
  let assigned : RunState :=
    { memory := { evaluated.memory with
        slots := evaluated.memory.slots.set name (.numeric (newest :: source)) }
      recorder := evaluated.recorder.setPlotted first newest }
  have named : assigned.memory.slots.get? name = some (.numeric (newest :: source)) :=
    Table.get?_set_self _ _ _
  have series : assigned.memory.numeric? name = some (newest :: source) := by
    rw [Memory.numeric?, named]
  have kept : (assigned.memory.site site).result = Series.openBar averages := onBar.kept
  have previous : Series.before (Series.openBar averages) 1 = Series.now averages :=
    Series.before_zero averages
  have average := Lookback.outcome_plot_ema draws positive small ⟨overrides, none⟩ assigned series
  rw [kept, previous] at average
  cases averageRan.symm.trans average
  refine ⟨newest, ?_⟩
  exact
    { present := by
        simp only [Memory.size_setResult]
        exact onBar.present
      named := named
      kept := by
        rw [Memory.site_setResult, if_pos rfl]
        show Series.setNow (assigned.memory.site site).result _ = _
        rw [kept, Series.setNow_openBar]
        rfl
      plotted := by
        rw [Recorder.plotted?_setPlotted, if_neg (Ne.symm differ), Recorder.plotted?_setPlotted,
          if_pos rfl, onBar.plotted]
        rfl
      plottedAverage := by
        rw [Recorder.plotted?_setPlotted, if_pos rfl, Recorder.plotted?_setPlotted, if_neg differ,
          onBar.plottedAverage]
        rfl
      count := onBar.count
      averaged := onBar.averaged.cons newest }

end RunState.Averages

end OnBar

/-! ## Runs -/

namespace Script

section Preserving

variable {script : Script} {overrides : Table String Float} (between onBar : RunState → Prop)
  (opens : ∀ state candle, between state → onBar (state.openBar candle))
  (executes : ∀ state after, onBar state →
    outcome (executeAll overrides script.program.statements) state = (.ok (), after) →
      between after)

include opens executes

theorem runBars_preserves {candles : List Candle} {state final : RunState} (holds : between state)
    (ran : outcome (script.runBars overrides candles) state = (.ok (), final)) :
    between final := by
  induction candles generalizing state with
  | nil =>
    cases ran
    exact holds
  | cons candle newer ih =>
    obtain ⟨after, executed, ran⟩ := of_runBars_cons_ok ran
    exact ih (executes _ _ (opens state candle holds) executed) ran

/-- What the statements bring about again on each bar that opens holds when a run ends. -/
theorem runWindow_preserves
    (heads : ∀ heading state after, between state →
      outcome (script.heading overrides) state = (.ok heading, after) → between after)
    (headsOnBar : ∀ heading state after, onBar state →
      outcome (script.heading overrides) state = (.ok heading, after) → onBar after)
    {candles : List Candle} {heading : String × Bool} {final : RunState}
    (holds : between script.initial)
    (ran : outcome (script.runWindow overrides candles) script.initial = (.ok heading, final)) :
    between final := by
  cases candles with
  | nil => exact heads heading _ _ holds ran
  | cons oldest newer =>
    obtain ⟨declared, first, headed, executed, ran⟩ := of_runWindow_cons_ok ran
    have opened := headsOnBar heading _ _ (opens _ oldest holds) headed
    exact runBars_preserves between onBar opens executes (executes _ _ opened executed) ran

end Preserving

end Script

namespace Program

/-- The sites that a program has at its end for the plot of a variable, for the plot of an average
of the variable and for the average, told apart from all that come before. -/
structure Averaging (start program : Program) (value : Expr) (first second site : Nat) : Prop where
  new : ∀ added ∈ [first, second, site], added ∉ start.sites ∧ added ∉ value.sites
  differ : first ≠ second
  present : site < program.siteCount

section Averaging

variable {start program : Program} {value shown drawn : Expr} {name : String}
  {valueSpan shownSpan drawnSpan place span : Span} {length first second site : Nat}

theorem averaging_of_parseTokens {tokens : List Token} (parsed : parseTokens tokens = .ok program)
    (continues : program.Continues start [.assign name value valueSpan,
      .expression shown shownSpan, .expression drawn drawnSpan])
    (shownSites : shown.sites = [first]) (drawnSites : drawn.sites = [second, site]) :
    Averaging start program value first second site := by
  have sites : program.sites = start.sites ++ (value.sites ++ [first, second, site]) := by
    have shownLast : (Statement.expression shown shownSpan).sites = [first] := shownSites
    have drawnLast : (Statement.expression drawn drawnSpan).sites = [second, site] := drawnSites
    rw [continues.sites, List.flatMap_cons, List.flatMap_cons, List.flatMap_singleton, shownLast,
      drawnLast]
    rfl
  have nodup := (numbered_of_parseTokens parsed).nodup
  rw [sites, List.nodup_append', List.nodup_append'] at nodup
  obtain ⟨_, ⟨_, last, apart⟩, early⟩ := nodup
  have listed : site ∈ program.sites := by simp [sites]
  refine ⟨fun added member => ⟨fun before => ?_, fun before => apart before member⟩, ?_, ?_⟩
  · exact early before (List.mem_append_right _ member)
  · rintro rfl
    exact (List.nodup_cons.mp last).1 List.mem_cons_self
  · exact lt_siteCount parsed listed

namespace Averaging

variable (averaging : Averaging start program value first second site)
  (continues : program.Continues start [.assign name value valueSpan,
    .expression shown shownSpan, .expression drawn drawnSpan])

section Runs

variable {view : Series Float → Series Float} {source averages : Series Float}
  {state after : RunState} {overrides : Table String Float}

include averaging

theorem notMem_calls {calls : List Call}
    (early : ∀ call ∈ calls, call.site ∈ start.sites ∨ call.site ∈ value.sites) :
    first ∉ calls.map Call.site ∧ second ∉ calls.map Call.site := by
  have apart (added : Nat) (member : added ∈ [first, second, site]) :
      added ∉ calls.map Call.site := by
    intro called
    obtain ⟨call, isCall, rfl⟩ := List.mem_map.mp called
    obtain ⟨notStart, notValue⟩ := averaging.new _ member
    exact (early call isCall).elim notStart notValue
  exact ⟨apart first (by simp), apart second (by simp)⟩

include continues

theorem heading {script : Script} (same : script.program = program) {heading : String × Bool}
    (holds : state.Averages view name length first second site source averages)
    (ran : outcome (script.heading overrides) state = (.ok heading, after)) :
    after.Averages view name length first second site source averages := by
  have declared : script.program.declaration = start.declaration := same ▸ continues.declaration
  have early : ∀ declaration ∈ script.program.declaration, ∀ own ∈ declaration.call.sites,
      own ∈ start.sites := by
    intro declaration isDeclared own member
    rw [declared] at isDeclared
    rw [Program.sites, Option.mem_def.mp isDeclared]
    exact List.mem_append_left _ member
  obtain ⟨apart, apartAverage⟩ := averaging.notMem_calls fun call member =>
    .inl (site_mem_sites (List.mem_append_left (start.statements.flatMap Statement.calls) member))
  rw [← declared] at apart apartAverage
  have marked := script.heading_drawsOnce overrides _ _ _ ran
  have new : site ∉ start.sites := (averaging.new site (by simp)).1
  exact holds.spared (Script.heading_spares early ran) new id (marked.plotted? apart)
    (marked.plotted? apartAverage)

end Runs

section Window

variable {state after : RunState} {overrides : Table String Float} {source averages : Series Float}
  (fresh : name ∉ start.assignedNames)
  (shows : ∀ context, shown.evaluate context =
    (Expr.name name place).evaluate context >>= fun value =>
      Builtin.plot.apply context first [] ⟨"plot", [some value], []⟩)
  (draws : (Lookback.indicator "ema" [Numeral.ofIndex length] []).Draws drawn (.name name span)
    second site)
  (positive : 1 ≤ length) (small : length < 2 ^ 53)

include averaging continues fresh shows draws positive small

theorem statements
    (holds : state.Averages Series.openBar name length first second site source averages)
    (ran : outcome (executeAll overrides program.statements) state = (.ok (), after)) :
    ∃ newest, after.Averages id name length first second site (newest :: source)
      (Series.ema (newest :: source) length (Series.now averages) :: averages) := by
  rw [continues.statements, executeAll_append] at ran
  obtain ⟨_, reached, executed, ran⟩ := of_outcome_bind_ok ran
  have marked := executeAll_drawsOnce overrides _ _ _ _ executed
  obtain ⟨apart, apartAverage⟩ := averaging.notMem_calls fun call member =>
    .inl (site_mem_sites (List.mem_append_right (start.declaration.elim [] (·.call.inner)) member))
  have new : site ∉ start.statements.flatMap Statement.sites := fun early =>
    (averaging.new site (by simp)).1 (List.mem_append_right _ early)
  have unassigned : name ∉ start.statements.flatMap Statement.assigned :=
    fun assigned => fresh (List.mem_eraseDups.mpr assigned)
  have kept := holds.spared (executeAll_spares executed) new unassigned (marked.plotted? apart)
    (marked.plotted? apartAverage)
  obtain ⟨valueApart, valueApartAverage⟩ := averaging.notMem_calls
    fun _ member => .inr (Expr.site_mem_sites member)
  exact kept.lastStatements (averaging.new site (by simp)).2 valueApart valueApartAverage
    averaging.differ shows draws positive small ran

/-- When a run ends, the values of the second plot are the averages of those of the first one. -/
theorem runWindow {script : Script} (same : script.program = program)
    {candles : List Candle} {heading : String × Bool} {final : RunState}
    (initial : script.initial.Averages id name length first second site [] [])
    (ran : outcome (script.runWindow overrides candles) script.initial = (.ok heading, final)) :
    ∃ source averages, final.Averages id name length first second site source averages := by
  let averages (view : Series Float → Series Float) (state : RunState) : Prop :=
    ∃ source averages, state.Averages view name length first second site source averages
  refine Script.runWindow_preserves (averages id) (averages Series.openBar) ?_ ?_ ?_ ?_
    ⟨[], [], initial⟩ ran
  · rintro state candle ⟨source, averages, holds⟩
    exact ⟨source, averages, holds.openBar candle⟩
  · rintro state after ⟨source, averages, holds⟩ executed
    rw [same] at executed
    obtain ⟨newest, next⟩ := averaging.statements continues fresh shows draws positive small holds
      executed
    exact ⟨_, _, next⟩
  · rintro heading state after ⟨source, averages, holds⟩ ran
    exact ⟨source, averages, averaging.heading continues same holds ran⟩
  · rintro heading state after ⟨source, averages, holds⟩ ran
    exact ⟨source, averages, averaging.heading continues same holds ran⟩

end Window

include averaging continues

theorem initial {script : Script} (prepared : program.prepare = .ok script)
    (notField : PriceField.ofName? name = none)
    (plotted : script.initial.recorder.plotted? first = some [])
    (plottedAverage : script.initial.recorder.plotted? second = some []) :
    script.initial.Averages id name length first second site [] [] where
  present := by
    rw [eq_of_prepare prepared]
    simp only [Script.initial, Memory.empty, Array.size_replicate]
    exact averaging.present
  named := by
    have assigned : name ∈ program.assignedNames :=
      continues.mem_assignedNames.mpr (.inr List.mem_cons_self)
    rw [eq_of_prepare prepared]
    simp only [Script.initial, Memory.get?_empty]
    exact if_pos ⟨assigned, notField⟩
  kept := by
    simp only [Script.initial, Memory.site_empty]
    rfl
  plotted := plotted
  plottedAverage := plottedAverage
  count := rfl
  averaged := .nil

end Averaging

end Averaging

theorem Continues.average_plots {start program : Program} {value shown drawn : Expr} {name : String}
    {valueSpan shownSpan drawnSpan : Span} {first second : Nat}
    (continues : program.Continues start [.assign name value valueSpan,
      .expression shown shownSpan, .expression drawn drawnSpan])
    (shownPlots : shown.calls.filterMap Call.plot? = [(first, none)])
    (drawnPlots : drawn.calls.filterMap Call.plot? = [(second, none)]) :
    program.calls.filterMap Call.plot? =
      (start.calls ++ value.calls).filterMap Call.plot? ++ [(first, none), (second, none)] := by
  have last : [Statement.assign name value valueSpan, .expression shown shownSpan,
      .expression drawn drawnSpan].flatMap Statement.calls =
        value.calls ++ (shown.calls ++ drawn.calls) := by
    rw [List.flatMap_cons, List.flatMap_cons, List.flatMap_singleton]
    rfl
  rw [continues.calls, last, ← List.append_assoc, List.filterMap_append,
    List.filterMap_append (l := shown.calls), shownPlots, drawnPlots]
  rfl

/-- A program that plots a variable and its exponential average at its end plots an average that
follows from its own next older value. Where that is missing, and on the oldest bar, it is the mean
of as many values. -/
theorem execute_scripted_average {tokens : List Token} {start program : Program}
    {value shown drawn : Expr} {valueSpan shownSpan drawnSpan : Span} {name : String}
    {length : Nat} (parsed : parseTokens tokens = .ok program)
    (continues : program.Continues start [.assign name value valueSpan,
      .expression shown shownSpan, .expression drawn drawnSpan])
    (shows : shown.shape = Lookback.plotted (.name name .nowhere))
    (draws : drawn.shape = Lookback.plotted
      ((Lookback.indicator "ema" [Numeral.ofIndex length] []).on (.name name .nowhere)))
    (fresh : name ∉ start.assignedNames) (notField : PriceField.ofName? name = none)
    (positive : 1 ≤ length) (small : length < 2 ^ 53) (window : List Candle)
    (overrides : Table String Float) (chart : Chart)
    (ran : program.execute window overrides = .ok chart) :
    let weight : Float := 2.0 / (Numeral.ofIndex length + 1.0)
    ∃ (others : List Plot) (source average : Plot), chart.plots = others ++ [source, average] ∧
      source.values.length = window.length ∧ average.values.length = window.length ∧
      ∀ bar < window.length,
        (bar + 1 = window.length →
          average.values[bar]? = some (Series.sma (source.values.drop bar) length)) ∧
        ∀ older, average.values[bar + 1]? = some older →
          (older.isNaN = true →
            average.values[bar]? = some (Series.sma (source.values.drop bar) length)) ∧
          (older.isNaN = false → ∀ current, source.values[bar]? = some current →
            average.values[bar]? = some (current * weight + older * (1.0 - weight))) := by
  have reads : (Lookback.indicator "ema" [Numeral.ofIndex length] []).ReadsOne := ⟨.ema, rfl, rfl⟩
  obtain ⟨first, look, isName, shownSites, shownPlots, showsPlot⟩ := Lookback.evaluate_plotted shows
  obtain ⟨place, rfl⟩ := Expr.eq_name_of_shape isName
  obtain ⟨second, site, operand, isOperand, drawsPlot⟩ := Lookback.exists_draws reads draws
  obtain ⟨span, rfl⟩ := Expr.eq_name_of_shape isOperand
  have averaging := averaging_of_parseTokens parsed continues shownSites drawsPlot.sites
  have plots := continues.average_plots shownPlots (drawsPlot.plots nofun)
  have nodup := nodup_calls_sites parsed
  obtain ⟨recorder, recorded⟩ := exists_records ran
  obtain ⟨others, last, parts, values⟩ := recorded.last_plots nodup plots
  obtain ⟨script, heading, final, prepared, finished, rfl, rfl⟩ := recorded
  have empty (plot : Nat) (member : plot ∈ [first, second]) :
      script.initial.recorder.plotted? plot = some [] := by
    refine plotted?_initial nodup prepared ?_
    rw [plots, List.map_append]
    exact List.mem_append_right _ member
  have initial : script.initial.Averages id name length first second site [] [] :=
    averaging.initial continues prepared notField (empty first (by simp)) (empty second (by simp))
  have same : script.program = program := by rw [eq_of_prepare prepared]
  obtain ⟨source, averages, holds⟩ := averaging.runWindow continues fresh showsPlot drawsPlot
    positive small same initial finished
  have count : source.length = window.length := by
    have counted := Script.bars_of_runWindow finished
    rw [List.length_reverse] at counted
    exact holds.count.symm.trans counted
  rw [List.map_cons, List.map_singleton, holds.plotted, holds.plottedAverage] at values
  obtain ⟨sourcePlot, rest, rfl, isSource, values⟩ := List.map_eq_cons_iff.mp values
  obtain ⟨averagePlot, rest, rfl, isAverage, noMore⟩ := List.map_eq_cons_iff.mp values
  obtain rfl := List.map_eq_nil_iff.mp noMore
  cases isSource
  cases isAverage
  refine ⟨others, sourcePlot, averagePlot, parts, count, holds.averaged.length_eq.trans count,
    fun bar within => ?_⟩
  rw [← count] at within ⊢
  exact holds.averaged.follows within

def averagedSource : String :=
  "v = close\nplot(v)\nplot(ema(v, 2))"

def plotsAverage (program : Program) : Bool :=
  match program.declaration, program.statements with
  | none, [.assign name _ _, .expression (.call (.mk plot _ [.name shown _] []) _) _,
      .expression (.call (.mk second _ [.call (.mk function _ [.name averaged _, .number length _]
        []) _] []) _) _] =>
    decide (name = "v" ∧ plot = "plot" ∧ shown = "v" ∧ second = "plot" ∧ function = "ema" ∧
      averaged = "v" ∧ length = Numeral.ofIndex 2)
  | _, _ => false

theorem execute_scripted_average_rising :
    ∃ tokens program chart, tokenize averagedSource = .ok tokens ∧
      parseTokens tokens = .ok program ∧
      program.execute Script.risingCandles [] = .ok chart ∧
      ∃ (others : List Plot) (source average : Plot), chart.plots = others ++ [source, average] ∧
        source.values.length = Script.risingCandles.length ∧
        average.values[2]? = some (Series.sma (source.values.drop 2) 2) := by
  have reads : (tokenize averagedSource).toOption.any fun tokens =>
      (parseTokens tokens).toOption.any fun program =>
        plotsAverage program && (program.execute Script.risingCandles []).isOk := by
    decide +kernel
  obtain ⟨tokens, scanned, reads⟩ := of_toOption_any reads
  obtain ⟨program, parsed, reads⟩ := of_toOption_any reads
  obtain ⟨plots, succeeds⟩ := Bool.and_eq_true_iff.mp reads
  cases ran : program.execute Script.risingCandles [] with
  | error failure =>
    rw [ran] at succeeds
    cases succeeds
  | ok chart =>
    unfold plotsAverage at plots
    split at plots
    case h_2 => cases plots
    case h_1 declared statements =>
      obtain ⟨rfl, rfl, rfl, rfl, rfl, rfl, rfl⟩ := of_decide_eq_true plots
      obtain ⟨others, source, average, parts, sourceLength, _, follows⟩ :=
        execute_scripted_average parsed (⟨declared, statements⟩ :
          program.Continues ⟨program.version, none, [], 0⟩
            [.assign "v" _ _, .expression _ _, .expression _ _]) rfl rfl List.not_mem_nil rfl
          (by decide) (by decide) Script.risingCandles [] chart ran
      exact ⟨tokens, program, chart, scanned, parsed, ran, others, source, average, parts,
        sourceLength, (follows 2 (by decide)).1 rfl⟩

end Program

end ChartScript
