import ChartScript.Proofs.Lookback
import ChartScript.Proofs.NoLookAhead
import ChartScript.Proofs.SideBySide

/-!
# Series that get a name

An indicator or a history reference can look back on any operand. Where the operand is assigned to
a variable first and the variable is looked back on, a plot of the one draws what a plot of the
other draws.
-/

set_option autoImplicit false

namespace ChartScript

section OnBar

variable {number : Nat → Nat} {site : Nat} {operand value : Expr} {target : String}
  {left right : RunState}

theorem Value.numeric?_of_asNumber {value : Value} {operation : String} {found : Float}
    (isNumber : value.asNumber operation = .ok found) : value.numeric? = some found := by
  cases value with
  | number | boolean => exact congrArg some (Except.ok.inj isNumber)
  | string | color => cases isNumber

theorem Beside.price_assigned {other : Context} {path : String} {span place : Span}
    {field : PriceField} (isField : PriceField.ofName? path = some field)
    (notField : PriceField.ofName? target = none)
    (beside : Beside number site (.name path span) target (Series.setNow · Numeral.nan) left right)
    {series : Series Float} {after : RunState} {evaluated : Eval Value}
    (ran : Eval.outcome (Eval.operand site .first (.name path span) evaluated) left =
      (.ok series, after)) :
    series = after.memory.lookedAt site (.name path span) ∧
      ∃ next, Eval.outcome ((Expr.name path place).evaluate other >>= Eval.store target) right =
          (.ok (), next) ∧ Beside number site (.name path span) target id after next := by
  have unknown := beside.unnamed path span rfl
  have named : left.memory.namedSeries? (.name path span) = some (left.memory.prices field) := by
    rw [Memory.namedSeries?, Memory.numeric?, unknown, isField]
    rfl
  have looked : left.memory.lookedAt site (.name path span) = left.memory.prices field := by
    simp only [Memory.lookedAt, Expr.field?, isField]
  unfold Eval.operand at ran
  rw [Eval.outcome_bind, Eval.outcome_memory] at ran
  simp only [named] at ran
  cases ran
  refine ⟨looked.symm, ?_⟩
  have differs : path ≠ target := by
    rintro rfl
    rw [isField] at notField
    cases notField
  have loaded : right.memory.load? path = some (.number (left.memory.prices field).now) := by
    simp only [Memory.load?, beside.slots path differs, unknown, isField, Memory.prices,
      beside.bars, Option.map_some]
  have now : Series.setNow (left.memory.lookedAt site (.name path span))
      (left.memory.prices field).now = left.memory.lookedAt site (.name path span) := by
    rw [looked, Series.setNow_now]
  rw [Eval.outcome_bind, Expr.evaluate, Eval.load_of_known loaded]
  exact beside.name rfl notField now

/-- What the first run records for its site is what the second one assigns. -/
theorem Beside.recorded_assigned {context other : Context} (recorded : operand.field? = none)
    (notField : PriceField.ofName? target = none)
    (mirrors : Eval.Mirrors (Beside number site operand target (Series.setNow · Numeral.nan))
      (operand.evaluate context) (value.evaluate other))
    (beside : Beside number site operand target (Series.setNow · Numeral.nan) left right)
    {series : Series Float} {after : RunState}
    (ran : Eval.outcome (Eval.operand site .first operand (operand.evaluate context)) left =
      (.ok series, after)) :
    series = after.memory.lookedAt site operand ∧
      ∃ next, Eval.outcome (value.evaluate other >>= Eval.store target) right = (.ok (), next) ∧
        Beside number site operand target id after next := by
  have unnamed : left.memory.namedSeries? operand = none := by
    cases operand with
    | name path span =>
      have notPrice : PriceField.ofName? path = none := recorded
      rw [Memory.namedSeries?, Memory.numeric?, beside.unnamed path span rfl, notPrice]
      rfl
    | _ => rfl
  unfold Eval.operand at ran
  rw [Eval.outcome_bind, Eval.outcome_memory] at ran
  simp only [unnamed] at ran
  obtain ⟨found, reached, evaluated, ran⟩ := Eval.of_outcome_bind_ok ran
  obtain ⟨newest, _, read, ran⟩ := Eval.of_outcome_bind_ok ran
  rw [Eval.outcome_lift] at read
  obtain ⟨isNumber, rfl⟩ := Prod.mk.inj read
  cases ran
  obtain ⟨next, mirrored, besideNext⟩ := mirrors left right beside found reached evaluated
  refine ⟨?_, ?_⟩
  · rw [Memory.lookedAt, recorded]
    rfl
  · rw [Eval.outcome_bind, mirrored]
    refine (besideNext.record recorded newest).name (Value.numeric?_of_asNumber isNumber)
      notField ?_
    rw [Beside.lookedAt_setOperand recorded, Series.setNow_setNow]

/-- Where the first run takes the series of the operand, the second one assigns the operand to its
variable, and the series is what the first run looks back on from then. -/
theorem Beside.operand_assigned {context other : Context} (same : value.shape = operand.shape)
    (notField : PriceField.ofName? target = none)
    (mirrors : Eval.Mirrors (Beside number site operand target (Series.setNow · Numeral.nan))
      (operand.evaluate context) (value.evaluate other))
    (beside : Beside number site operand target (Series.setNow · Numeral.nan) left right)
    {series : Series Float} {after : RunState}
    (ran : Eval.outcome (Eval.operand site .first operand (operand.evaluate context)) left =
      (.ok series, after)) :
    series = after.memory.lookedAt site operand ∧
      ∃ next, Eval.outcome (value.evaluate other >>= Eval.store target) right = (.ok (), next) ∧
        Beside number site operand target id after next := by
  cases field : operand.field? with
  | some price =>
    obtain ⟨path, span, rfl, isField⟩ := Expr.of_field? field
    obtain ⟨place, rfl⟩ := Expr.eq_name_of_shape same
    exact beside.price_assigned isField notField ran
  | none => exact beside.recorded_assigned field notField mirrors ran

theorem Lookback.of_bars_ok {lookback : Lookback} {count : Nat} {after : RunState}
    (ran : Eval.outcome (lookback.bars operand) left = (.ok count, after)) :
    after = left ∧ ∀ (name : String) (span : Span) (reached : RunState),
      reached.memory.isScalar name = false →
      Eval.outcome (lookback.bars (.name name span)) reached = (.ok count, reached) := by
  cases lookback with
  | indicator function positional named =>
    cases ran
    exact ⟨rfl, fun _ _ _ _ => rfl⟩
  | history offset =>
    obtain ⟨length, _, read, ran⟩ := Eval.of_outcome_bind_ok ran
    cases read
    obtain ⟨bars, _, counted, ran⟩ := Eval.of_outcome_bind_ok ran
    rw [Eval.outcome_lift] at counted
    obtain ⟨isCount, rfl⟩ := Prod.mk.inj counted
    obtain ⟨_, _, got, ran⟩ := Eval.of_outcome_bind_ok ran
    cases got
    obtain ⟨_, _, checked, ran⟩ := Eval.of_outcome_bind_ok ran
    rw [Eval.outcome_lift] at checked
    obtain ⟨_, rfl⟩ := Prod.mk.inj checked
    cases ran
    refine ⟨rfl, fun name span reached notScalar => ?_⟩
    have history : reached.memory.checkHistory (.name name span) = .ok () := by
      rw [Memory.checkHistory, notScalar]
      rfl
    have offsetRead : (Value.number offset).asNumber "[]" = .ok offset := rfl
    simp only [bars, Eval.historyBars, Eval.outcome_bind, Eval.outcome_lift, Eval.outcome_memory,
      offsetRead, isCount, history, Eval.outcome_pure]

theorem Settles.answer_mirrors {related : RunState → RunState → Prop} {own other : Nat}
    (settles : Settles related own other) (lookback : Lookback) (count : Nat)
    (series : Series Float) :
    Eval.Mirrors related (lookback.answer own count series)
      (lookback.answer other count series) := by
  cases lookback with
  | indicator function positional named =>
    simp only [Lookback.answer]
    cases Builtin.ofName? function with
    | none => exact Eval.mirrors_error (.undefinedFunction function) _
    | some builtin => exact settles.indicator_mirrors builtin [series] _
  | history offset => exact Eval.mirrors_pure _

/-- The plot in the first run looks back on the operand, and the plot in the second run on the
variable that the operand has been assigned to. -/
theorem Beside.plotted {context other : Context} (injective : Function.Injective number)
    (notField : PriceField.ofName? target = none) (notConstant : Value.constant? target = none)
    (same : value.shape = operand.shape)
    (mirrors : Eval.Mirrors (Beside number site operand target (Series.setNow · Numeral.nan))
      (operand.evaluate context) (value.evaluate other))
    {plotSite : Nat} (differs : plotSite ≠ site) {lookback : Lookback} {drawn shown : Expr}
    {place : Span}
    (draws : lookback.Draws drawn operand plotSite site)
    (shows : lookback.Draws shown (.name target place) (number plotSite) (number site))
    (beside : Beside number site operand target (Series.setNow · Numeral.nan) left right) :
    Eval.MirrorsAt (Beside number site operand target id) (drawn.evaluate context)
      (value.evaluate other >>= Eval.store target >>= fun _ => shown.evaluate context)
      left right := by
  intro result final ran
  rw [draws.evaluate] at ran
  obtain ⟨answered, afterAnswer, looks, applied⟩ := Eval.of_outcome_bind_ok ran
  obtain ⟨count, afterBars, counted, looks⟩ := Eval.of_outcome_bind_ok looks
  obtain ⟨series, afterSeries, taken, answers⟩ := Eval.of_outcome_bind_ok looks
  obtain ⟨unchanged, countsVariable⟩ := Lookback.of_bars_ok counted
  rw [unchanged] at taken
  obtain ⟨isLookedAt, named, assigned, besideNamed⟩ :=
    beside.operand_assigned same notField mirrors taken
  have visible : named.memory.isScalar target = false := by
    rw [Memory.isScalar, besideNamed.values]
  have takes : Eval.outcome (Eval.operand (number site) .first (.name target place)
      ((Expr.name target place).evaluate context)) named = (.ok series, named) := by
    have series? : named.memory.namedSeries? (.name target place) = some series := by
      rw [Memory.namedSeries?, Memory.numeric?, besideNamed.values, isLookedAt]
      rfl
    unfold Eval.operand
    rw [Eval.outcome_bind, Eval.outcome_memory]
    simp only [series?, Eval.outcome_pure]
  obtain ⟨reached, answersToo, besideReached⟩ :=
    (Beside.settles injective site).answer_mirrors lookback count series _ _ besideNamed _ _ answers
  have notInput {target? : Option String} {renumbered : Nat} : Builtin.plot = .input →
      target? = context.target ∧ renumbered = plotSite := by
    intro isInput
    cases isInput
  obtain ⟨next, appliesToo, besideNext⟩ :=
    (Beside.simulates injective notField notConstant).apply_mirrors rfl .plot differs notInput []
      _ _ _ besideReached _ _ applied
  refine ⟨next, ?_, besideNext⟩
  rw [Eval.outcome_bind, assigned, shows.evaluate]
  simp only [Eval.outcome_bind, countsVariable target place named visible, takes, answersToo]
  exact appliesToo

theorem Beside.operand_mirrors (injective : Function.Injective number)
    (notField : PriceField.ofName? target = none)
    (notConstant : Value.constant? target = none) (same : value.shape = operand.shape)
    (sites : value.sites = operand.sites.map number) (absent : site ∉ operand.sites)
    (quiet : ∀ call ∈ operand.calls, Builtin.ofName? call.function ≠ some .input)
    (overrides : Table String Float) :
    Eval.Mirrors (Beside number site operand target (Series.setNow · Numeral.nan))
      (operand.evaluate ⟨overrides, none⟩) (value.evaluate ⟨overrides, some target⟩) := by
  have simulates : Simulates number (· ≠ site) (· = target)
      (fun name => name ≠ target ∧ NotNamed operand name)
      (Beside number site operand target (Series.setNow · Numeral.nan)) :=
    Beside.simulates injective notField notConstant
  have overrides_eq : (⟨overrides, some target⟩ : Context).overrides =
      (⟨overrides, none⟩ : Context).overrides := rfl
  refine Expr.evaluate_mirrors_of_shape simulates overrides_eq same sites
    fun part member => ⟨?_, ?_⟩
  · rintro _ own rfl
    exact absent (List.mem_filterMap.mpr ⟨part, member, own⟩)
  · rintro call span rfl isInput
    refine absurd isInput (quiet call ?_)
    rw [Expr.calls_eq_filterMap]
    exact List.mem_filterMap.mpr ⟨_, member, rfl⟩

theorem Beside.statements_mirror {overrides : Table String Float} {before : List Statement}
    {drawn shown : Expr} {drawnSpan valueSpan shownSpan : Span}
    (injective : Function.Injective number) (notField : PriceField.ofName? target = none)
    (notConstant : Value.constant? target = none)
    (keeps : Keeps number (· ≠ site) (before.flatMap Statement.sites))
    (assigns : ∀ statement ∈ before, ∀ name ∈ statement.assigned,
      name ≠ target ∧ NotNamed operand name)
    (plots : ∀ left right,
      Beside number site operand target (Series.setNow · Numeral.nan) left right →
      Eval.MirrorsAt (Beside number site operand target id) (drawn.evaluate ⟨overrides, none⟩)
        (value.evaluate ⟨overrides, some target⟩ >>= Eval.store target >>= fun _ =>
          shown.evaluate ⟨overrides, none⟩) left right) :
    ∀ left right, Beside number site operand target (Series.setNow · Numeral.nan) left right →
      Eval.MirrorsAt (Beside number site operand target id)
        (executeAll overrides (before ++ [.expression drawn drawnSpan]))
        (executeAll overrides
          (before ++ [.assign target value valueSpan, .expression shown shownSpan]))
        left right := by
  intro left right beside
  have draws : executeAll overrides [.expression drawn drawnSpan] =
      drawn.evaluate ⟨overrides, none⟩ >>= fun _ => pure () := by
    simp only [executeAll, Statement.execute, bind_assoc, pure_bind]
  have names :
      executeAll overrides [.assign target value valueSpan, .expression shown shownSpan] =
        (value.evaluate ⟨overrides, some target⟩ >>= Eval.store target >>= fun _ =>
          shown.evaluate ⟨overrides, none⟩) >>= fun _ => pure () := by
    simp only [executeAll, Statement.execute, bind_assoc, pure_bind]
  rw [executeAll_append, executeAll_append, draws, names]
  have simulates : Simulates number (· ≠ site) (· = target)
      (fun name => name ≠ target ∧ NotNamed operand name)
      (Beside number site operand target (Series.setNow · Numeral.nan)) :=
    Beside.simulates injective notField notConstant
  have alike := executeAll_mirrors simulates keeps assigns overrides
  refine Eval.mirrorsAt_bind (alike left right beside) fun _ after reached besideThen => ?_
  exact Eval.mirrorsAt_bind (plots after reached besideThen) fun _ => Eval.mirrors_pure ()

end OnBar

/-! ## Before the first bar -/

theorem Memory.get?_empty (names : List String) (count : Nat) (name : String) :
    (Memory.empty names count).slots.get? name =
      if name ∈ names ∧ PriceField.ofName? name = none then some (.numeric []) else none := by
  split
  case isTrue known =>
    exact Table.get?_map_const _ _ _ (List.mem_filter.mpr ⟨known.1, by rw [known.2]; rfl⟩)
  case isFalse unknown =>
    refine Table.get?_eq_none_iff.mpr fun member => unknown ?_
    simp only [Memory.empty, List.map_map] at member
    obtain ⟨found, kept, rfl⟩ := List.mem_map.mp member
    obtain ⟨isName, notField⟩ := List.mem_filter.mp kept
    exact ⟨isName, Option.isNone_iff_eq_none.mp notField⟩

theorem Memory.site_empty (names : List String) (count site : Nat) :
    (Memory.empty names count).site site = .empty := by
  simp only [Memory.site, Memory.empty, Array.getD_eq_getD_getElem?, Array.getElem?_replicate]
  split <;> rfl

theorem Beside.initial {number : Nat → Nat} {site : Nat} {operand : Expr} {target : String}
    {script other : Script} (injective : Function.Injective number)
    (sameCount : other.program.siteCount = script.program.siteCount)
    (range : ∀ site, number site < script.program.siteCount ↔ site < script.program.siteCount)
    (present : site < script.program.siteCount)
    (names : ∀ name, name ∈ other.assignedNames ↔ name ∈ script.assignedNames ∨ name = target)
    (absent : target ∉ script.assignedNames) (notField : PriceField.ofName? target = none)
    (unnamed : ∀ path span, operand = .name path span → PriceField.ofName? path = none →
      path ∉ script.assignedNames)
    (plots : other.plots = script.plots.map fun plot => (number plot.1, plot.2)) :
    Beside number site operand target id script.initial other.initial where
  bars := rfl
  slots name differs := by
    simp only [Script.initial, Memory.get?_empty, names, differs, or_false]
  absent := by
    simp only [Script.initial, Memory.get?_empty, absent, false_and, if_false]
  unnamed path span isName := by
    simp only [Script.initial, Memory.get?_empty]
    refine if_neg fun known => ?_
    exact unnamed path span isName known.2 known.1
  sizes other := by
    simp only [Script.initial, Memory.empty, Array.size_replicate, sameCount, range]
  present := by
    simp only [Script.initial, Memory.empty, Array.size_replicate, present]
  results other := by
    simp only [Script.initial, Memory.site_empty]
  operands other _ which := by
    simp only [Script.initial, Memory.site_empty]
  values := by
    have nothing : script.initial.memory.lookedAt site operand = [] := by
      unfold Memory.lookedAt
      cases operand.field? with
      | some field => rfl
      | none => simp only [Script.initial, Memory.site_empty, SiteMemory.empty]
    rw [nothing]
    simp only [Script.initial, Memory.get?_empty, names, notField, or_true, and_self, if_true, id]
  recorder := Script.initial_recorder_of_plots injective plots

/-! ## Programs with a last part -/

namespace Program

/-- A program has the declaration and the statements of another one, and some more statements
after those. -/
structure Continues (program start : Program) (last : List Statement) : Prop where
  declaration : program.declaration = start.declaration
  statements : program.statements = start.statements ++ last

namespace Continues

variable {program start : Program} {last : List Statement}

theorem sites (continues : program.Continues start last) :
    program.sites = start.sites ++ last.flatMap Statement.sites := by
  rw [Program.sites, Program.sites, continues.declaration, continues.statements,
    List.flatMap_append, List.append_assoc]

theorem calls (continues : program.Continues start last) :
    program.calls = start.calls ++ last.flatMap Statement.calls := by
  rw [Program.calls, Program.calls, continues.declaration, continues.statements,
    List.flatMap_append, List.append_assoc]

theorem mem_assignedNames (continues : program.Continues start last) {name : String} :
    name ∈ program.assignedNames ↔
      name ∈ start.assignedNames ∨ name ∈ last.flatMap Statement.assigned := by
  simp only [assignedNames, List.mem_eraseDups, continues.statements, List.flatMap_append,
    List.mem_append]

theorem apart {tokens : List Token} (parsed : parseTokens tokens = .ok program)
    (continues : program.Continues start last) {plotSite site : Nat} {others : List Nat}
    (lastSites : last.flatMap Statement.sites = plotSite :: site :: others) :
    plotSite ≠ site ∧ site ∉ others ∧ site ∉ start.sites ∧ site < program.siteCount := by
  have numbered := numbered_of_parseTokens parsed
  have nodup := numbered.nodup
  have isLast : site ∈ plotSite :: site :: others := List.mem_cons_of_mem _ List.mem_cons_self
  have listed : site ∈ program.sites := by
    rw [continues.sites, lastSites]
    exact List.mem_append_right _ isLast
  rw [continues.sites, lastSites, List.nodup_append', List.nodup_cons, List.nodup_cons] at nodup
  obtain ⟨_, ⟨plotNew, siteNew, _⟩, disjoint⟩ := nodup
  refine ⟨?_, siteNew, fun early => disjoint early isLast, ?_⟩
  · rintro rfl
    exact plotNew List.mem_cons_self
  · exact List.mem_range.mp (numbered.perm_range.mem_iff.mp listed)

end Continues

/-- A one-to-one renumbering of the sites of one program as those of another one. Both begin alike,
and the last part of the first one has a site for a plot, one for what looks back, and others. -/
structure Pairing (number : Nat → Nat) (start recorded named : Program) (plotSite site : Nat)
    (others : List Nat) : Prop where
  injective : Function.Injective number
  counts : named.siteCount = recorded.siteCount
  range : ∀ site, number site < recorded.siteCount ↔ site < recorded.siteCount
  keeps : Keeps number (· ≠ site) start.sites
  differs : plotSite ≠ site
  absent : site ∉ others
  present : site < recorded.siteCount

theorem exists_pairing {tokens namedTokens : List Token} {start recorded named : Program}
    {last namedLast : List Statement} (parsed : parseTokens tokens = .ok recorded)
    (parsedNamed : parseTokens namedTokens = .ok named) (continues : recorded.Continues start last)
    (namedContinues : named.Continues start namedLast) {plotSite site shownSite namedSite : Nat}
    {others namedOthers : List Nat}
    (lastSites : last.flatMap Statement.sites = plotSite :: site :: others)
    (namedLastSites :
      (namedLast.flatMap Statement.sites).Perm (shownSite :: namedSite :: namedOthers))
    (lengths : namedOthers.length = others.length) :
    ∃ number, Pairing number start recorded named plotSite site others ∧
      number plotSite = shownSite ∧ number site = namedSite ∧
      others.map number = namedOthers := by
  obtain ⟨differs, absent, new, present⟩ := continues.apart parsed lastSites
  have perm := (numbered_of_parseTokens parsed).perm_range
  have namedPerm := (numbered_of_parseTokens parsedNamed).perm_range
  rw [continues.sites, lastSites] at perm
  rw [namedContinues.sites] at namedPerm
  have namedPerm := (namedLastSites.append_left start.sites).symm.trans namedPerm
  have counts : named.siteCount = recorded.siteCount := by
    have length := perm.length_eq
    have namedLength := namedPerm.length_eq
    simp only [List.length_append, List.length_cons, List.length_range] at length namedLength
    omega
  rw [counts] at namedPerm
  obtain ⟨number, injective, range, mapped⟩ := exists_injective_of_perm perm namedPerm
  rw [List.map_append] at mapped
  obtain ⟨kept, mapped⟩ := List.append_inj mapped (List.length_map _)
  obtain ⟨plotMapped, mapped⟩ := List.cons.inj mapped
  obtain ⟨siteMapped, othersMapped⟩ := List.cons.inj mapped
  have keeps : Keeps number (· ≠ site) start.sites := by
    intro early member
    refine ⟨?_, List.map_inj_left.mp (kept.trans (List.map_id _).symm) early member⟩
    rintro rfl
    exact new member
  exact ⟨number, ⟨injective, counts, range, keeps, differs, absent, present⟩, plotMapped,
    siteMapped, othersMapped⟩

theorem plots_of_keeps {start : Program} {number : Nat → Nat} {shared : Nat → Prop}
    (keeps : Keeps number shared start.sites) :
    (start.calls.filterMap Call.plot?).map (fun plot => (number plot.1, plot.2)) =
      start.calls.filterMap Call.plot? := by
  rw [List.map_filterMap]
  refine List.filterMap_congr fun call member => ?_
  have own : number call.site = call.site := (keeps call.site (site_mem_sites member)).2
  unfold Call.plot?
  split
  · rw [Option.map_some, own]
  · rfl

section Pairing

variable {start recorded named : Program} {operand value drawn shown : Expr} {name : String}
  {lookback : Lookback} {drawnSpan valueSpan shownSpan place : Span} {number : Nat → Nat}
  {plotSite site : Nat}
  (continues : recorded.Continues start [.expression drawn drawnSpan])
  (namedContinues :
    named.Continues start [.assign name value valueSpan, .expression shown shownSpan])

include continues namedContinues

/-- All calls resolve that are left where an operand has got a name. -/
theorem resolves_of_named (draws : drawn.shape = Lookback.plotted (lookback.on value.shape))
    (shows : shown.shape = Lookback.plotted (lookback.on (.name name .nowhere)))
    (resolves : ∀ call ∈ recorded.calls, call.Resolves) :
    ∀ call ∈ named.calls, call.Resolves := by
  let known (signature : String × Nat) : Prop :=
    ∃ builtin, Builtin.ofName? signature.1 = some builtin ∧ builtin.minArguments ≤ signature.2
  have all : ∀ call ∈ recorded.calls, known call.signature := resolves
  show ∀ call ∈ named.calls, known call.signature
  rw [continues.calls, List.forall_mem_append, List.flatMap_singleton] at all
  obtain ⟨early, late⟩ := all
  obtain ⟨plots, looks, evaluates⟩ := (Lookback.forall_calls_plotted draws).mp late
  rw [namedContinues.calls, List.forall_mem_append, List.flatMap_cons, List.flatMap_singleton,
    List.forall_mem_append]
  refine ⟨early, Expr.forall_calls_shape.mp evaluates, ?_⟩
  exact (Lookback.forall_calls_plotted shows).mpr ⟨plots, looks, nofun⟩

theorem exists_pairing_of_draws {tokens namedTokens : List Token} {shownSite namedSite : Nat}
    (parsed : parseTokens tokens = .ok recorded) (parsedNamed : parseTokens namedTokens = .ok named)
    (same : operand.shape = value.shape) (records : lookback.Draws drawn operand plotSite site)
    (loads : lookback.Draws shown (.name name place) shownSite namedSite) :
    ∃ number, Pairing number start recorded named plotSite site operand.sites ∧
      number plotSite = shownSite ∧ number site = namedSite ∧
      operand.sites.map number = value.sites := by
  have lastSites : [Statement.expression drawn drawnSpan].flatMap Statement.sites =
      plotSite :: site :: operand.sites := by
    rw [List.flatMap_singleton, ← records.sites]
    rfl
  have shownSites : (Statement.expression shown shownSpan).sites = [shownSite, namedSite] :=
    loads.sites
  -- The operand of the second program comes before its plot.
  have namedLastSites :
      ([Statement.assign name value valueSpan, .expression shown shownSpan].flatMap
        Statement.sites).Perm (shownSite :: namedSite :: value.sites) := by
    rw [List.flatMap_cons, List.flatMap_singleton, shownSites]
    exact List.perm_append_comm
  exact exists_pairing parsed parsedNamed continues namedContinues lastSites namedLastSites
    (Expr.length_sites_of_shape same).symm

theorem plots_of_draws (keeps : Keeps number (· ≠ site) start.sites)
    (records : lookback.Draws drawn operand plotSite site)
    (loads : lookback.Draws shown (.name name place) (number plotSite) (number site))
    (quietOperand : ∀ call ∈ operand.calls, Builtin.ofName? call.function ≠ some .plot)
    (quietValue : ∀ call ∈ value.calls, Builtin.ofName? call.function ≠ some .plot) :
    named.calls.filterMap Call.plot? =
      (recorded.calls.filterMap Call.plot?).map fun plot => (number plot.1, plot.2) := by
  have drawnPlots : (Statement.expression drawn drawnSpan).calls.filterMap Call.plot? =
      [(plotSite, none)] := records.plots quietOperand
  have shownPlots : (Statement.expression shown shownSpan).calls.filterMap Call.plot? =
      [(number plotSite, none)] := loads.plots nofun
  have valuePlots : (Statement.assign name value valueSpan).calls.filterMap Call.plot? = [] :=
    List.filterMap_eq_nil_iff.mpr fun call member => if_neg (quietValue call member)
  rw [continues.calls, namedContinues.calls, List.flatMap_singleton, List.flatMap_cons,
    List.flatMap_singleton, List.filterMap_append, List.filterMap_append, List.filterMap_append,
    drawnPlots, shownPlots, valuePlots, List.map_append, plots_of_keeps keeps]
  rfl

theorem Pairing.statements_mirror
    (pairing : Pairing number start recorded named plotSite site operand.sites)
    (same : value.shape = operand.shape) (sites : value.sites = operand.sites.map number)
    (records : lookback.Draws drawn operand plotSite site)
    (loads : lookback.Draws shown (.name name place) (number plotSite) (number site))
    (unnamed : ∀ path span, operand = .name path span → PriceField.ofName? path = none →
      path ∉ start.assignedNames)
    (quiet : ∀ call ∈ operand.calls, Builtin.ofName? call.function ≠ some .input)
    (fresh : name ∉ start.assignedNames) (notField : PriceField.ofName? name = none)
    (notConstant : Value.constant? name = none) (overrides : Table String Float)
    (left right : RunState)
    (beside : Beside number site operand name (Series.setNow · Numeral.nan) left right) :
    Eval.MirrorsAt (Beside number site operand name id)
      (executeAll overrides recorded.statements) (executeAll overrides named.statements)
      left right := by
  have keeps := pairing.keeps
  rw [Program.sites, Keeps.append] at keeps
  have assigns : ∀ statement ∈ start.statements, ∀ assigned ∈ statement.assigned,
      assigned ≠ name ∧ NotNamed operand assigned := by
    intro statement member assigned isAssigned
    have known : assigned ∈ start.assignedNames :=
      mem_assignedNames.mpr ⟨statement, member, isAssigned⟩
    refine ⟨?_, ?_⟩
    · rintro rfl
      exact fresh known
    · rintro path span isName isUnknown rfl
      exact unnamed _ span isName isUnknown known
  have mirrors := Beside.operand_mirrors pairing.injective notField notConstant same sites
    pairing.absent quiet overrides
  rw [continues.statements, namedContinues.statements]
  refine Beside.statements_mirror pairing.injective notField notConstant keeps.2 assigns ?_
    left right beside
  exact fun _ _ reached => reached.plotted pairing.injective notField notConstant same mirrors
    pairing.differs records loads

theorem Pairing.initial
    (pairing : Pairing number start recorded named plotSite site operand.sites)
    (unnamed : ∀ path span, operand = .name path span → PriceField.ofName? path = none →
      path ∉ start.assignedNames)
    (fresh : name ∉ start.assignedNames) (notField : PriceField.ofName? name = none)
    {plots namedPlots : List (Nat × Option String)}
    (samePlots : namedPlots = plots.map fun plot => (number plot.1, plot.2)) :
    Beside number site operand name id
      (Script.initial ⟨recorded, recorded.assignedNames, plots⟩)
      (Script.initial ⟨named, named.assignedNames, namedPlots⟩) := by
  have recordedNames (other : String) :
      other ∈ recorded.assignedNames ↔ other ∈ start.assignedNames := by
    rw [continues.mem_assignedNames, List.flatMap_singleton]
    exact or_iff_left List.not_mem_nil
  have namedNames (other : String) :
      other ∈ named.assignedNames ↔ other ∈ recorded.assignedNames ∨ other = name := by
    rw [namedContinues.mem_assignedNames, recordedNames, List.flatMap_cons, List.flatMap_singleton]
    exact or_congr_right List.mem_singleton
  refine Beside.initial pairing.injective pairing.counts pairing.range pairing.present namedNames
    (mt (recordedNames name).mp fresh) notField (fun path span isName isUnknown => ?_) samePlots
  exact mt (recordedNames path).mp (unnamed path span isName isUnknown)

theorem Pairing.heading_mirrors {view : Series Float → Series Float}
    (pairing : Pairing number start recorded named plotSite site operand.sites)
    (notField : PriceField.ofName? name = none) (notConstant : Value.constant? name = none)
    (overrides : Table String Float) {plots namedPlots : List (Nat × Option String)} :
    Eval.Mirrors (Beside number site operand name view)
      (Script.heading ⟨recorded, recorded.assignedNames, plots⟩ overrides)
      (Script.heading ⟨named, named.assignedNames, namedPlots⟩ overrides) := by
  have simulates : Simulates number (· ≠ site) (· = name)
      (fun other => other ≠ name ∧ NotNamed operand other)
      (Beside number site operand name view) :=
    Beside.simulates pairing.injective notField notConstant
  have same : named.declaration = recorded.declaration :=
    namedContinues.declaration.trans continues.declaration.symm
  refine Script.heading_mirrors simulates same (fun declaration declared => ?_) overrides
  have keeps := pairing.keeps
  rw [Program.sites, Keeps.append, ← continues.declaration, declared] at keeps
  exact keeps.1

end Pairing

/-- A plot of what looks back on an operand, at the end of a program, can look back on a new
variable that the operand has been assigned to. Then the charts are the same. The operand is not
itself a variable, and it has no plots and no inputs. -/
theorem execute_named {tokens others : List Token} {start recorded named : Program}
    {value drawn shown : Expr} {name : String} {lookback : Lookback}
    {drawnSpan valueSpan shownSpan : Span} (parsed : parseTokens tokens = .ok recorded)
    (parsedNamed : parseTokens others = .ok named)
    (continues : recorded.Continues start [.expression drawn drawnSpan])
    (namedContinues :
      named.Continues start [.assign name value valueSpan, .expression shown shownSpan])
    (draws : drawn.shape = Lookback.plotted (lookback.on value.shape))
    (shows : shown.shape = Lookback.plotted (lookback.on (.name name .nowhere)))
    (readsOne : lookback.ReadsOne)
    (notVariable : ∀ path span, value = .name path span → PriceField.ofName? path = none →
      path ∉ start.assignedNames)
    (quiet : ∀ call ∈ value.calls, Builtin.ofName? call.function ≠ some .plot ∧
      Builtin.ofName? call.function ≠ some .input)
    (fresh : name ∉ start.assignedNames) (notField : PriceField.ofName? name = none)
    (notConstant : Value.constant? name = none) (window : List Candle)
    (overrides : Table String Float) (chart : Chart)
    (ran : recorded.execute window overrides = .ok chart) :
    named.execute window overrides = .ok chart := by
  obtain ⟨plotSite, site, operand, sameOperand, records⟩ := Lookback.exists_draws readsOne draws
  obtain ⟨shownSite, namedSite, target, sameTarget, loads⟩ := Lookback.exists_draws readsOne shows
  obtain ⟨place, rfl⟩ := Expr.eq_name_of_shape sameTarget
  obtain ⟨number, pairing, rfl, rfl, valueSites⟩ := exists_pairing_of_draws continues
    namedContinues parsed parsedNamed sameOperand records loads
  have unnamed : ∀ path span, operand = .name path span → PriceField.ofName? path = none →
      path ∉ start.assignedNames := by
    rintro path span rfl
    obtain ⟨valueSpan, rfl⟩ := Expr.eq_name_of_shape sameOperand.symm
    exact notVariable path valueSpan rfl
  have quietOperand : ∀ call ∈ operand.calls, Builtin.ofName? call.function ≠ some .plot ∧
      Builtin.ofName? call.function ≠ some .input := by
    let isQuiet (signature : String × Nat) : Prop :=
      Builtin.ofName? signature.1 ≠ some .plot ∧ Builtin.ofName? signature.1 ≠ some .input
    have quietShape : ∀ call ∈ value.shape.calls, isQuiet call.signature :=
      Expr.forall_calls_shape.mpr quiet
    exact Expr.forall_calls_shape.mp (sameOperand ▸ quietShape)
  obtain ⟨script, prepared, ran⟩ := of_bind_ok ran
  have resolves := resolves_of_named continues namedContinues draws shows
    (resolves_of_prepare prepared)
  obtain rfl := eq_of_prepare prepared
  have plots := plots_of_draws continues namedContinues pairing.keeps records loads
    (fun call member => (quietOperand call member).1) fun call member => (quiet call member).1
  have initial := pairing.initial continues namedContinues unnamed fresh notField plots
  have executes := pairing.statements_mirror continues namedContinues sameOperand.symm
    valueSites.symm records loads unnamed (fun call member => (quietOperand call member).2) fresh
    notField notConstant overrides
  rw [execute, prepare_of_resolves resolves]
  refine Script.run_eq_of_mirrors ?_ initial Beside.bars Beside.recorder ran
  refine Script.runWindow_mirrors (fun _ _ candle beside => beside.openBar candle) executes ?_ ?_ _
  · exact pairing.heading_mirrors continues namedContinues notField notConstant overrides
  · exact pairing.heading_mirrors continues namedContinues notField notConstant overrides

/-- Plots an average of a comparison. -/
def averageSource : String :=
  "n = 2\nplot(ema(close > n, 2))"

def namedSource : String :=
  "n = 2\nv = close > n\nplot(ema(v, 2))"

/-- Two programs are those of the two sources, up to sites and to places in the last part. -/
def comparesAlike (recorded named : Program) : Bool :=
  match recorded.declaration, recorded.statements, named.declaration, named.statements with
  | none, [.assign first (.number bound place) span,
      .expression (.call (.mk plot _ [.call (.mk average _
        [.binary (.name left _) op (.name right _) _, .number length _] []) _] []) _) _],
    none, [.assign sameFirst (.number sameBound samePlace) sameSpan,
      .assign name (.binary (.name sameLeft _) sameOp (.name sameRight _) _) _,
      .expression (.call (.mk samePlot _ [.call (.mk sameAverage _
        [.name read _, .number sameLength _] []) _] []) _) _] =>
    decide (first = "n" ∧ sameFirst = "n" ∧ sameBound = bound ∧ samePlace = place ∧
      sameSpan = span ∧ left = "close" ∧ sameLeft = "close" ∧ sameOp = op ∧ right = "n" ∧
      sameRight = "n" ∧ name = "v" ∧ read = "v" ∧ plot = "plot" ∧ samePlot = "plot" ∧
      average = "ema" ∧ sameAverage = "ema" ∧ length = 2 ∧ sameLength = 2)
  | _, _, _, _ => false

theorem execute_named_average :
    ∃ tokens others recorded named chart,
      tokenize averageSource = .ok tokens ∧ parseTokens tokens = .ok recorded ∧
      tokenize namedSource = .ok others ∧ parseTokens others = .ok named ∧
      recorded.execute Script.risingCandles [] = .ok chart ∧
      named.execute Script.risingCandles [] = .ok chart := by
  have reads : (tokenize averageSource).toOption.any fun tokens =>
      (parseTokens tokens).toOption.any fun recorded =>
      (tokenize namedSource).toOption.any fun others =>
      (parseTokens others).toOption.any fun named =>
        comparesAlike recorded named && (recorded.execute Script.risingCandles []).isOk := by
    decide +kernel
  obtain ⟨tokens, scanned, reads⟩ := of_toOption_any reads
  obtain ⟨recorded, parsed, reads⟩ := of_toOption_any reads
  obtain ⟨others, scannedNamed, reads⟩ := of_toOption_any reads
  obtain ⟨named, parsedNamed, reads⟩ := of_toOption_any reads
  obtain ⟨alike, succeeds⟩ := Bool.and_eq_true_iff.mp reads
  cases ran : recorded.execute Script.risingCandles [] with
  | error failure =>
    rw [ran] at succeeds
    cases succeeds
  | ok chart =>
    refine ⟨tokens, others, recorded, named, chart, scanned, parsed, scannedNamed, parsedNamed,
      ran, ?_⟩
    unfold comparesAlike at alike
    split at alike
    case h_2 => cases alike
    case h_1 declared statements namedDeclared namedStatements =>
      obtain ⟨rfl, rfl, rfl, rfl, rfl, rfl, rfl, rfl, rfl, rfl, rfl, rfl, rfl, rfl, rfl, rfl, rfl,
        rfl⟩ := of_decide_eq_true alike
      have readsOne : (Lookback.indicator "ema" [2] []).ReadsOne := ⟨.ema, rfl, rfl⟩
      have fresh {program : Program} (only : program.assignedNames = ["n"]) :
          "v" ∉ program.assignedNames := by
        rw [only]
        decide
      exact execute_named parsed parsedNamed
        (⟨declared, statements⟩ :
          recorded.Continues ⟨recorded.version, none, [_], 0⟩ [.expression _ _])
        ⟨namedDeclared, namedStatements⟩ rfl rfl readsOne (fun _ _ same => by cases same)
        (fun _ member => absurd member List.not_mem_nil) (fresh rfl) rfl rfl
        Script.risingCandles [] chart ran

end Program

end ChartScript
