import ChartScript.Proofs.Renumbering
import ChartScript.Proofs.Resolution

/-!
# Looking back on an operand

An indicator with literal numbers behind its series and a reference to a literal number of bars
before look back on one operand. `Lookback.evaluate_eq` says what either does with the operand, and
`Lookback.Draws` what a plot of it does.
-/

set_option autoImplicit false

namespace ChartScript

namespace Expr

variable {expr : Expr}

theorem eq_name_of_shape {path : String} (same : expr.shape = .name path .nowhere) :
    ∃ span, expr = .name path span := by
  cases expr with
  | name known span =>
    cases same
    exact ⟨span, rfl⟩
  | _ => cases same

theorem eq_number_of_shape {value : Float} (same : expr.shape = .number value .nowhere) :
    ∃ span, expr = .number value span := by
  cases expr with
  | number known span =>
    cases same
    exact ⟨span, rfl⟩
  | _ => cases same

theorem eq_history_of_shape {series offset : Expr}
    (same : expr.shape = .history series offset 0 .nowhere) :
    ∃ first second site span, expr = .history first second site span ∧
      first.shape = series ∧ second.shape = offset := by
  cases expr with
  | history first second site span =>
    obtain ⟨sameSeries, sameOffset, _⟩ := Expr.history.inj same
    exact ⟨first, second, site, span, rfl, sameSeries, sameOffset⟩
  | _ => cases same

theorem eq_call_of_shape {function : String} {arguments : List Expr} {named : List NamedArgument}
    (same : expr.shape = .call (.mk function 0 arguments named) .nowhere) :
    ∃ site passed namedPassed span, expr = .call (.mk function site passed namedPassed) span ∧
      passed.map shape = arguments ∧ namedPassed.map NamedArgument.shape = named := by
  cases expr with
  | call call span =>
    obtain ⟨known, site, passed, namedPassed⟩ := call
    rw [shape_call] at same
    obtain ⟨rfl, _, sameArguments, sameNamed⟩ := Call.mk.inj (Expr.call.inj same).1
    exact ⟨site, passed, namedPassed, span, rfl, sameArguments, sameNamed⟩
  | _ => cases same

end Expr

/-! ## Looking back -/

/-- A way to look back on an operand: an indicator with literal numbers behind the operand, or a
reference to a literal number of bars before. -/
inductive Lookback where
  | indicator (function : String) (positional : List Float) (named : List (String × Float))
  | history (offset : Float)

namespace Lookback

def literal (value : Float) : Expr :=
  .number value .nowhere

def namedLiteral (argument : String × Float) : NamedArgument :=
  .mk argument.1 (literal argument.2) .nowhere

/-- The shape of an expression that looks back on an operand. -/
def on : Lookback → Expr → Expr
  | indicator function positional named, operand =>
    .call (.mk function 0 (operand :: positional.map literal) (named.map namedLiteral)) .nowhere
  | history offset, operand => .history operand (literal offset) 0 .nowhere

/-- An indicator is the average of a series or another function that reads just one. -/
def ReadsOne : Lookback → Prop
  | indicator function _ _ =>
    ∃ builtin, Builtin.ofName? function = some builtin ∧ builtin.seriesArity = 1
  | history _ => True

/-- The shape of a call that plots a value and passes nothing else. -/
def plotted (value : Expr) : Expr :=
  .call (.mk "plot" 0 [value] []) .nowhere

/-- What is checked before the operand is looked back on: how many bars. -/
def bars (operand : Expr) : Lookback → Eval Nat
  | indicator _ _ _ => pure 0
  | history offset => Eval.historyBars operand (.number offset)

def arguments (function : String) (positional : List Float) (named : List (String × Float)) :
    Arguments where
  function := function
  positional := none :: positional.map fun value => some (.number value)
  named := named.map fun argument => (argument.1, .number argument.2)

/-- What comes of the series that is looked back on. -/
def answer (site bars : Nat) (series : Series Float) : Lookback → Eval Value
  | indicator function positional named =>
    match Builtin.ofName? function with
    | none => throw (.undefinedFunction function)
    | some builtin =>
      Eval.indicator builtin site [series] (arguments function positional named)
  | history _ => pure (.number (series.before bars))

theorem evaluatePositional_literals (context : Context) {values : List Float}
    {numbers : List Expr} (same : numbers.map Expr.shape = values.map literal) :
    Expr.evaluatePositional context 0 numbers =
      pure (values.map fun value => some (.number value)) := by
  induction values generalizing numbers with
  | nil =>
    rw [List.map_eq_nil_iff.mp same]
    rfl
  | cons value rest ih =>
    obtain ⟨first, others, rfl, sameFirst, sameOthers⟩ := List.map_eq_cons_iff.mp same
    obtain ⟨span, rfl⟩ := Expr.eq_number_of_shape sameFirst
    rw [Expr.evaluatePositional, ih sameOthers]
    rfl

theorem evaluateAll_literals (context : Context) {values : List (String × Float)}
    {named : List NamedArgument}
    (same : named.map NamedArgument.shape = values.map namedLiteral) :
    NamedArgument.evaluateAll context named =
      pure (values.map fun argument => (argument.1, .number argument.2)) := by
  induction values generalizing named with
  | nil =>
    rw [List.map_eq_nil_iff.mp same]
    rfl
  | cons value rest ih =>
    obtain ⟨⟨name, first, span⟩, others, rfl, sameFirst, sameOthers⟩ :=
      List.map_eq_cons_iff.mp same
    obtain ⟨rfl, sameFirst, _⟩ := NamedArgument.mk.inj sameFirst
    obtain ⟨span, rfl⟩ := Expr.eq_number_of_shape sameFirst
    rw [NamedArgument.evaluateAll, ih sameOthers]
    rfl

theorem sites_literals {values : List Float} {numbers : List Expr}
    (same : numbers.map Expr.shape = values.map literal) : numbers.flatMap Expr.sites = [] := by
  refine List.flatMap_eq_nil_iff.mpr fun number member => ?_
  obtain ⟨value, _, literal⟩ := List.mem_map.mp (same ▸ List.mem_map_of_mem member)
  obtain ⟨span, rfl⟩ := Expr.eq_number_of_shape literal.symm
  rfl

theorem sites_namedLiterals {values : List (String × Float)} {named : List NamedArgument}
    (same : named.map NamedArgument.shape = values.map namedLiteral) :
    named.flatMap (·.value.sites) = [] := by
  refine List.flatMap_eq_nil_iff.mpr fun ⟨name, number, place⟩ member => ?_
  obtain ⟨value, _, literal⟩ := List.mem_map.mp (same ▸ List.mem_map_of_mem member)
  obtain ⟨_, literal, _⟩ := NamedArgument.mk.inj literal
  obtain ⟨span, rfl⟩ := Expr.eq_number_of_shape literal.symm
  rfl

/-- What looks back on an operand evaluates the operand for its own site. -/
theorem evaluate_eq {lookback : Lookback} (readsOne : lookback.ReadsOne) {look operand : Expr}
    (same : look.shape = lookback.on operand) :
    ∃ (site : Nat) (expr : Expr), expr.shape = operand ∧ look.sites = site :: expr.sites ∧
      ∀ context, look.evaluate context =
        lookback.bars expr >>= fun bars =>
          Eval.operand site .first expr (expr.evaluate context) >>= fun series =>
            lookback.answer site bars series := by
  cases lookback with
  | indicator function positional named =>
    obtain ⟨site, passed, namedPassed, span, rfl, samePassed, sameNamed⟩ :=
      Expr.eq_call_of_shape same
    obtain ⟨expr, numbers, rfl, sameExpr, sameNumbers⟩ := List.map_eq_cons_iff.mp samePassed
    refine ⟨site, expr, sameExpr, ?_, fun context => ?_⟩
    · rw [Expr.sites_call, Call.sites_mk, List.flatMap_cons, sites_literals sameNumbers,
        sites_namedLiterals sameNamed, List.append_nil, List.append_nil]
    · obtain ⟨builtin, found, single⟩ := readsOne
      have operands : builtin.operands = [.first] := by
        rw [Builtin.operands, single]
        rfl
      have isSeries : builtin.isSeries = true := by
        rw [Builtin.isSeries, single]
        rfl
      rw [Expr.evaluate, Call.evaluate, found]
      simp only [operands, single, Expr.evaluateSources, Expr.evaluatePositional,
        evaluatePositional_literals context sameNumbers, evaluateAll_literals context sameNamed,
        Builtin.apply, isSeries, bars, answer, found, pure_bind, bind_assoc, if_true]
      rfl
  | history offset =>
    obtain ⟨expr, number, site, span, rfl, sameExpr, sameNumber⟩ := Expr.eq_history_of_shape same
    obtain ⟨place, rfl⟩ := Expr.eq_number_of_shape sameNumber
    refine ⟨site, expr, sameExpr, ?_, fun context => ?_⟩
    · rw [Expr.sites_history]
      exact congrArg (site :: ·) (List.append_nil _)
    · simp only [Expr.evaluate, bars, answer, pure_bind]

/-- A plot evaluates what is plotted and then draws. -/
theorem evaluate_plotted {drawn value : Expr} (same : drawn.shape = plotted value) :
    ∃ (site : Nat) (look : Expr), look.shape = value ∧ drawn.sites = site :: look.sites ∧
      drawn.calls.filterMap Call.plot? = (site, none) :: look.calls.filterMap Call.plot? ∧
      ∀ context, drawn.evaluate context =
        look.evaluate context >>= fun value =>
          Builtin.plot.apply context site [] ⟨"plot", [some value], []⟩ := by
  obtain ⟨site, passed, named, span, rfl, samePassed, sameNamed⟩ := Expr.eq_call_of_shape same
  obtain ⟨look, others, rfl, sameLook, sameOthers⟩ := List.map_eq_cons_iff.mp samePassed
  obtain rfl := List.map_eq_nil_iff.mp sameOthers
  obtain rfl := List.map_eq_nil_iff.mp sameNamed
  refine ⟨site, look, sameLook, ?_, ?_, fun context => ?_⟩
  · rw [Expr.sites_call, Call.sites_mk, List.flatMap_singleton]
    exact congrArg (site :: ·) (List.append_nil _)
  · simp only [Expr.calls, Call.inner, Expr.callsOfAll, NamedArgument.callsOfAll, List.append_nil]
    rfl
  · rw [Expr.evaluate, Call.evaluate]
    have found : Builtin.ofName? "plot" = some .plot := rfl
    have operands : Builtin.plot.operands = [] := rfl
    have arity : Builtin.plot.seriesArity = 0 := rfl
    simp only [found, operands, arity, Expr.evaluateSources, Expr.evaluatePositional,
      NamedArgument.evaluateAll, pure_bind, bind_assoc]

end Lookback

/-! ## Calls of one shape -/

/-- What decides whether a call resolves. -/
def Call.signature (call : Call) : String × Nat :=
  (call.function, call.argumentCount)

theorem Expr.signatures_shape (expr : Expr) :
    expr.shape.calls.map Call.signature = expr.calls.map Call.signature := by
  rw [calls_eq_filterMap, calls_eq_filterMap, shape, parts_relabel, List.filterMap_map,
    List.map_filterMap, List.map_filterMap]
  refine List.filterMap_congr fun part _ => ?_
  cases part with
  | call call span =>
    obtain ⟨function, site, arguments, named⟩ := call
    simp only [Function.comp_apply, relabel, Call.relabel, call?, Option.map_some, Call.signature,
      Call.function, Call.argumentCount, Call.arguments, Call.named, relabelAll_eq_map,
      NamedArgument.relabelAll_eq_map, List.length_map]
  | _ => rfl

theorem Expr.forall_calls_shape {property : String × Nat → Prop} {expr : Expr} :
    (∀ call ∈ expr.shape.calls, property call.signature) ↔
      ∀ call ∈ expr.calls, property call.signature := by
  have mapped (calls : List Call) : (∀ call ∈ calls, property call.signature) ↔
      ∀ signature ∈ calls.map Call.signature, property signature := List.forall_mem_map.symm
  rw [mapped, mapped, expr.signatures_shape]

namespace Lookback

variable {property : String × Nat → Prop}

def signature? : Lookback → Option (String × Nat)
  | indicator function positional named =>
    some (function, positional.length + 1 + named.length)
  | history _ => none

theorem calls_literals (positional : List Float) :
    Expr.callsOfAll (positional.map literal) = [] := by
  rw [Expr.callsOfAll_eq_flatMap, List.flatMap_map]
  exact List.flatMap_eq_nil_iff.mpr fun _ _ => rfl

theorem calls_namedLiterals (named : List (String × Float)) :
    NamedArgument.callsOfAll (named.map namedLiteral) = [] := by
  rw [NamedArgument.callsOfAll_eq_flatMap, List.flatMap_map]
  exact List.flatMap_eq_nil_iff.mpr fun _ _ => rfl

theorem forall_calls_on {lookback : Lookback} {operand : Expr} :
    (∀ call ∈ (lookback.on operand).calls, property call.signature) ↔
      (∀ signature ∈ lookback.signature?, property signature) ∧
      ∀ call ∈ operand.calls, property call.signature := by
  cases lookback with
  | indicator function positional named =>
    have calls : ((indicator function positional named).on operand).calls =
        .mk function 0 (operand :: positional.map literal) (named.map namedLiteral) ::
          operand.calls := by
      rw [on, Expr.calls, Call.inner, Expr.callsOfAll, calls_literals, calls_namedLiterals,
        List.append_nil, List.append_nil]
    have own : (Call.mk function 0 (operand :: positional.map literal)
        (named.map namedLiteral)).signature =
          (function, positional.length + 1 + named.length) := by
      simp only [Call.signature, Call.function, Call.argumentCount, Call.arguments, Call.named,
        List.length_cons, List.length_map]
    rw [calls, List.forall_mem_cons, own]
    simp only [signature?, Option.mem_some_iff, forall_eq']
  | history offset =>
    have calls : ((history offset).on operand).calls = operand.calls :=
      List.append_nil operand.calls
    simp only [calls, signature?, Option.not_mem_none, false_implies, implies_true, true_and]

theorem forall_calls_plotted {lookback : Lookback} {drawn operand : Expr}
    (same : drawn.shape = plotted (lookback.on operand)) :
    (∀ call ∈ drawn.calls, property call.signature) ↔
      property ("plot", 1) ∧ (∀ signature ∈ lookback.signature?, property signature) ∧
      ∀ call ∈ operand.calls, property call.signature := by
  have calls : (plotted (lookback.on operand)).calls =
      .mk "plot" 0 [lookback.on operand] [] :: (lookback.on operand).calls := by
    simp only [plotted, Expr.calls, Call.inner, Expr.callsOfAll, NamedArgument.callsOfAll,
      List.append_nil]
  have own : (Call.mk "plot" 0 [lookback.on operand] []).signature = ("plot", 1) := rfl
  rw [← Expr.forall_calls_shape, same, calls, List.forall_mem_cons, forall_calls_on, own]

/-- Nothing but the outer call plots, if the operand does not. -/
theorem plots_plotted {lookback : Lookback} (readsOne : lookback.ReadsOne) {look value : Expr}
    (same : look.shape = lookback.on value.shape)
    (quiet : ∀ call ∈ value.calls, Builtin.ofName? call.function ≠ some .plot) :
    look.calls.filterMap Call.plot? = [] := by
  let notPlot (signature : String × Nat) : Prop := Builtin.ofName? signature.1 ≠ some .plot
  have quietOn : ∀ call ∈ (lookback.on value.shape).calls, notPlot call.signature := by
    refine forall_calls_on.mpr ⟨?_, Expr.forall_calls_shape.mpr quiet⟩
    cases lookback with
    | history offset => exact nofun
    | indicator function positional named =>
      rintro _ ⟨⟩ isPlot
      obtain ⟨builtin, found, single⟩ := readsOne
      cases found.symm.trans isPlot
      cases single
  have quietLook : ∀ call ∈ look.calls, notPlot call.signature :=
    Expr.forall_calls_shape.mp (same ▸ quietOn)
  exact List.filterMap_eq_nil_iff.mpr fun call member => if_neg (quietLook call member)

end Lookback

namespace Lookback

/-- A plot of what looks back on an operand. The plot has a site, and what looks back has one. -/
structure Draws (lookback : Lookback) (drawn operand : Expr) (plotSite site : Nat) : Prop where
  sites : drawn.sites = plotSite :: site :: operand.sites
  plots : (∀ call ∈ operand.calls, Builtin.ofName? call.function ≠ some .plot) →
    drawn.calls.filterMap Call.plot? = [(plotSite, none)]
  evaluate : ∀ context, drawn.evaluate context =
    (lookback.bars operand >>= fun bars =>
      Eval.operand site .first operand (operand.evaluate context) >>= fun series =>
        lookback.answer site bars series) >>= fun value =>
          Builtin.plot.apply context plotSite [] ⟨"plot", [some value], []⟩

theorem exists_draws {lookback : Lookback} (readsOne : lookback.ReadsOne) {drawn operand : Expr}
    (same : drawn.shape = plotted (lookback.on operand)) :
    ∃ plotSite site expr, expr.shape = operand ∧ lookback.Draws drawn expr plotSite site := by
  obtain ⟨plotSite, look, sameLook, drawnSites, drawnPlots, evaluateDrawn⟩ := evaluate_plotted same
  obtain ⟨site, expr, sameExpr, lookSites, evaluateLook⟩ := evaluate_eq readsOne sameLook
  refine ⟨plotSite, site, expr, sameExpr, ?_, fun quiet => ?_, fun context => ?_⟩
  · rw [drawnSites, lookSites]
  · rw [drawnPlots, plots_plotted readsOne (sameExpr ▸ sameLook) quiet]
  · rw [evaluateDrawn, evaluateLook]

end Lookback

end ChartScript
