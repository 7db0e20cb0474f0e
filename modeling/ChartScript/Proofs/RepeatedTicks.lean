import ChartScript.Proofs.InputOffers
import ChartScript.Proofs.WorkspaceHistory

/-!
# The same tick twice

A run leaves the defaults it has listed behind as values, so the next run on the same candles asks
for inputs that are set by then. It draws the same as long as every input call passes the default
that is listed for its name. Where two calls share a name and pass different defaults, only the
first of them is listed, and the next run answers both with it.
-/

set_option autoImplicit false

namespace ChartScript

/-! ## Defaults that are kept -/

/-- A value stays, and the first default that is listed fills its place otherwise. -/
theorem Document.get?_keepDefaults (inputs : Table String Float) (declared : List Input)
    (name : String) :
    Table.get? (keepDefaults inputs declared) name =
      (Table.get? inputs name).or ((declared.find? (·.name = name)).map Input.default) := by
  induction declared generalizing inputs with
  | nil => simp [keepDefaults]
  | cons input rest ih =>
    have step : keepDefaults inputs (input :: rest) =
        keepDefaults (Table.setNew inputs input.name input.default) rest := rfl
    rw [step, ih, Table.get?_setNew, Option.or_assoc, List.find?_cons]
    by_cases same : input.name = name <;> simp [same]

/-- Every input call of a run passes the default that the run lists for its name, unless a value
is set for that name. -/
def Script.DefaultsListed (script : Script) (overrides : Table String Float)
    (window : List Candle) : Prop :=
  match script.run window overrides with
  | .ok chart =>
    ∀ offer ∈ script.offers overrides window, Table.get? overrides offer.1 = none →
      ∀ input ∈ chart.inputs, input.name = offer.1 → input.default = offer.2
  | .error _ => True

instance (script : Script) (overrides : Table String Float) (window : List Candle) :
    Decidable (script.DefaultsListed overrides window) :=
  match ran : script.run window overrides with
  | .ok chart =>
    decidable_of_iff (∀ offer ∈ script.offers overrides window,
        Table.get? overrides offer.1 = none →
          ∀ input ∈ chart.inputs, input.name = offer.1 → input.default = offer.2)
      (by rw [Script.DefaultsListed, ran])
  | .error _ => isTrue (by rw [Script.DefaultsListed, ran]; trivial)

theorem Script.DefaultsListed.sameAnswers {script : Script} {overrides : Table String Float}
    {window : List Candle} {chart : Chart} (listed : script.DefaultsListed overrides window)
    (ran : script.run window overrides = .ok chart) :
    SameAnswers overrides (Document.keepDefaults overrides chart.inputs)
      (script.offers overrides window) := by
  intro offer offered
  rw [Script.DefaultsListed, ran] at listed
  rw [answer, answer, Document.get?_keepDefaults]
  cases set : Table.get? overrides offer.1 with
  | some value => rfl
  | none =>
    cases found : chart.inputs.find? (·.name = offer.1) with
    | none => rfl
    | some input =>
      have named : input.name = offer.1 := by simpa using List.find?_some found
      exact listed offer offered set input (List.mem_of_find?_eq_some found) named

namespace Document

/-- An enabled document that runs as a script has listed every default that it passes. -/
def DefaultsListed (document : Document) (window : List Candle) : Prop :=
  document.enabled = true → ∀ script ∈ Script.ofSource? document.source,
    script.DefaultsListed document.inputs window

instance (document : Document) (window : List Candle) :
    Decidable (document.DefaultsListed window) :=
  inferInstanceAs (Decidable (_ → ∀ script ∈ Script.ofSource? document.source, _))

end Document

/-! ## Running again -/

theorem Program.chart_keepDefaults (program : Program) (window : List Candle)
    (inputs : Table String Float)
    (listed : ∀ script, program.prepare = .ok script → script.DefaultsListed inputs window) :
    program.chart window (Document.keepDefaults inputs (program.chart window inputs).inputs) =
      program.chart window inputs := by
  cases prepared : program.prepare with
  | error failure =>
    have fails : ∀ overrides, program.execute window overrides = .error failure := by
      intro overrides
      rw [execute, prepared]
      rfl
    simp only [chart, fails]
  | ok script =>
    have runs : ∀ overrides, program.execute window overrides = script.run window overrides := by
      intro overrides
      rw [execute, prepared]
      rfl
    cases ran : script.run window inputs with
    | error failure =>
      -- A chart that tells an error lists no inputs, so there is nothing to keep.
      have failed : program.chart window inputs =
          .failed program.title ("Runtime error: " ++ failure.message) := by
        rw [chart, runs, ran]
      rw [failed]
      exact failed
    | ok drawn =>
      have first : program.chart window inputs = drawn := by rw [chart, runs, ran]
      have again := script.run_of_sameAnswers inputs _ window
        ((listed script prepared).sameAnswers ran)
      rw [first, chart, runs, again, ran]

namespace Document

theorem ofParsed_keepDefaults (document : Document) (window : List Candle)
    (listed : document.DefaultsListed window) (enabled : document.enabled = true) :
    Chart.ofParsed (parse document.source) window (keepDefaults document.inputs
        (Chart.ofParsed (parse document.source) window document.inputs).inputs) =
      Chart.ofParsed (parse document.source) window document.inputs := by
  cases parsed : parse document.source with
  | error failure => rfl
  | ok program =>
    refine program.chart_keepDefaults window document.inputs fun script prepared => ?_
    refine listed enabled script ?_
    rw [Script.ofSource?, parsed]
    simp only [Except.toOption, Option.bind_some, prepared, Option.mem_def]

theorem run_again (document : Document) (window : List Candle)
    (consistent : document.engine.Consistent) (listed : document.DefaultsListed window) :
    ((document.run window).2.run window).1 = (document.run window).1 := by
  cases enabled : document.enabled with
  | false => simp only [run, enabled, Bool.false_eq_true, if_false]
  | true =>
    have drawn := document.engine.run_drawn document.source window document.inputs consistent
    have next : (document.engine.run document.source window document.inputs).2.Consistent :=
      document.engine.compile_consistent document.source consistent
    have again := document.ofParsed_keepDefaults window listed enabled
    simp only [run, enabled, if_true]
    rw [Engine.run_drawn _ _ _ _ next, drawn, again]

end Document

namespace Session

/-- In every state that operations lead to, running all documents twice in a row on the same
candles gives the same charts twice, if every input call of the first run passes the default that
is listed for its name or finds a value set. -/
theorem runAll_again (files : Files) (operations : List Operation) (window : List Candle)
    (listed : ∀ document ∈ (reached files operations).documents,
      document.DefaultsListed window) :
    (((reached files operations).runAll window).2.runAll window).1 =
      ((reached files operations).runAll window).1 := by
  have consistent := reached_consistent files operations
  simp only [Workspace.runAll, List.map_map]
  refine List.map_congr_left fun document member => ?_
  exact document.run_again window (consistent document member) (listed document member)

def addShared (first second : String) : Operation :=
  .add "Shared" ("x = input(" ++ first ++ ", \"A\")\ny = input(" ++ second ++ ", \"A\")\nplot(y)")

def oneCandle : List Candle := [⟨60, 1.0, 2.0, 0.5, 1.5, 100.0⟩]

theorem runAll_again_shared :
    (∀ document ∈ (reached .empty [addShared "2" "2"]).documents,
      document.DefaultsListed oneCandle) ∧
    (((reached .empty [addShared "2" "2"]).runAll oneCandle).2.runAll oneCandle).1 =
      ((reached .empty [addShared "2" "2"]).runAll oneCandle).1 := by
  have listed : ∀ document ∈ (reached .empty [addShared "2" "2"]).documents,
      document.DefaultsListed oneCandle := by decide +kernel
  exact ⟨listed, runAll_again .empty [addShared "2" "2"] oneCandle listed⟩

/-- Without that condition the charts can differ: the second call passes 2, but the default that
is listed and kept for its name is 1. -/
theorem runAll_again_differs :
    ¬ ∀ (files : Files) (operations : List Operation) (window : List Candle),
      (((reached files operations).runAll window).2.runAll window).1 =
        ((reached files operations).runAll window).1 := by
  intro claimed
  have same := claimed .empty [addShared "1" "2"] oneCandle
  have plotted := congrArg (List.map fun chart => chart.plots.map Plot.values) same
  revert plotted
  decide +kernel

end Session

end ChartScript
