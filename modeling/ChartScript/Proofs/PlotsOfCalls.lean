import ChartScript.Proofs.DeclaredInputs
import ChartScript.Proofs.DrawingCalls
import Mathlib.Data.List.Nodup

/-!
# Plots belong to calls

Which plots a chart has is read off the program before any bar: one for each plot call, in the
order of the program, whether the call is ever evaluated or not. A run fills them and adds none.
Lines and alerts come when a call draws them and belong to it from then on, so that there is at
most one for each call.
-/

set_option autoImplicit false

namespace ChartScript

open Eval

namespace Table

variable {κ ν : Type} [DecidableEq κ]

theorem map_fst_modify (table : Table κ ν) (key : κ) (change : ν → ν) :
    (table.modify key change).map Prod.fst = table.map Prod.fst := by
  rw [modify, List.map_map]
  refine List.map_congr_left fun entry _ => ?_
  by_cases same : entry.1 = key <;> simp [same]

theorem setNew_of_fresh {table : Table κ ν} {key : κ} (fresh : table.get? key = none)
    (value : ν) : table.setNew key value = table ++ [(key, value)] := by
  unfold setNew
  rw [fresh]

end Table

namespace Call

/-- The title of a plot, as far as the call says it. A plot without a title is numbered from 1. -/
structure Titled (call : Call) (position : Nat) (title : String) : Prop where
  untitled : call.title? = none → title = "Plot " ++ toString (position + 1)
  literal : ∀ text span, call.title? = some (.string text span) → title = text

theorem titled_declared (call : Call) (position : Nat) :
    call.Titled position
      ((call.literalTitle? 1).getD ("Plot " ++ toString (position + 1))) := by
  unfold literalTitle?
  refine ⟨fun untitled => ?_, fun text span literal => ?_⟩
  · unfold title? at untitled
    rw [untitled]
    rfl
  · unfold title? at literal
    rw [literal]
    rfl

/-- What a call passes as title leaves the title as the call says it. -/
theorem Titled.pass {call : Call} {position : Nat} {title : String} {passed : Option String}
    (titled : call.Titled position title) (passes : call.Passes passed) :
    call.Titled position (passed.getD title) where
  untitled untitled := by
    rw [passes.absent untitled]
    exact titled.untitled untitled
  literal text span literal := by
    rw [passes.literal text span literal]
    rfl

end Call

namespace Recorder

/-- The plots of a recorder are those of some calls, in their order. -/
structure PlotsOf (calls : List Call) (recorder : Recorder) : Prop where
  sites : recorder.plots.map Prod.fst = calls.map Call.site
  titles : ∀ (position : Nat) (call : Call) (entry : Nat × Plot), calls[position]? = some call →
    recorder.plots[position]? = some entry → call.Titled position entry.2.title

namespace PlotsOf

variable {calls : List Call} {recorder next : Recorder}

theorem length (plots : recorder.PlotsOf calls) : recorder.plots.length = calls.length := by
  have lengths := congrArg List.length plots.sites
  rwa [List.length_map, List.length_map] at lengths

theorem site (plots : recorder.PlotsOf calls) {position : Nat} {call : Call} {entry : Nat × Plot}
    (called : calls[position]? = some call) (found : recorder.plots[position]? = some entry) :
    entry.1 = call.site := by
  have same := congrArg (·[position]?) plots.sites
  simp only [List.getElem?_map, called, found, Option.map_some] at same
  exact Option.some.inj same

theorem entry (plots : recorder.PlotsOf calls) {position : Nat} {call : Call}
    (called : calls[position]? = some call) :
    ∃ plot, recorder.plots[position]? = some (call.site, plot) ∧
      call.Titled position plot.title := by
  obtain ⟨within, _⟩ := List.getElem?_eq_some_iff.mp called
  rw [← plots.length] at within
  have found := List.getElem?_eq_getElem within
  have site := plots.site called found
  refine ⟨recorder.plots[position].2, ?_, plots.titles position call _ called found⟩
  rw [found, ← site]

theorem declare (plots : recorder.PlotsOf calls) {call : Call}
    (fresh : call.site ∉ calls.map Call.site) :
    (recorder.declarePlot call.site (call.literalTitle? 1)).PlotsOf (calls ++ [call]) := by
  have declared : (recorder.declarePlot call.site (call.literalTitle? 1)).plots =
      recorder.plots ++ [(call.site, ⟨(call.literalTitle? 1).getD
        ("Plot " ++ toString (recorder.plots.length + 1)), [], Chart.plotColor,
        Chart.lineWidth⟩)] := by
    refine Table.setNew_of_fresh (Table.get?_eq_none_iff.mpr ?_) _
    rwa [plots.sites]
  constructor
  · rw [declared, List.map_append, List.map_append, plots.sites]
    rfl
  · intro position other entry called found
    rw [declared, List.getElem?_append] at found
    rw [List.getElem?_append, ← plots.length] at called
    by_cases old : position < recorder.plots.length
    · rw [if_pos old] at called found
      exact plots.titles position other entry called found
    · rw [if_neg old] at called found
      obtain ⟨last, _⟩ := List.getElem?_eq_some_iff.mp called
      rw [List.length_singleton, Nat.lt_one_iff] at last
      rw [last] at called found
      cases called
      cases found
      have isLast : position = recorder.plots.length := by omega
      exact isLast ▸ call.titled_declared position

theorem openBar (plots : recorder.PlotsOf calls) : recorder.openBar.PlotsOf calls where
  sites := by
    rw [← plots.sites, Recorder.openBar, List.map_map]
    rfl
  titles position call entry called found := by
    rw [Recorder.openBar, List.getElem?_map] at found
    obtain ⟨before, known, rfl⟩ := Option.map_eq_some_iff.mp found
    exact plots.titles position call before called known

/-- A call changes the plot under its own site only, which is its own. -/
theorem step (plots : recorder.PlotsOf calls) {overrides : Table String Float} {bar bars : Nat}
    {call : Call} (own : ∀ other ∈ calls, other.site = call.site → other = call)
    (step : StepOf overrides bar bars call recorder next) : next.PlotsOf calls := by
  cases step with
  | plot value title color width draws passed =>
    have sites := Table.map_fst_modify recorder.plots call.site
      (updatePlot · value title color width)
    refine ⟨sites.trans plots.sites, fun position other entry called found => ?_⟩
    rw [Table.modify, List.getElem?_map] at found
    obtain ⟨before, known, rfl⟩ := Option.map_eq_some_iff.mp found
    have titled := plots.titles position other before called known
    by_cases same : before.1 = call.site
    · have isOwn := own other (List.mem_of_getElem? called)
        ((plots.site called known).symm.trans same)
      rw [if_pos same]
      exact titled.pass (isOwn ▸ passed)
    · rwa [if_neg same]
  | _ => exact ⟨plots.sites, plots.titles⟩

/-- Plots that are declared one after the other, under sites that differ. -/
theorem declareAll {before calls : List Call} (plots : recorder.PlotsOf before)
    (nodup : ((before ++ calls).map Call.site).Nodup) :
    (calls.foldl (fun recorder call => recorder.declarePlot call.site (call.literalTitle? 1))
      recorder).PlotsOf (before ++ calls) := by
  induction calls generalizing before recorder with
  | nil => rwa [List.append_nil]
  | cons call rest ih =>
    have parts : before ++ call :: rest = before ++ [call] ++ rest := by
      rw [List.append_assoc, List.singleton_append]
    rw [parts] at nodup ⊢
    refine ih (plots.declare ?_) nodup
    rw [List.map_append, List.map_append, List.nodup_append, List.nodup_append] at nodup
    intro member
    exact nodup.1.2.2 _ member _ (List.mem_singleton_self _) rfl

end PlotsOf

theorem StepOf.get?_plots {overrides : Table String Float} {bar bars : Nat} {call : Call}
    {recorder next : Recorder} (step : StepOf overrides bar bars call recorder next) {site : Nat}
    (elsewhere : site ≠ call.site) :
    Table.get? next.plots site = Table.get? recorder.plots site := by
  cases step with
  | plot value title color width => rw [Table.get?_modify, if_neg (Ne.symm elsewhere)]
  | _ => rfl

/-- What stands in a table stands there for calls of one kind, at most once for each. -/
structure Under {ν : Type} (calls : List Call) (drawing : Drawing) (table : Table Nat ν) :
    Prop where
  nodup : (table.map Prod.fst).Nodup
  called : ∀ entry ∈ table, ∃ call ∈ calls, call.draws drawing ∧ call.site = entry.1

namespace Under

variable {ν : Type} {calls : List Call} {drawing : Drawing} {table : Table Nat ν}

theorem nil : Under calls drawing ([] : Table Nat ν) :=
  ⟨List.nodup_nil, nofun⟩

theorem setNew (under : Under calls drawing table) {call : Call} (member : call ∈ calls)
    (draws : call.draws drawing) (value : ν) :
    Under calls drawing (table.setNew call.site value) where
  nodup := Table.nodup_setNew call.site value under.nodup
  called entry within := by
    rcases Table.mem_setNew within with known | rfl
    · exact under.called entry known
    · exact ⟨call, member, draws, rfl⟩

/-- Only the sites matter, not what stands under them. -/
theorem of_sites {ω : Type} {other : Table Nat ω} (under : Under calls drawing table)
    (same : other.map Prod.fst = table.map Prod.fst) : Under calls drawing other where
  nodup := same ▸ under.nodup
  called entry within := by
    have site : entry.1 ∈ table.map Prod.fst := same ▸ List.mem_map_of_mem within
    obtain ⟨before, known, site⟩ := List.mem_map.mp site
    exact site ▸ under.called before known

theorem subperm (under : Under calls drawing table) :
    (table.map Prod.fst).Subperm
      ((calls.filter (·.draws drawing)).map Call.site) := by
  refine List.subperm_of_subset under.nodup fun site within => ?_
  obtain ⟨entry, known, rfl⟩ := List.mem_map.mp within
  obtain ⟨call, member, draws, same⟩ := under.called entry known
  exact same ▸ List.mem_map_of_mem (List.mem_filter.mpr ⟨member, draws⟩)

end Under

/-- What a program draws under the sites of its calls. -/
structure OfCalls (calls : List Call) (recorder : Recorder) : Prop where
  plots : recorder.PlotsOf (calls.filter (·.draws .plot))
  lines : Under calls .line recorder.lines
  alerts : Under calls .alert recorder.alerts

namespace OfCalls

variable {calls : List Call} {recorder next : Recorder}

theorem openBar (drawn : recorder.OfCalls calls) : recorder.openBar.OfCalls calls where
  plots := drawn.plots.openBar
  lines := drawn.lines
  alerts := by
    refine drawn.alerts.of_sites ?_
    rw [Recorder.openBar, List.map_map]
    rfl

theorem step (drawn : recorder.OfCalls calls) {overrides : Table String Float} {bar bars : Nat}
    (nodup : (calls.map Call.site).Nodup) {call : Call} (member : call ∈ calls)
    (step : StepOf overrides bar bars call recorder next) : next.OfCalls calls where
  plots := by
    refine drawn.plots.step (fun other within same => ?_) step
    exact List.inj_on_of_nodup_map nodup (List.mem_of_mem_filter within) member same
  lines := by
    cases step with
    | line line draws fresh =>
      have added := drawn.lines.setNew member draws line
      rwa [Table.setNew_of_fresh fresh] at added
    | _ => exact drawn.lines
  alerts := by
    cases step with
    | alert title message triggered draws =>
      have added := drawn.alerts.setNew member draws
        ⟨title, message, List.replicate bars false⟩
      exact added.of_sites (Table.map_fst_modify (Table.setNew recorder.alerts call.site _)
        call.site (setTriggered · triggered))
    | _ => exact drawn.alerts

end OfCalls

end Recorder

/-- An expression changes the plots of its own calls only. -/
theorem Expr.get?_plots_of_evaluate {context : Context} {expr : Expr} {state after : RunState}
    {value : Value} (ran : outcome (expr.evaluate context) state = (.ok value, after)) {site : Nat}
    (elsewhere : site ∉ expr.calls.map Call.site) :
    Table.get? after.recorder.plots site = Table.get? state.recorder.plots site := by
  have drawn := expr.evaluate_drawsOnce context state value after ran
  refine drawn.keeps
    (fun reached => Table.get? reached.plots site = Table.get? state.recorder.plots site)
    (fun call member _ _ _ _ step same => ?_) rfl
  refine (step.get?_plots fun own => elsewhere ?_).trans same
  exact own ▸ List.mem_map_of_mem member

/-! ## Before the first bar -/

theorem Call.plot?_eq (call : Call) : call.plot? =
    if call.draws .plot then some (call.site, call.literalTitle? 1) else none := by
  have named : Builtin.ofName? call.function = some .plot ↔ call.draws .plot = true := by
    refine ⟨fun named => decide_eq_true (Drawing.mem_functions named rfl), fun draws => ?_⟩
    rw [List.mem_singleton.mp (of_decide_eq_true draws)]
    rfl
  simp only [plot?, named]

theorem Call.filterMap_plot? (calls : List Call) : calls.filterMap Call.plot? =
    (calls.filter (·.draws .plot)).map fun call => (call.site, call.literalTitle? 1) := by
  induction calls with
  | nil => rfl
  | cons call rest ih =>
    rw [List.filterMap_cons, List.filter_cons, call.plot?_eq]
    cases call.draws .plot <;> simp [ih]

namespace Script

theorem initial_unmarked (script : Script) :
    script.initial.recorder.lines = [] ∧ script.initial.recorder.alerts = [] := by
  refine List.foldlRecOn
    (motive := fun recorder : Recorder => recorder.lines = [] ∧ recorder.alerts = [])
    script.plots _ ⟨rfl, rfl⟩ ?_
  exact fun _ unmarked _ _ => unmarked

theorem initial_ofCalls {program : Program} (nodup : (program.calls.map Call.site).Nodup)
    {script : Script} (prepared : program.prepare = .ok script) :
    script.initial.recorder.OfCalls program.calls := by
  obtain rfl := Program.eq_of_prepare prepared
  obtain ⟨lines, alerts⟩ := initial_unmarked ⟨program, program.assignedNames,
    program.calls.filterMap Call.plot?⟩
  refine ⟨?_, lines ▸ .nil, alerts ▸ .nil⟩
  have undeclared : Recorder.empty.PlotsOf [] := ⟨rfl, nofun⟩
  have nodupPlots : ((program.calls.filter (·.draws .plot)).map Call.site).Nodup :=
    nodup.sublist (List.filter_sublist.map Call.site)
  simp only [initial, Call.filterMap_plot?, List.foldl_map]
  exact undeclared.declareAll nodupPlots

end Script

/-! ## Runs -/

namespace Program

/-- A run of the program that succeeds ends with a recorder, and its chart is finished from that. -/
def Records (program : Program) (window : List Candle) (overrides : Table String Float)
    (recorder : Recorder) (chart : Chart) : Prop :=
  ∃ script heading final, program.prepare = .ok script ∧
    outcome (script.runWindow overrides window.reverse) script.initial = (.ok heading, final) ∧
    final.recorder = recorder ∧
    chart = recorder.finish heading.1 heading.2 final.memory.bars.length

variable {program : Program} {window : List Candle} {overrides : Table String Float}
  {chart : Chart}

theorem exists_records (executed : program.execute window overrides = .ok chart) :
    ∃ recorder, program.Records window overrides recorder chart := by
  obtain ⟨script, prepared, ran⟩ := of_bind_ok executed
  obtain ⟨heading, final, finished, rfl⟩ := of_run_ok ran
  exact ⟨final.recorder, script, heading, final, prepared, finished, rfl, rfl⟩

theorem Records.ofCalls {recorder : Recorder} (nodup : (program.calls.map Call.site).Nodup)
    (records : program.Records window overrides recorder chart) :
    recorder.OfCalls program.calls := by
  obtain ⟨script, heading, final, prepared, finished, rfl, _⟩ := records
  have start := Script.initial_ofCalls nodup prepared
  obtain rfl := eq_of_prepare prepared
  exact Script.runWindow_recorder _ _ (fun _ drawn => drawn.openBar)
    (fun _ member _ _ _ _ step drawn => drawn.step nodup member step) finished start

namespace Records

variable {recorder : Recorder} (records : program.Records window overrides recorder chart)

include records

theorem plots : chart.plots = recorder.plots.map Prod.snd := by
  obtain ⟨_, _, _, _, _, _, rfl⟩ := records
  rfl

theorem lines : chart.lines = recorder.lines.map Prod.snd := by
  obtain ⟨_, _, _, _, _, _, rfl⟩ := records
  rfl

theorem alerts : chart.alerts = recorder.alerts.map Prod.snd := by
  obtain ⟨_, _, _, _, _, _, rfl⟩ := records
  rfl

variable (nodup : (program.calls.map Call.site).Nodup)

include nodup

theorem length_plots : chart.plots.length = program.calls.countP (·.draws .plot) := by
  rw [records.plots, List.length_map, (records.ofCalls nodup).plots.length,
    List.countP_eq_length_filter]

theorem plot {position : Nat} {call : Call}
    (called : (program.calls.filter (·.draws .plot))[position]? = some call) :
    ∃ plot, chart.plots[position]? = some plot ∧
      recorder.plots[position]? = some (call.site, plot) ∧ call.Titled position plot.title := by
  obtain ⟨plot, found, titled⟩ := (records.ofCalls nodup).plots.entry called
  refine ⟨plot, ?_, found, titled⟩
  rw [records.plots, List.getElem?_map, found]
  rfl

theorem lineSites : (recorder.lines.map Prod.fst).Subperm
    ((program.calls.filter (·.draws .line)).map Call.site) := by
  have among := (records.ofCalls nodup).lines.subperm
  exact among

theorem alertSites : (recorder.alerts.map Prod.fst).Subperm
    ((program.calls.filter (·.draws .alert)).map Call.site) := by
  have among := (records.ofCalls nodup).alerts.subperm
  exact among

end Records

theorem calls_sites_nodup {source : String} (parsed : parse source = .ok program) :
    (program.calls.map Call.site).Nodup := by
  obtain ⟨tokens, parsed⟩ := exists_tokens_of_parse parsed
  exact (numbered_of_parseTokens parsed).nodup.sublist program.calls_sites_sublist

/-- The charts of two runs of a program, on whatever candles and with whatever inputs, have the
same plots: those of its plot calls in their order. Each of them is recorded under the site of its
call, which no other call has, and has the title that the call says; evaluating an expression
changes the plots of its own calls only. A line or an alert is recorded under the site of a call
for it, at most once for each. -/
theorem execute_same_plots {source : String} (parsed : parse source = .ok program)
    {others : List Candle} {settings : Table String Float} {other : Chart}
    (executed : program.execute window overrides = .ok chart)
    (executedOther : program.execute others settings = .ok other) :
    (program.calls.map Call.site).Nodup ∧
    (∀ (expr : Expr) (context : Context) (state after : RunState) (value : Value),
      outcome (expr.evaluate context) state = (.ok value, after) →
      ∀ site ∉ expr.calls.map Call.site,
        Table.get? after.recorder.plots site = Table.get? state.recorder.plots site) ∧
    ∃ recorder otherRecorder, program.Records window overrides recorder chart ∧
      program.Records others settings otherRecorder other ∧
      chart.plots.length = program.calls.countP (·.draws .plot) ∧
      other.plots.length = program.calls.countP (·.draws .plot) ∧
      (∀ (position : Nat) (call : Call),
        (program.calls.filter (·.draws .plot))[position]? = some call →
        ∃ plot otherPlot,
          chart.plots[position]? = some plot ∧ other.plots[position]? = some otherPlot ∧
          recorder.plots[position]? = some (call.site, plot) ∧
          otherRecorder.plots[position]? = some (call.site, otherPlot) ∧
          call.Titled position plot.title ∧ call.Titled position otherPlot.title) ∧
      chart.lines = recorder.lines.map Prod.snd ∧
      (recorder.lines.map Prod.fst).Subperm
        ((program.calls.filter (·.draws .line)).map Call.site) ∧
      chart.alerts = recorder.alerts.map Prod.snd ∧
      (recorder.alerts.map Prod.fst).Subperm
        ((program.calls.filter (·.draws .alert)).map Call.site) := by
  have nodup := calls_sites_nodup parsed
  obtain ⟨recorder, records⟩ := exists_records executed
  obtain ⟨otherRecorder, otherRecords⟩ := exists_records executedOther
  refine ⟨nodup, fun _ _ _ _ _ ran _ elsewhere => Expr.get?_plots_of_evaluate ran elsewhere,
    recorder, otherRecorder, records, otherRecords, records.length_plots nodup,
    otherRecords.length_plots nodup, fun position call called => ?_, records.lines,
    records.lineSites nodup, records.alerts, records.alertSites nodup⟩
  obtain ⟨plot, shown, found, titled⟩ := records.plot nodup called
  obtain ⟨otherPlot, otherShown, otherFound, otherTitled⟩ := otherRecords.plot nodup called
  exact ⟨plot, otherPlot, shown, otherShown, found, otherFound, titled, otherTitled⟩

/-- Plots in its declaration, inside of another plot and in a branch that is not taken. -/
def scatteredSource : String :=
  "indicator(title = plot(close))\nif close > 100\n  plot(open, \"Never\")\n" ++
    "plot(sma(plot(high), 2), title = \"Mean\")\nhline(1)\nalert(close > 1)"

def twoCandles : List Candle :=
  [⟨2, 2.0, 2.0, 2.0, 2.0, 1.0⟩, ⟨1, 1.0, 1.0, 1.0, 1.0, 1.0⟩]

theorem execute_same_plots_scattered :
    ∃ program chart other, parse scatteredSource = .ok program ∧
      program.execute twoCandles [] = .ok chart ∧ program.execute [] [] = .ok other ∧
      chart.plots.length = 4 ∧ other.plots.length = 4 := by
  have runs : (parse scatteredSource).toOption.any fun program =>
      (program.execute twoCandles []).isOk && ((program.execute [] []).isOk &&
        program.calls.countP (·.draws .plot) == 4) := by decide +kernel
  obtain ⟨program, parsed, runs⟩ := of_toOption_any runs
  obtain ⟨ok, runs⟩ := Bool.and_eq_true_iff.mp runs
  obtain ⟨okOther, count⟩ := Bool.and_eq_true_iff.mp runs
  rcases ran : program.execute twoCandles [] with _ | chart
  · rw [ran] at ok
    cases ok
  rcases ranOther : program.execute [] [] with _ | other
  · rw [ranOther] at okOther
    cases okOther
  obtain ⟨_, _, _, _, _, _, length, otherLength, _⟩ := execute_same_plots parsed ran ranOther
  rw [eq_of_beq count] at length otherLength
  exact ⟨program, chart, other, parsed, ran, ranOther, length, otherLength⟩

end Program

end ChartScript
