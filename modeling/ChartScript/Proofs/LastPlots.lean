import ChartScript.Proofs.AlignedChart
import ChartScript.Proofs.Lookback
import ChartScript.Proofs.PlotsOfCalls
import ChartScript.Proofs.RecorderSites

/-!
# What is plotted at a site

The values of a plot are read under the site of its call. A bar that opens adds one without a
value, the call sets it, and other calls change nothing of it. The plots of the last calls of a
program are the last ones of its chart.
-/

set_option autoImplicit false

namespace ChartScript

open Eval

theorem Table.get?_of_mem {κ ν : Type} [DecidableEq κ] {table : Table κ ν} {key : κ} {value : ν}
    (nodup : (table.map Prod.fst).Nodup) (member : (key, value) ∈ table) :
    table.get? key = some value := by
  induction table with
  | nil => cases member
  | cons entry rest ih =>
    obtain ⟨first, found⟩ := entry
    rw [List.map_cons, List.nodup_cons] at nodup
    rw [get?_cons]
    rcases List.mem_cons.mp member with same | later
    · cases same
      exact if_pos rfl
    · have differs : first ≠ key := by
        rintro rfl
        exact nodup.1 (List.mem_map.mpr ⟨_, later, rfl⟩)
      rw [if_neg differs]
      exact ih nodup.2 later

namespace Recorder

variable (recorder : Recorder) (site other : Nat)

def plotted? : Option (Series Float) :=
  (Table.get? recorder.plots site).map Plot.values

def setPlotted (value : Float) : Recorder :=
  { recorder with
    plots := Table.modify recorder.plots site fun plot =>
      { plot with values := Series.setNow plot.values value } }

theorem plotted?_openBar :
    recorder.openBar.plotted? site = (recorder.plotted? site).map Series.openBar := by
  let opened (plot : Plot) : Plot := { plot with values := Series.openBar plot.values }
  have found : Table.get? recorder.openBar.plots site =
      (Table.get? recorder.plots site).map opened := Table.get?_map recorder.plots site opened
  unfold plotted?
  rw [found, Option.map_map, Option.map_map]
  rfl

theorem plotted?_setPlotted (value : Float) :
    (recorder.setPlotted other value).plotted? site =
      if other = site then (recorder.plotted? site).map (Series.setNow · value)
      else recorder.plotted? site := by
  unfold plotted? setPlotted
  rw [Table.get?_modify]
  split
  · rw [Option.map_map, Option.map_map]
    rfl
  · rfl

theorem setPlotted_renumber {number : Nat → Nat} (injective : Function.Injective number)
    (value : Float) :
    (recorder.renumber number).setPlotted (number site) value =
      (recorder.setPlotted site value).renumber number := by
  simp only [setPlotted, renumber, Table.modify_mapKeys injective]

end Recorder

/-! ## Calls -/

/-- A call that plots a value and passes nothing else sets the value of its plot. -/
theorem Builtin.outcome_plot_ok {context : Context} {site : Nat} {value result : Value}
    {state after : RunState}
    (ran : outcome (Builtin.plot.apply context site [] ⟨"plot", [some value], []⟩) state =
      (.ok result, after)) :
    ∃ number, value.asNumber "plot(series)" = .ok number ∧
      after = { state with recorder := state.recorder.setPlotted site number } := by
  have applied : Builtin.plot.apply context site [] ⟨"plot", [some value], []⟩ =
      Eval.draw (·.plot site ⟨"plot", [some value], []⟩) := rfl
  rw [applied] at ran
  obtain ⟨recorder, drawn, rfl⟩ := of_draw_ok ran
  obtain ⟨number, isNumber, drawn⟩ := of_bind_ok drawn
  cases drawn
  exact ⟨number, isNumber, rfl⟩

/-- Calls change no plot but their own. -/
theorem RunState.Drawn.plotted? {overrides : Table String Float} {calls : List Call}
    {state after : RunState} (drawn : state.Drawn overrides calls after) {site : Nat}
    (elsewhere : site ∉ calls.map Call.site) :
    after.recorder.plotted? site = state.recorder.plotted? site := by
  refine drawn.keeps (fun recorder => recorder.plotted? site = state.recorder.plotted? site)
    (fun call member _ _ _ _ step same => ?_) rfl
  have apart : site ≠ call.site := by
    rintro rfl
    exact elsewhere (List.mem_map_of_mem member)
  exact (congrArg (·.map Plot.values) (step.get?_plots apart)).trans same

/-! ## Programs -/

theorem Call.map_fst_plots (calls : List Call) :
    (calls.filterMap Call.plot?).map Prod.fst =
      (calls.filter (·.draws .plot)).map Call.site := by
  rw [Call.filterMap_plot?, List.map_map]
  rfl

namespace Program

variable {program : Program} {script : Script} {window : List Candle}
  {overrides : Table String Float} {chart : Chart} {recorder : Recorder}

theorem lt_siteCount {tokens : List Token} (parsed : parseTokens tokens = .ok program) {site : Nat}
    (member : site ∈ program.sites) : site < program.siteCount :=
  List.mem_range.mp ((numbered_of_parseTokens parsed).perm_range.mem_iff.mp member)

theorem nodup_calls_sites {tokens : List Token} (parsed : parseTokens tokens = .ok program) :
    (program.calls.map Call.site).Nodup :=
  (numbered_of_parseTokens parsed).nodup.sublist program.calls_sites_sublist

variable (nodup : (program.calls.map Call.site).Nodup)

include nodup

theorem plotted?_initial (prepared : program.prepare = .ok script) {site : Nat}
    (called : site ∈ (program.calls.filterMap Call.plot?).map Prod.fst) :
    script.initial.recorder.plotted? site = some [] := by
  have sites := (Script.initial_ofCalls nodup prepared).plots.sites
  rw [Call.map_fst_plots, ← sites] at called
  obtain ⟨⟨site, plot⟩, member, rfl⟩ := List.mem_map.mp called
  have nodupPlots : (script.initial.recorder.plots.map Prod.fst).Nodup := by
    rw [sites]
    exact nodup.sublist (List.filter_sublist.map Call.site)
  have empty := script.initial_aligned.recorder.plots _ member
  unfold Recorder.plotted?
  rw [Table.get?_of_mem nodupPlots member]
  exact congrArg some (List.eq_nil_of_length_eq_zero empty)

/-- What the last calls of a program plot comes last in the chart, in the order of the calls. -/
theorem Records.last_plots (records : program.Records window overrides recorder chart)
    {early last : List (Nat × Option String)}
    (called : program.calls.filterMap Call.plot? = early ++ last) :
    ∃ others plots, chart.plots = others ++ plots ∧
      plots.map (fun plot : Plot => some plot.values) =
        last.map fun plot => recorder.plotted? plot.1 := by
  have sites := (records.ofCalls nodup).plots.sites
  have nodupPlots : (recorder.plots.map Prod.fst).Nodup := by
    rw [sites]
    exact nodup.sublist (List.filter_sublist.map Call.site)
  rw [← Call.map_fst_plots, called, List.map_append] at sites
  obtain ⟨before, entries, parts, _, lastSites⟩ := List.map_eq_append_iff.mp sites
  refine ⟨before.map Prod.snd, entries.map Prod.snd, ?_, ?_⟩
  · rw [records.plots, parts, List.map_append]
  · have found : ∀ entry ∈ entries, some entry.2.values = recorder.plotted? entry.1 := by
      intro entry member
      have known : entry ∈ recorder.plots := parts ▸ List.mem_append_right _ member
      unfold Recorder.plotted?
      rw [Table.get?_of_mem nodupPlots known]
      rfl
    rw [List.map_map]
    calc entries.map (fun entry => some entry.2.values)
        = entries.map (recorder.plotted? ∘ Prod.fst) := List.map_congr_left found
      _ = (last.map Prod.fst).map recorder.plotted? := by rw [← lastSites, List.map_map]
      _ = last.map fun plot => recorder.plotted? plot.1 := List.map_map

end Program

end ChartScript
