import ChartScript.Loaded.Evaluation
import ChartScript.Proofs.LoadedColumns
import ChartScript.Proofs.RecorderSites

/-!
# States over a loaded window

A state in which some bars are opened, seen as one over the whole window (`RunState.inWindow`): its
series get cells without a value for the newer bars, the prices of the newer bars are there, and
what is drawn is placed by the index of its bar. What is read there at the index of the current
bar is what the state has now, and what is written there is what the state writes.
-/

set_option autoImplicit false

namespace ChartScript

namespace Table

variable {κ ν ω : Type}

def mapValues (view : ν → ω) (table : Table κ ν) : Table κ ω :=
  table.map fun entry => (entry.1, view entry.2)

theorem map_snd_mapValues (view : ν → ω) (table : Table κ ν) :
    (table.mapValues view).map Prod.snd = (table.map Prod.snd).map view := by
  rw [mapValues, List.map_map, List.map_map]
  rfl

theorem length_mapValues (view : ν → ω) (table : Table κ ν) :
    (table.mapValues view).length = table.length :=
  List.length_map _

variable {view : ν → ω} (table : Table κ ν) (key : κ)

theorem append_mapValues (value : ν) :
    table.mapValues view ++ [(key, view value)] = mapValues view (table ++ [(key, value)]) := by
  rw [mapValues, mapValues, List.map_append]
  rfl

variable [DecidableEq κ]

theorem modify_mapValues {change : ν → ν} {other : ω → ω}
    (commutes : ∀ value, other (view value) = view (change value)) :
    (table.mapValues view).modify key other = (table.modify key change).mapValues view := by
  rw [modify, modify, mapValues, mapValues, List.map_map, List.map_map]
  apply List.map_congr_left
  intro entry _
  by_cases same : entry.1 = key <;> simp [same, commutes]

theorem setNew_mapValues (view : ν → ω) (table : Table κ ν) (key : κ) (value : ν) :
    (table.mapValues view).setNew key (view value) = (table.setNew key value).mapValues view := by
  rw [setNew, setNew, mapValues, get?_map]
  cases table.get? key with
  | some _ => rfl
  | none => exact append_mapValues table key value

theorem set_mapValues (value : ν) :
    (table.mapValues view).set key (view value) = (table.set key value).mapValues view := by
  rw [set, set, mapValues, get?_map]
  cases table.get? key with
  | some _ => exact modify_mapValues table key fun _ => rfl
  | none => exact append_mapValues table key value

end Table

/-! ## Memory -/

def Slot.inWindow (newer : Nat) : Slot → Loaded.Slot
  | .numeric values => .numeric (overWindow Numeral.nan newer values)
  | .scalar value => .scalar value

def SiteMemory.inWindow (newer : Nat) (site : SiteMemory) : Loaded.Site :=
  ⟨overWindow Numeral.nan newer site.first, overWindow Numeral.nan newer site.second,
    overWindow Numeral.nan newer site.result⟩

def Memory.inWindow (window : List Candle) (newer : Nat) (memory : Memory) : Loaded.Memory where
  bar := newer
  bars := Loaded.barsOf window
  slots := Table.mapValues (Slot.inWindow newer) memory.slots
  sites := memory.sites.map (SiteMemory.inWindow newer)

/-- The bars so far are those of the window from a bar on. -/
structure Memory.Fits (window : List Candle) (newer : Nat) (memory : Memory) : Prop where
  bars : memory.bars = (Loaded.barsOf window).drop newer
  count : newer + memory.bars.length = window.length
  current : window.length - 1 - memory.barIndex = newer

namespace Memory

variable {window : List Candle} {newer : Nat} {memory : Memory}

theorem Fits.of_bars {next : Memory} (fits : memory.Fits window newer)
    (same : next.bars = memory.bars) : next.Fits window newer where
  bars := same.trans fits.bars
  count := (congrArg (newer + ·.length) same).trans fits.count
  current := by rw [barIndex, same]; exact fits.current

theorem get?_inWindow (name : String) : (memory.inWindow window newer).slots.get? name =
    (memory.slots.get? name).map (Slot.inWindow newer) :=
  Table.get?_map ..

section Reading

variable (fits : memory.Fits window newer) (name : String)

include fits

theorem prices_inWindow (field : PriceField) :
    ((memory.inWindow window newer).prices field).drop newer = memory.prices field := by
  rw [Loaded.Memory.prices, prices, fits.bars, List.map_drop]
  rfl

theorem column?_inWindow :
    ((memory.inWindow window newer).column? name).map (·.drop newer) = memory.numeric? name := by
  unfold Loaded.Memory.column? numeric?
  rw [get?_inWindow]
  rcases memory.slots.get? name with _ | ⟨values⟩ | value
  · cases PriceField.ofName? name with
    | none => rfl
    | some field => exact congrArg some (prices_inWindow fits field)
  · exact congrArg some (drop_overWindow ..)
  · rfl

theorem load?_inWindow : (memory.inWindow window newer).load? name = memory.load? name := by
  unfold Loaded.Memory.load? load?
  rw [get?_inWindow]
  rcases memory.slots.get? name with _ | ⟨values⟩ | value
  · cases PriceField.ofName? name with
    | none => rfl
    | some field =>
      refine congrArg (fun number => some (Value.number number)) ?_
      rw [Column.value_eq_now]
      exact congrArg Series.now (prices_inWindow fits field)
  · refine congrArg (fun number => some (Value.number number)) ?_
    rw [Column.value_eq_now]
    exact congrArg Series.now (drop_overWindow ..)
  · rfl

end Reading

theorem isScalar_inWindow (name : String) :
    (memory.inWindow window newer).isScalar name = memory.isScalar name := by
  unfold Loaded.Memory.isScalar isScalar
  rw [get?_inWindow]
  rcases memory.slots.get? name with _ | ⟨values⟩ | value <;> rfl

/-- What a site keeps is found from the current bar back. A site that is out of range has nothing. -/
theorem drop_site_inWindow (site : Nat) (column : Loaded.Site → Column)
    (series : SiteMemory → Series Float)
    (laid : ∀ known : SiteMemory,
      column (known.inWindow newer) = overWindow Numeral.nan newer (series known))
    (unset : series .empty = []) :
    (((memory.inWindow window newer).sites[site]?.map column).getD []).drop newer =
      series (memory.site site) := by
  rw [Memory.site, Array.getD_eq_getD_getElem?, inWindow, Array.getElem?_map]
  cases memory.sites[site]? with
  | none => exact List.drop_nil.trans unset.symm
  | some known => exact (congrArg (List.drop newer) (laid known)).trans (drop_overWindow ..)

theorem operand_inWindow (site : Nat) (operand : Operand) :
    ((memory.inWindow window newer).operand site operand).drop newer =
      (memory.site site).operand operand := by
  have laid (known : SiteMemory) : (known.inWindow newer).operand operand =
      overWindow Numeral.nan newer (known.operand operand) := by cases operand <;> rfl
  have unset : SiteMemory.empty.operand operand = [] := by cases operand <;> rfl
  exact drop_site_inWindow site (·.operand operand) (·.operand operand) laid unset

theorem result_inWindow (site : Nat) :
    ((memory.inWindow window newer).result site).drop newer = (memory.site site).result :=
  drop_site_inWindow site Loaded.Site.result SiteMemory.result (fun _ => rfl) rfl

theorem modifySites_inWindow (sites : Array SiteMemory) (site : Nat)
    (change : SiteMemory → SiteMemory) (other : Loaded.Site → Loaded.Site)
    (commutes : ∀ site, other (SiteMemory.inWindow newer site) = (change site).inWindow newer) :
    (sites.map (SiteMemory.inWindow newer)).modify site other =
      (sites.modify site change).map (SiteMemory.inWindow newer) := by
  apply Array.ext_getElem?
  intro index
  rw [Array.getElem?_modify, Array.getElem?_map, Array.getElem?_map, Array.getElem?_modify]
  split
  · cases sites[index]? with
    | none => rfl
    | some known => exact congrArg some (commutes known)
  · rfl

theorem setOperand_inWindow (site : Nat) (operand : Operand) (value : Float) :
    (memory.inWindow window newer).setOperand site operand value =
      (memory.setOperand site operand value).inWindow window newer := by
  have changed (known : SiteMemory) : (known.inWindow newer).setOperand operand newer value =
      (known.setOperand operand value).inWindow newer := by
    cases operand <;>
      simp only [Loaded.Site.setOperand, SiteMemory.setOperand, SiteMemory.inWindow,
        set_overWindow, Series.setNow_eq_set]
  have sites := modifySites_inWindow memory.sites site (·.setOperand operand value)
    (·.setOperand operand newer value) changed
  exact congrArg (fun sites => { memory.inWindow window newer with sites := sites }) sites

theorem setResult_inWindow (site : Nat) (value : Float) :
    (memory.inWindow window newer).setResult site value =
      (memory.setResult site value).inWindow window newer := by
  have changed (known : SiteMemory) : (known.inWindow newer).setResult newer value =
      (known.setResult value).inWindow newer := by
    simp only [Loaded.Site.setResult, SiteMemory.setResult, SiteMemory.inWindow, set_overWindow,
      Series.setNow_eq_set]
  have sites := modifySites_inWindow memory.sites site (·.setResult value)
    (·.setResult newer value) changed
  exact congrArg (fun sites => { memory.inWindow window newer with sites := sites }) sites

/-- The newer cells of a variable are all missing, so they do not tell whether it has a number. -/
theorem assign_inWindow (newer : Nat) (name : String) (slot : Slot) (value : Value) :
    Loaded.Memory.assign name newer (slot.inWindow newer) value =
      (assign name slot value).map (Slot.inWindow newer) := by
  cases slot with
  | numeric values =>
    have missing : (overWindow Numeral.nan newer values).all Float.isNaN =
        values.all Float.isNaN := all_overWindow _ _ _ _ (by decide +kernel)
    unfold Loaded.Memory.assign assign Slot.inWindow
    cases value.numeric? with
    | some number => simp only [set_overWindow, Series.setNow_eq_set]; rfl
    | none =>
      simp only [missing]
      split <;> rfl
  | scalar held =>
    unfold Loaded.Memory.assign assign Slot.inWindow
    cases value.numeric? with
    | some number => simp only; split <;> rfl
    | none => rfl

theorem unassigned_inWindow (fits : memory.Fits window newer) :
    Loaded.Slot.numeric (.blank (memory.inWindow window newer).bars.length) =
      (Slot.numeric (memory.bars.map fun _ => Numeral.nan)).inWindow newer := by
  have loaded : (memory.inWindow window newer).bars.length = newer + memory.bars.length := by
    rw [fits.count, inWindow, Loaded.barsOf, List.length_mapIdx]
  rw [loaded, List.map_const', Slot.inWindow, overWindow_replicate, Column.blank]

theorem store_inWindow (fits : memory.Fits window newer) (name : String) (value : Value) :
    (memory.inWindow window newer).store name value =
      (memory.store name value).map (Memory.inWindow window newer) := by
  unfold Loaded.Memory.store store
  cases PriceField.ofName? name with
  | some _ => rfl
  | none =>
    have assigned := assign_inWindow newer name
      ((memory.slots.get? name).getD (.numeric (memory.bars.map fun _ => Numeral.nan))) value
    simp only [unassigned_inWindow fits, get?_inWindow, Option.getD_map]
    have current : (memory.inWindow window newer).bar = newer := rfl
    rw [current, assigned]
    cases assign name _ value with
    | error error => rfl
    | ok slot =>
      exact congrArg (fun slots => Except.ok { memory.inWindow window newer with slots := slots })
        (Table.set_mapValues memory.slots name slot)

theorem openBar_inWindow (memory : Memory) (candle : Candle) :
    (memory.openBar candle).inWindow window newer =
      { memory.inWindow window (newer + 1) with bar := newer } := by
  have slots : Table.mapValues (Slot.inWindow newer) (memory.openBar candle).slots =
      Table.mapValues (Slot.inWindow (newer + 1)) memory.slots := by
    simp only [Table.mapValues, openBar, List.map_map]
    apply List.map_congr_left
    intro entry _
    obtain ⟨name, values | value⟩ := entry
    · exact congrArg (fun column => (name, Loaded.Slot.numeric column)) (overWindow_succ ..).symm
    · rfl
  have sites : (memory.openBar candle).sites.map (SiteMemory.inWindow newer) =
      memory.sites.map (SiteMemory.inWindow (newer + 1)) := by
    rw [openBar, Array.map_map]
    apply Array.map_congr_left
    intro site _
    simp only [Function.comp_apply, SiteMemory.inWindow, SiteMemory.openBar, overWindow_succ]
    rfl
  simp only [inWindow, slots, sites]

end Memory

/-! ## Recorders -/

def Plot.inWindow (newer : Nat) (plot : Plot) : Plot :=
  { plot with values := overWindow Numeral.nan newer plot.values }

def Alert.inWindow (newer : Nat) (alert : Alert) : Alert :=
  { alert with triggered := overWindow false newer alert.triggered }

namespace Recorder

/-- What is kept with the number of its bar, with the index of the bar instead. -/
def indexed {α : Type} (bars : Nat) (entry : Nat × α) : Nat × α :=
  (bars - 1 - entry.1, entry.2)

def inWindow (bars newer : Nat) (recorder : Recorder) : Recorder where
  plots := Table.mapValues (Plot.inWindow newer) recorder.plots
  lines := recorder.lines
  shapes := recorder.shapes.map (indexed bars)
  backgrounds := recorder.backgrounds.map (indexed bars)
  alerts := Table.mapValues (Alert.inWindow newer) recorder.alerts
  signals := recorder.signals.map (indexed bars)
  inputs := recorder.inputs

variable {bars newer bar : Nat} (recorder : Recorder) (site : Nat) (arguments : Arguments)

theorem empty_inWindow : empty.inWindow bars newer = empty := by
  simp [inWindow, empty, Table.mapValues]

theorem openBar_inWindow :
    recorder.openBar.inWindow bars newer = recorder.inWindow bars (newer + 1) := by
  simp only [inWindow, openBar, Table.mapValues, List.map_map, Plot.inWindow, Alert.inWindow,
    overWindow_succ]
  rfl

/-- Before the first bar all cells of a plot are those of newer bars. -/
theorem declarePlot_inWindow (title : Option String) :
    Loaded.declarePlot bars (recorder.inWindow bars bars) site title =
      (recorder.declarePlot site title).inWindow bars bars := by
  unfold Loaded.declarePlot declarePlot
  have count : (recorder.inWindow bars bars).plots.length = recorder.plots.length :=
    Table.length_mapValues ..
  rw [count]
  have declared := Table.setNew_mapValues (Plot.inWindow bars) recorder.plots site
    ⟨title.getD ("Plot " ++ toString (recorder.plots.length + 1)), [], Chart.plotColor,
      Chart.lineWidth⟩
  simp only [Plot.inWindow, overWindow, List.append_nil] at declared
  exact congrArg (fun plots => { recorder.inWindow bars bars with plots := plots }) declared

theorem updatePlot_inWindow (plot : Plot) (value : Float) (title : Option String)
    (color : Option Color) (width : Option Float) :
    Loaded.updatePlot newer (plot.inWindow newer) value title color width =
      (updatePlot plot value title color width).inWindow newer := by
  simp only [Loaded.updatePlot, updatePlot, Plot.inWindow, set_overWindow, Series.setNow_eq_set]

theorem plot_inWindow :
    Loaded.plot (recorder.inWindow bars newer) newer site arguments =
      inWindow bars newer <$> recorder.plot site arguments := by
  have updated (value : Float) (title : Option String) (color : Option Color)
      (width : Option Float) :
      Table.modify (Table.mapValues (Plot.inWindow newer) recorder.plots) site
          (Loaded.updatePlot newer · value title color width) =
        Table.mapValues (Plot.inWindow newer)
          (Table.modify recorder.plots site (updatePlot · value title color width)) :=
    Table.modify_mapValues _ _ fun plot => updatePlot_inWindow plot value title color width
  simp only [Loaded.plot, plot, map_bind, map_pure, inWindow, updated]

theorem line_inWindow :
    (recorder.inWindow bars newer).line site arguments =
      inWindow bars newer <$> recorder.line site arguments := by
  unfold line
  have known : (recorder.inWindow bars newer).lines = recorder.lines := rfl
  rw [known]
  cases Table.get? recorder.lines site with
  | some _ => rfl
  | none => simp only [map_bind, map_pure, inWindow]

theorem setTriggered_inWindow (alert : Alert) (triggered : Bool) :
    Loaded.setTriggered newer (alert.inWindow newer) triggered =
      (setTriggered alert triggered).inWindow newer := by
  rcases alert with ⟨title, message, _ | ⟨now, older⟩⟩ <;>
    simp only [Loaded.setTriggered, setTriggered, Alert.inWindow, set_overWindow] <;> rfl

theorem alertParts_inWindow :
    (recorder.inWindow bars newer).alertParts arguments = recorder.alertParts arguments := by
  simp only [alertParts, inWindow, Table.length_mapValues]

theorem alert_inWindow {opened : Nat} (count : newer + opened = bars) :
    Loaded.alert (recorder.inWindow bars newer) newer site bars arguments =
      inWindow bars newer <$> recorder.alert site opened arguments := by
  have first (title message : String) : (⟨title, message, List.replicate bars false⟩ : Alert) =
      Alert.inWindow newer ⟨title, message, List.replicate opened false⟩ := by
    rw [Alert.inWindow, overWindow_replicate, count]
  have flagged (declared : Table Nat Alert) (triggered : Bool) :
      Table.modify (Table.mapValues (Alert.inWindow newer) declared) site
          (Loaded.setTriggered newer · triggered) =
        Table.mapValues (Alert.inWindow newer)
          (Table.modify declared site (setTriggered · triggered)) :=
    Table.modify_mapValues _ _ fun alert => setTriggered_inWindow alert triggered
  simp only [Loaded.alert, alert, map_bind, map_pure, alertParts_inWindow, first]
  simp only [inWindow, Table.setNew_mapValues, flagged]

section Marks

variable (current : bars - 1 - bar = newer)

include current

theorem marker_inWindow (kind : MarkerKind) :
    (recorder.inWindow bars newer).marker newer kind arguments =
      inWindow bars newer <$> recorder.marker bar kind arguments := by
  simp only [marker, map_bind]
  congr 1
  funext condition
  congr 1
  funext holds
  cases holds with
  | false => rfl
  | true => simp only [if_true, map_bind, map_pure, inWindow, Array.map_push, indexed, current]

theorem background_inWindow :
    (recorder.inWindow bars newer).background newer arguments =
      inWindow bars newer <$> recorder.background bar arguments := by
  simp only [background, map_bind]
  congr 1
  funext passed
  congr 1
  funext color
  cases color with
  | none => rfl
  | some color => simp only [map_pure, inWindow, Array.map_push, indexed, current]

theorem addSignal_inWindow (signal : Signal) (holds : Bool) :
    (recorder.inWindow bars newer).addSignal newer signal holds =
      (recorder.addSignal bar signal holds).inWindow bars newer := by
  cases holds with
  | false => rfl
  | true => simp only [addSignal, if_true, inWindow, Array.map_push, indexed, current]

theorem entry_inWindow :
    (recorder.inWindow bars newer).entry newer arguments =
      inWindow bars newer <$> recorder.entry bar arguments := by
  simp only [entry, map_bind]
  congr 1
  funext id
  cases id with
  | none => rfl
  | some id => simp only [map_bind, map_pure, recorder.addSignal_inWindow current]

theorem signal_inWindow (kind : SignalKind) :
    (recorder.inWindow bars newer).signal newer kind arguments =
      inWindow bars newer <$> recorder.signal bar kind arguments := by
  simp only [signal, map_bind, map_pure, recorder.addSignal_inWindow current]

end Marks

/-- Behind the newest bar nothing is left open, and the entries are where their bars are. -/
theorem chart_inWindow (title : String) (overlay : Bool) :
    Loaded.chart (recorder.inWindow bars 0) title overlay = recorder.finish title overlay bars := by
  have plots : Plot.inWindow 0 = id := rfl
  have alerts : Alert.inWindow 0 = id := rfl
  simp only [Loaded.chart, finish, inWindow, Table.map_snd_mapValues, plots, alerts,
    Array.toList_map, List.map_map]
  rfl

end Recorder

def RunState.inWindow (window : List Candle) (newer : Nat) (state : RunState) : Loaded.State where
  memory := state.memory.inWindow window newer
  recorder := state.recorder.inWindow window.length newer

end ChartScript
