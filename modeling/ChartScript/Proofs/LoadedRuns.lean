import ChartScript.Proofs.LoadedEvaluation
import ChartScript.Proofs.NoLookAhead

/-!
# Runs over a loaded window do not look ahead

To go to the next bar of a loaded window is to open the next bar, so a whole run that reads columns
at indexes is the run that opens bar after bar (`Loaded.run_eq`). There the bars that are newer do
not come up before they are opened. So although all candles are loaded from the start, the newest
ones change nothing of what is drawn on the bars before.
-/

set_option autoImplicit false

namespace ChartScript

namespace Loaded

variable {window : List Candle} {newer : Nat}

theorem getElem?_barsOf (window : List Candle) (index : Nat) :
    (barsOf window)[index]? = window[index]?.map (⟨·, window.length - 1 - index⟩) :=
  List.getElem?_mapIdx

theorem drop_barsOf {candle : Candle} (next : window[newer]? = some candle) :
    (barsOf window).drop newer =
      ⟨candle, window.length - 1 - newer⟩ :: (barsOf window).drop (newer + 1) := by
  have bar : (barsOf window)[newer]? = some ⟨candle, window.length - 1 - newer⟩ := by
    rw [getElem?_barsOf, next]
    rfl
  obtain ⟨within, found⟩ := List.getElem?_eq_some_iff.mp bar
  rw [List.drop_eq_getElem_cons within, found]

theorem fits_openBar {memory : ChartScript.Memory} {candle : Candle}
    (bars : memory.bars = (barsOf window).drop (newer + 1)) (next : window[newer]? = some candle) :
    (memory.openBar candle).Fits window newer := by
  obtain ⟨within, _⟩ := List.getElem?_eq_some_iff.mp next
  have count : memory.bars.length = window.length - (newer + 1) := by
    rw [bars, List.length_drop, barsOf, List.length_mapIdx]
  have index : window.length - 1 - newer = memory.bars.length := by omega
  refine ⟨?_, ?_, ?_⟩
  · rw [drop_barsOf next, index, ← bars]
    rfl
  · show newer + (memory.bars.length + 1) = window.length
    omega
  · show window.length - 1 - memory.bars.length = newer
    omega

theorem openBar_inWindow (state : RunState) (candle : Candle) :
    (state.openBar candle).inWindow window newer =
      (state.inWindow window (newer + 1)).on newer := by
  unfold RunState.inWindow RunState.openBar
  rw [Memory.openBar_inWindow, Recorder.openBar_inWindow]
  rfl

theorem initial_inWindow (script : Script) :
    initial script window =
      (script.initial.inWindow window window.length).on (window.length - 1) := by
  have slots (names : List String) : Table.mapValues (Slot.inWindow window.length)
      (names.map fun name => (name, ChartScript.Slot.numeric [])) =
        names.map fun name => (name, .numeric (.blank window.length)) := by
    rw [Table.mapValues, List.map_map]
    apply List.map_congr_left
    intro name _
    exact congrArg (fun column => (name, Slot.numeric column)) (List.append_nil _)
  have sites : (Array.replicate script.program.siteCount SiteMemory.empty).map
      (SiteMemory.inWindow window.length) =
        Array.replicate script.program.siteCount (.blank window.length) := by
    rw [Array.map_replicate]
    simp only [SiteMemory.inWindow, SiteMemory.empty, overWindow, List.append_nil]
    rfl
  have plots : declarePlots window.length script.plots =
      script.initial.recorder.inWindow window.length window.length := by
    rw [declarePlots, ← Recorder.empty_inWindow]
    exact List.foldl_hom _ fun recorder plot => recorder.declarePlot_inWindow plot.1 plot.2
  rw [initial, plots]
  simp only [Memory.load, State.on, RunState.inWindow, Memory.inWindow, Script.initial,
    ChartScript.Memory.empty, slots, sites]

/-! ## Whole runs -/

variable (script : Script) (overrides : Table String Float)

theorem runBelow_reflects (candles older : List Candle) (parts : window = candles.reverse ++ older)
    (state : RunState) (fits : state.memory.Fits window candles.length) :
    Reflects window 0 Eq
      (outcome (runBelow script overrides candles.length) (state.inWindow window candles.length))
      (ChartScript.Eval.outcome (script.runBars overrides candles) state) := by
  induction candles generalizing older state with
  | nil => exact .ok state rfl fits
  | cons candle rest ih =>
    have parts : window = rest.reverse ++ candle :: older := by
      rw [parts, List.reverse_cons, List.append_assoc, List.singleton_append]
    have next : window[rest.length]? = some candle := by
      simp [parts]
    -- The index goes down by one, and on the other side the next candle is opened.
    have onBar := executeAll_refines overrides script.program.statements (state.openBar candle)
      (fits_openBar fits.bars next)
    rw [openBar_inWindow] at onBar
    exact onBar.bind fun _ _ _ after fitsAfter => ih (candle :: older) parts after fitsAfter

/-- Over a window without bars there is the declaration only. -/
theorem runWindow_reflects (window : List Candle) :
    Reflects window 0 Eq (outcome (runWindow script overrides window.length) (initial script window))
      (ChartScript.Eval.outcome (script.runWindow overrides window.reverse) script.initial) := by
  rw [initial_inWindow]
  cases reversed : window.reverse with
  | nil =>
    obtain rfl := List.reverse_eq_nil_iff.mp reversed
    have fits : script.initial.memory.Fits [] 0 := ⟨rfl, rfl, rfl⟩
    have headed := heading_refines overrides script script.initial fits
    have same : script.runWindow overrides [] = script.heading overrides >>= pure :=
      (bind_pure _).symm
    rw [same]
    exact headed.bind fun _ _ same after fits => .ok after same fits
  | cons oldest newest =>
    have parts : window = newest.reverse ++ [oldest] := by
      rw [← List.reverse_cons, ← reversed, List.reverse_reverse]
    have count : window.length = newest.length + 1 := by
      rw [← List.length_reverse, reversed, List.length_cons]
    have next : window[newest.length]? = some oldest := by
      simp [parts]
    have none : script.initial.memory.bars = (barsOf window).drop (newest.length + 1) := by
      rw [List.drop_of_length_le]
      · rfl
      · rw [barsOf, List.length_mapIdx]
        exact Nat.le_of_eq count
    -- The declaration is evaluated where the oldest bar is the current one already.
    have headed := heading_refines overrides script (script.initial.openBar oldest)
      (fits_openBar none next)
    rw [openBar_inWindow] at headed
    have first : newest.length + 1 - 1 = newest.length := rfl
    rw [count, first]
    unfold runWindow
    apply headed.bind
    intro heading other same after fits
    have onBar := executeAll_refines overrides script.program.statements after fits
    simp only [runBelow, bind_assoc]
    apply onBar.bind
    intro _ _ _ first fits
    apply (runBelow_reflects script overrides newest [oldest] parts first fits).bind
    intro _ _ _ final fits
    exact .ok final same fits

/-- A run over a loaded window is the run that opens one bar after the other. -/
theorem run_eq (window : List Candle) :
    run script window overrides = script.run window overrides := by
  have reflects := runWindow_reflects script overrides window
  rw [ChartScript.Eval.run_outcome]
  have ran : run script window overrides =
      match outcome (runWindow script overrides window.length) (initial script window) with
      | (.ok heading, final) => .ok (chart final.recorder heading.1 heading.2)
      | (.error error, _) => .error error := by
    unfold run outcome
    rcases (runWindow script overrides window.length).run.run (initial script window) with
      ⟨_ | _, _⟩ <;> rfl
  rw [ran]
  revert reflects
  generalize outcome (runWindow script overrides window.length) (initial script window) = loaded
  generalize ChartScript.Eval.outcome (script.runWindow overrides window.reverse) script.initial =
    opened
  intro reflects
  cases reflects with
  | error => rfl
  | @ok final heading _ same fits =>
    subst same
    have count : final.memory.bars.length = window.length :=
      (Nat.zero_add _).symm.trans fits.count
    simp only [RunState.inWindow, Recorder.chart_inWindow, count]

end Loaded

/-! ## No look-ahead -/

namespace Loaded

open Script

/-- A run over a loaded window gives what the run gives that opens bar after bar. Over the older
part of the window it draws what it draws on that part over the whole window, and an error on the
older part is the error of the whole run. -/
theorem run_older_part (script : Script) (window : List Candle)
    (overrides : Table String Float) (newest : Nat) (remains : newest < window.length) :
    (∀ candles, run script candles overrides = script.run candles overrides) ∧
    (∀ whole, run script window overrides = .ok whole →
      ∃ older, run script (window.drop newest) overrides = .ok older ∧
        older.IsOlder newest whole) ∧
    ∀ error, run script (window.drop newest) overrides = .error error →
      run script window overrides = .error error := by
  refine ⟨run_eq script overrides, ?_⟩
  rw [run_eq, run_eq]
  exact script.run_drop_isOlder window overrides newest remains

def drawingSource : String :=
  "plot(sma(close, 2))\nplotshape(close > 1)\nalert(close > 2)"

/-- Fails on the second bar of the rising candles. -/
def failingSource : String :=
  "if close > 1\n  text = close + high[close - 3]"

theorem run_older_part_rising :
    (∃ script whole, ofSource? drawingSource = some script ∧
      run script risingCandles [] = .ok whole ∧
      ∃ older, run script (risingCandles.drop 1) [] = .ok older ∧ older.IsOlder 1 whole) ∧
    ∃ script error, ofSource? failingSource = some script ∧
      run script (risingCandles.drop 1) [] = .error error ∧
      run script risingCandles [] = .error error := by
  constructor
  · have prepares : (ofSource? drawingSource).isSome := by decide +kernel
    have succeeds : ∀ script ∈ ofSource? drawingSource,
        (run script risingCandles []).isOk = true := by decide +kernel
    obtain ⟨script, found⟩ := Option.isSome_iff_exists.mp prepares
    have ran := succeeds script found
    rcases drawn : run script risingCandles [] with _ | whole
    · rw [drawn] at ran
      cases ran
    · have older := (run_older_part script risingCandles [] 1 (by decide)).2.1 whole drawn
      exact ⟨script, whole, found, drawn, older⟩
  · have prepares : (ofSource? failingSource).isSome := by decide +kernel
    have fails : ∀ script ∈ ofSource? failingSource,
        (run script (risingCandles.drop 1) []).isOk = false := by decide +kernel
    obtain ⟨script, found⟩ := Option.isSome_iff_exists.mp prepares
    have ran := fails script found
    rcases failed : run script (risingCandles.drop 1) [] with error | _
    · have whole := (run_older_part script risingCandles [] 1 (by decide)).2.2 error failed
      exact ⟨script, error, found, failed, whole⟩
    · rw [failed] at ran
      cases ran

end Loaded

end ChartScript
