import ChartScript.Recorder
import Mathlib.Control.Basic
import Mathlib.Logic.Function.Basic

/-!
# Recording under other sites

Plots, lines and alerts are kept under the sites of their calls. With other numbers for the sites
the same calls record the same, and the chart at the end does not show the numbers.
-/

set_option autoImplicit false

namespace ChartScript

namespace Table

variable {κ ν : Type}

/-- The same values under other keys. -/
def mapKeys (rename : κ → κ) (table : Table κ ν) : Table κ ν :=
  table.map fun entry => (rename entry.1, entry.2)

theorem map_snd_mapKeys (rename : κ → κ) (table : Table κ ν) :
    (table.mapKeys rename).map Prod.snd = table.map Prod.snd :=
  List.map_map ..

theorem length_mapKeys (rename : κ → κ) (table : Table κ ν) :
    (table.mapKeys rename).length = table.length :=
  List.length_map _

theorem mapKeys_append_single (rename : κ → κ) (table : Table κ ν) (key : κ) (value : ν) :
    mapKeys rename (table ++ [(key, value)]) = table.mapKeys rename ++ [(rename key, value)] :=
  List.map_append

section Injective

variable [DecidableEq κ] {rename : κ → κ} (injective : Function.Injective rename)
  (table : Table κ ν) (key : κ)

include injective

theorem get?_mapKeys : (table.mapKeys rename).get? (rename key) = table.get? key := by
  induction table with
  | nil => rfl
  | cons entry rest ih =>
    obtain ⟨first, found⟩ := entry
    have unfolded : mapKeys rename ((first, found) :: rest) =
        (rename first, found) :: mapKeys rename rest := rfl
    rw [unfolded, get?_cons, get?_cons, ih]
    simp only [injective.eq_iff]

theorem modify_mapKeys (change : ν → ν) :
    (table.mapKeys rename).modify (rename key) change =
      (table.modify key change).mapKeys rename := by
  simp only [modify, mapKeys, List.map_map]
  refine List.map_congr_left fun entry _ => ?_
  by_cases same : entry.1 = key
  · simp [same]
  · simp [same, injective.eq_iff]

theorem setNew_mapKeys (value : ν) :
    (table.mapKeys rename).setNew (rename key) value =
      (table.setNew key value).mapKeys rename := by
  unfold setNew
  rw [table.get?_mapKeys injective]
  cases table.get? key with
  | some _ => rfl
  | none => exact (mapKeys_append_single ..).symm

end Injective

end Table

namespace Recorder

/-- What the same calls would record if their sites had other numbers. -/
def renumber (number : Nat → Nat) (recorder : Recorder) : Recorder :=
  { recorder with
    plots := Table.mapKeys number recorder.plots
    lines := Table.mapKeys number recorder.lines
    alerts := Table.mapKeys number recorder.alerts }

theorem openBar_renumber (number : Nat → Nat) (recorder : Recorder) :
    (recorder.renumber number).openBar = recorder.openBar.renumber number := by
  simp only [openBar, renumber, Table.mapKeys, List.map_map]
  rfl

theorem finish_renumber (number : Nat → Nat) (recorder : Recorder) (title : String)
    (overlay : Bool) (bars : Nat) :
    (recorder.renumber number).finish title overlay bars = recorder.finish title overlay bars := by
  simp only [finish, renumber, Table.map_snd_mapKeys]

section Drawing

variable {number : Nat → Nat} (recorder : Recorder) (bar bars : Nat) (arguments : Arguments)

theorem marker_renumber (kind : MarkerKind) :
    (recorder.renumber number).marker bar kind arguments =
      renumber number <$> recorder.marker bar kind arguments := by
  unfold marker
  simp only [map_bind]
  congr 1
  funext condition
  congr 1
  funext holds
  cases holds with
  | false => rfl
  | true => simp only [if_true, map_bind]; rfl

theorem background_renumber :
    (recorder.renumber number).background bar arguments =
      renumber number <$> recorder.background bar arguments := by
  unfold background
  simp only [map_bind]
  congr 1
  funext passed
  congr 1
  funext color
  cases color <;> rfl

theorem addSignal_renumber (signal : Signal) (holds : Bool) :
    (recorder.renumber number).addSignal bar signal holds =
      (recorder.addSignal bar signal holds).renumber number := by
  cases holds <;> rfl

theorem entry_renumber :
    (recorder.renumber number).entry bar arguments =
      renumber number <$> recorder.entry bar arguments := by
  unfold entry
  simp only [map_bind]
  congr 1
  funext id
  cases id with
  | none => rfl
  | some id => simp only [map_bind, map_pure, addSignal_renumber]

theorem signal_renumber (kind : SignalKind) :
    (recorder.renumber number).signal bar kind arguments =
      renumber number <$> recorder.signal bar kind arguments := by
  simp only [signal, map_bind, map_pure, addSignal_renumber]

theorem alertParts_renumber :
    (recorder.renumber number).alertParts arguments = recorder.alertParts arguments := by
  simp only [alertParts, renumber, Table.length_mapKeys]

variable (injective : Function.Injective number) (site : Nat)

include injective

theorem declarePlot_renumber (title : Option String) :
    (recorder.renumber number).declarePlot (number site) title =
      (recorder.declarePlot site title).renumber number := by
  simp only [declarePlot, renumber, Table.length_mapKeys, Table.setNew_mapKeys injective]

theorem plot_renumber :
    (recorder.renumber number).plot (number site) arguments =
      renumber number <$> recorder.plot site arguments := by
  simp only [plot, map_bind, map_pure, renumber, Table.modify_mapKeys injective]

theorem line_renumber :
    (recorder.renumber number).line (number site) arguments =
      renumber number <$> recorder.line site arguments := by
  have known : Table.get? (recorder.renumber number).lines (number site) =
      Table.get? recorder.lines site := Table.get?_mapKeys injective _ _
  unfold line
  rw [known]
  cases Table.get? recorder.lines site with
  | some _ => rfl
  | none =>
    simp only [map_bind, map_pure, renumber, Table.mapKeys_append_single]

theorem alert_renumber :
    (recorder.renumber number).alert (number site) bars arguments =
      renumber number <$> recorder.alert site bars arguments := by
  simp only [alert, map_bind, map_pure, alertParts_renumber]
  simp only [renumber, Table.setNew_mapKeys injective, Table.modify_mapKeys injective]

end Drawing

end Recorder

end ChartScript
