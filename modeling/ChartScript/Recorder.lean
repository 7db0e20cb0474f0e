import ChartScript.Arguments
import ChartScript.Chart
import ChartScript.Indicator
import ChartScript.Table

/-!
# Recording a chart

A recorder grows while a script runs from the oldest bar to the newest. Plots, lines and alerts
belong to the call that made them, so the same call fills one of them on all bars. Shapes,
backgrounds and signals are kept with the number of their bar counted from the oldest;
`Recorder.finish` counts them back from the newest.
-/

set_option autoImplicit false

namespace ChartScript

structure Recorder where
  plots : Table Nat Plot
  lines : Table Nat HorizontalLine
  shapes : Array (Nat × Shape)
  backgrounds : Array (Nat × Color)
  alerts : Table Nat Alert
  signals : Array (Nat × Signal)
  inputs : Table String Input

inductive MarkerKind where
  | shape
  | character
deriving Repr, DecidableEq

namespace Recorder

def empty : Recorder := ⟨[], [], #[], #[], [], #[], []⟩

/-- Adds the plot of a call, so that a call that is never run is plotted too. A plot without a
title is numbered. -/
def declarePlot (recorder : Recorder) (site : Nat) (title : Option String) : Recorder :=
  let title := title.getD ("Plot " ++ toString (recorder.plots.length + 1))
  let plot : Plot := ⟨title, [], Chart.plotColor, Chart.lineWidth⟩
  { recorder with plots := Table.setNew recorder.plots site plot }

/-- Starts a bar: no plot has a value on it and no alert is triggered. -/
def openBar (recorder : Recorder) : Recorder :=
  { recorder with
    plots := recorder.plots.map fun (site, plot) =>
      (site, { plot with values := Series.openBar plot.values })
    alerts := recorder.alerts.map fun (site, alert) =>
      (site, { alert with triggered := false :: alert.triggered }) }

/-- Sets what a bar's call passes: the value, and the title, color and finite width if given. -/
def updatePlot (plot : Plot) (value : Float) (title : Option String) (color : Option Color)
    (width : Option Float) : Plot where
  title := title.getD plot.title
  color := color.getD plot.color
  lineWidth := (width.filter Float.isFinite).getD plot.lineWidth
  values := Series.setNow plot.values value

def plot (recorder : Recorder) (site : Nat) (arguments : Arguments) :
    Except RunError Recorder := do
  let value ← arguments.requiredNumber 0 "series"
  let title ← arguments.string? 1 "title"
  let color ← arguments.color? 2 "color"
  let width ← arguments.number? 3 "linewidth"
  return { recorder with
    plots := Table.modify recorder.plots site (updatePlot · value title color width) }

def lineStyle (arguments : Arguments) : Except RunError LineStyle := do
  match ← arguments.string? 3 "linestyle" with
  | none => return .dashed
  | some name =>
    match LineStyle.ofName? name with
    | some style => return style
    | none =>
      .error (.invalidArgument "hline" "linestyle" ("unknown line style '" ++ name ++ "'"))

def line (recorder : Recorder) (site : Nat) (arguments : Arguments) :
    Except RunError Recorder :=
  match Table.get? recorder.lines site with
  | some _ => .ok recorder
  | none => do
    let price ← arguments.requiredNumber 0 "price"
    let title ← arguments.string? 1 "title"
    let color ← arguments.color? 2 "color"
    let style ← lineStyle arguments
    let line : HorizontalLine := ⟨price, title.getD "", color.getD Chart.lineColor, style⟩
    return { recorder with lines := recorder.lines ++ [(site, line)] }

def markerStyle (kind : MarkerKind) (arguments : Arguments) :
    Except RunError (String × Option String) :=
  match kind with
  | .shape => do
    let style ← arguments.string? 2 "style"
    let text ← arguments.namedString? "text"
    return (style.getD "xcross", text)
  | .character => do
    let character ← arguments.string? 2 "char"
    return ("char", some (character.getD "★"))

def marker (recorder : Recorder) (bar : Nat) (kind : MarkerKind) (arguments : Arguments) :
    Except RunError Recorder := do
  let condition ← arguments.required 0 "series"
  if ← condition.truthy (arguments.operation "series") then
    let (style, text) ← markerStyle kind arguments
    let location ← arguments.string? 3 "location"
    let color ← arguments.color? 4 "color"
    let shape : Shape :=
      ⟨style, location.getD "abovebar", color.getD Chart.plotColor, text⟩
    return { recorder with shapes := recorder.shapes.push (bar, shape) }
  else return recorder

def background (recorder : Recorder) (bar : Nat) (arguments : Arguments) :
    Except RunError Recorder := do
  let _ ← arguments.required 0 "color"
  match ← arguments.color? 0 "color" with
  | some color => return { recorder with backgrounds := recorder.backgrounds.push (bar, color) }
  | none => return recorder

/-- Whether an alert is triggered, and its title and message. An alert on a string is triggered
with the string as its message. -/
def alertParts (recorder : Recorder) (arguments : Arguments) :
    Except RunError (Bool × String × String) := do
  match ← arguments.required 0 "condition" with
  | .string message =>
    let title ← arguments.namedString? "title"
    return (true, title.getD message, message)
  | condition =>
    let triggered ← condition.truthy (arguments.operation "condition")
    let givenTitle ← arguments.string? 1 "title"
    let title := givenTitle.getD ("Alert " ++ toString (recorder.alerts.length + 1))
    let message ← arguments.string? 2 "message"
    return (triggered, title, message.getD title)

def setTriggered (alert : Alert) (triggered : Bool) : Alert :=
  { alert with triggered := match alert.triggered with
    | [] => []
    | _ :: older => triggered :: older }

/-- Takes the parameters `condition`, `title` and `message`. The first call settles the texts;
`bars` is the number of bars so far. -/
def alert (recorder : Recorder) (site bars : Nat) (arguments : Arguments) :
    Except RunError Recorder := do
  let (triggered, title, message) ← alertParts recorder arguments
  let first : Alert := ⟨title, message, List.replicate bars false⟩
  let declared := Table.setNew recorder.alerts site first
  return { recorder with alerts := Table.modify declared site (setTriggered · triggered) }

def addSignal (recorder : Recorder) (bar : Nat) (signal : Signal) (holds : Bool) : Recorder :=
  if holds then { recorder with signals := recorder.signals.push (bar, signal) } else recorder

def entryKind (direction : String) : Except RunError SignalKind :=
  match direction with
  | "long" => .ok .long
  | "short" => .ok .short
  | other => .error (.invalidArgument "strategy.entry" "direction"
      ("expected strategy.long or strategy.short, got '" ++ other ++ "'"))

def entry (recorder : Recorder) (bar : Nat) (arguments : Arguments) :
    Except RunError Recorder := do
  match ← arguments.string? 0 "id" with
  | none => .error (.missingArgument "strategy.entry" "id")
  | some id =>
    let direction ← arguments.string? 1 "direction"
    let kind ← entryKind (direction.getD "")
    let holds ← arguments.namedFlag? "when"
    return recorder.addSignal bar ⟨kind, id⟩ (holds.getD true)

def defaultId : SignalKind → String
  | .long => "Long"
  | .short => "Short"
  | .close => "all"

/-- The first string among positional values is the id and the first other value the condition,
where they were not passed by name. -/
def signalParts (arguments : Arguments) :
    Option String → Option Bool → List Value → Except RunError (Option String × Option Bool)
  | id, holds, [] => .ok (id, holds)
  | none, holds, .string text :: rest => signalParts arguments (some text) holds rest
  | id, none, value :: rest => do
    let condition ← value.truthy (arguments.operation "when")
    signalParts arguments id (some condition) rest
  | id, some holds, _ :: rest => signalParts arguments id (some holds) rest

def signal (recorder : Recorder) (bar : Nat) (kind : SignalKind) (arguments : Arguments) :
    Except RunError Recorder := do
  let namedId ← arguments.namedString? "id"
  let namedHolds ← arguments.namedFlag? "when"
  let (id, holds) ← signalParts arguments namedId namedHolds arguments.values
  return recorder.addSignal bar ⟨kind, id.getD (defaultId kind)⟩ (holds.getD true)

/-- Declares an input the first time its name comes, and gives its value: the override for the
name, or else the default. -/
def input (recorder : Recorder) (overrides : Table String Float) (name : String)
    (default : Float) : Float × Recorder :=
  let value := (Table.get? overrides name).getD default
  (value, { recorder with
    inputs := Table.setNew recorder.inputs name ⟨name, default, value⟩ })

def fromNewest {α : Type} (bars : Nat) (entry : Nat × α) : OnBar α :=
  ⟨bars - 1 - entry.1, entry.2⟩

def finish (recorder : Recorder) (title : String) (overlay : Bool) (bars : Nat) : Chart where
  title := title
  overlay := overlay
  error := none
  plots := recorder.plots.map (·.2)
  lines := recorder.lines.map (·.2)
  shapes := recorder.shapes.toList.map (fromNewest bars)
  backgrounds := recorder.backgrounds.toList.map (fromNewest bars)
  alerts := recorder.alerts.map (·.2)
  signals := recorder.signals.toList.map (fromNewest bars)
  inputs := recorder.inputs.map (·.2)

end Recorder

end ChartScript
