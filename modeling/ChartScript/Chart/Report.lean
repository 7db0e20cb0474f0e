import ChartScript.Chart
import ChartScript.Json.Writer

/-!
# Reports

A chart as a JSON value. How numbers are written is left open; the command line writes them as
JSON numbers.
-/

set_option autoImplicit false

namespace ChartScript

def Color.report (color : Color) : Json :=
  .ofNat color.argb.toNat

/-- An object with an item's bar before its own members. -/
def OnBar.report {α : Type} (onBar : OnBar α) (members : α → List (String × Json)) : Json :=
  .object (("bar", .ofNat onBar.bar) :: members onBar.item)

def Plot.report (number : Float → Json) (plot : Plot) : Json :=
  .object [("title", .ofText plot.title), ("values", .array (plot.values.map number)),
    ("color", plot.color.report), ("line_width", number plot.lineWidth)]

def HorizontalLine.report (number : Float → Json) (line : HorizontalLine) : Json :=
  .object [("price", number line.price), ("title", .ofText line.title),
    ("color", line.color.report), ("style", .ofText line.style.name)]

def Shape.members (shape : Shape) : List (String × Json) :=
  [("style", .ofText shape.style), ("location", .ofText shape.location),
    ("color", shape.color.report), ("text", .ofTextOption shape.text)]

def Alert.report (alert : Alert) : Json :=
  .object [("title", .ofText alert.title), ("message", .ofText alert.message),
    ("triggered", .array (alert.triggered.map .ofBool))]

def Signal.members (signal : Signal) : List (String × Json) :=
  [("kind", .ofText signal.kind.name), ("id", .ofText signal.id)]

def Input.report (number : Float → Json) (input : Input) : Json :=
  .object [("name", .ofText input.name), ("default", number input.default),
    ("value", number input.value)]

def Chart.report (number : Float → Json) (chart : Chart) : Json :=
  .object [("title", .ofText chart.title), ("overlay", .ofBool chart.overlay),
    ("error", .ofTextOption chart.error),
    ("plots", .array (chart.plots.map (·.report number))),
    ("hlines", .array (chart.lines.map (·.report number))),
    ("shapes", .array (chart.shapes.map (·.report Shape.members))),
    ("backgrounds", .array (chart.backgrounds.map (·.report fun color =>
      [("color", color.report)]))),
    ("alerts", .array (chart.alerts.map Alert.report)),
    ("signals", .array (chart.signals.map (·.report Signal.members))),
    ("inputs", .array (chart.inputs.map (·.report number)))]

end ChartScript
