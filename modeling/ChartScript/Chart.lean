import ChartScript.Color

/-!
# Charts

What a script draws: the record that a run yields. Plot values and alert flags hold one entry for
each bar, the newest first. Shapes, backgrounds and signals name their bar by its distance from
the newest. A chart with an error has nothing else to draw.
-/

set_option autoImplicit false

namespace ChartScript

structure Plot where
  title : String
  values : List Float
  color : Color
  lineWidth : Float
deriving Repr

inductive LineStyle where
  | solid
  | dashed
  | dotted
deriving Repr, DecidableEq

namespace LineStyle

def name : LineStyle → String
  | solid => "solid"
  | dashed => "dashed"
  | dotted => "dotted"

def ofName? : String → Option LineStyle
  | "solid" => some solid
  | "dashed" => some dashed
  | "dotted" => some dotted
  | _ => none

end LineStyle

structure HorizontalLine where
  price : Float
  title : String
  color : Color
  style : LineStyle
deriving Repr

/-- Something on one bar, which is counted back from the newest. -/
structure OnBar (α : Type) where
  bar : Nat
  item : α
deriving Repr

structure Shape where
  style : String
  location : String
  color : Color
  text : Option String
deriving Repr

structure Alert where
  title : String
  message : String
  triggered : List Bool
deriving Repr

inductive SignalKind where
  | long
  | short
  | close
deriving Repr, DecidableEq

def SignalKind.name : SignalKind → String
  | long => "long"
  | short => "short"
  | close => "close"

structure Signal where
  kind : SignalKind
  id : String
deriving Repr

structure Input where
  name : String
  default : Float
  value : Float
deriving Repr

structure Chart where
  title : String
  overlay : Bool
  error : Option String
  plots : List Plot
  lines : List HorizontalLine
  shapes : List (OnBar Shape)
  backgrounds : List (OnBar Color)
  alerts : List Alert
  signals : List (OnBar Signal)
  inputs : List Input
deriving Repr

namespace Chart

def defaultTitle : String := "Script"

def plotColor : Color := .opaqueOf 0x2196F3

def lineColor : Color := .opaqueOf 0x787B86

def lineWidth : Float := 1.0

/-- A chart that only tells why there is none. -/
def failed (title error : String) : Chart :=
  ⟨title, false, some error, [], [], [], [], [], [], []⟩

end Chart

end ChartScript
