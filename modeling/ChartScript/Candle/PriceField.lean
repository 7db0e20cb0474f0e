import ChartScript.Candle
import ChartScript.Numeral.Dyadic

/-!
# Price fields

The series that every script can read: what a candle tells about its bar, and three averages of
its prices.
-/

set_option autoImplicit false

namespace ChartScript

/-- A candle and how many bars of the window are older. -/
structure Bar where
  candle : Candle
  index : Nat
deriving Repr, Inhabited

inductive PriceField where
  | openPrice
  | highPrice
  | lowPrice
  | closePrice
  | volume
  | time
  | medianPrice
  | typicalPrice
  | meanPrice
  | barIndex
deriving Repr, DecidableEq

namespace PriceField

def ofName? : String → Option PriceField
  | "open" => some openPrice
  | "high" => some highPrice
  | "low" => some lowPrice
  | "close" => some closePrice
  | "volume" => some volume
  | "time" => some time
  | "hl2" => some medianPrice
  | "hlc3" => some typicalPrice
  | "ohlc4" => some meanPrice
  | "bar_index" => some barIndex
  | _ => none

def value (field : PriceField) (bar : Bar) : Float :=
  let candle := bar.candle
  match field with
  | openPrice => candle.openPrice
  | highPrice => candle.highPrice
  | lowPrice => candle.lowPrice
  | closePrice => candle.closePrice
  | volume => candle.volume
  | time => Numeral.ofInteger candle.timestamp.toInt
  | medianPrice => (candle.highPrice + candle.lowPrice) / 2.0
  | typicalPrice => (candle.highPrice + candle.lowPrice + candle.closePrice) / 3.0
  | meanPrice =>
    (candle.openPrice + candle.highPrice + candle.lowPrice + candle.closePrice) / 4.0
  | barIndex => Numeral.ofIndex bar.index

end PriceField

end ChartScript
