/-!
# Candles

What happened to a price during one bar of a chart.
-/

set_option autoImplicit false

namespace ChartScript

structure Candle where
  timestamp : Int64
  openPrice : Float
  highPrice : Float
  lowPrice : Float
  closePrice : Float
  volume : Float
deriving Repr, Inhabited

end ChartScript
