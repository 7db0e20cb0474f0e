import ChartScript.Candle
import ChartScript.Numeral.Dyadic

/-!
# The candle ring

A ring keeps the latest candles of a stream. Its capacity is a power of two, so the slot of a
candle is the low part of a 64-bit count of the candles pushed so far, and stays right when that
count wraps around. `Ring.window` is the view: the candles, newest first.
-/

set_option autoImplicit false

namespace ChartScript

structure Ring where
  /-- Grows while the ring fills up, and is overwritten after that. -/
  slots : Array Candle
  /-- The low bits of a count that name a slot: one less than the capacity. -/
  mask : UInt64
  /-- Where the next candle goes, before the reduction to a slot. -/
  head : UInt64
  size : Nat
deriving Inhabited

namespace Ring

def defaultCapacity : Nat := 1024

def capacityFor (requested : Nat) : Nat :=
  if requested ≤ 1 then 1 else Numeral.twoTo ((requested - 1).log2 + 1)

def withCapacity (requested : Nat) : Ring :=
  ⟨#[], UInt64.ofNat (capacityFor requested - 1), 0, 0⟩

def capacity (ring : Ring) : Nat :=
  ring.mask.toNat + 1

def isEmpty (ring : Ring) : Bool :=
  ring.size = 0

def slotOf (ring : Ring) (count : UInt64) : Nat :=
  (count &&& ring.mask).toNat

/-- Adds a newest candle and gives the oldest one if it had to go. -/
def push (ring : Ring) (candle : Candle) : Ring × Option Candle :=
  let slot := ring.slotOf ring.head
  let next := ring.head + 1
  if ring.slots.size < ring.capacity then
    ({ ring with slots := ring.slots.push candle, head := next, size := ring.size + 1 }, none)
  else
    ({ ring with slots := ring.slots.setIfInBounds slot candle, head := next }, ring.slots[slot]?)

/-- Puts a candle in the place of the newest, if there is one. -/
def updateLatest (ring : Ring) (candle : Candle) : Ring × Bool :=
  if ring.isEmpty then (ring, false)
  else
    ({ ring with slots := ring.slots.setIfInBounds (ring.slotOf (ring.head - 1)) candle }, true)

def extend (ring : Ring) (candles : List Candle) : Ring :=
  candles.foldl (fun ring candle => (ring.push candle).1) ring

def clear (ring : Ring) : Ring :=
  { ring with slots := #[], head := 0, size := 0 }

def slotBefore (ring : Ring) (index : Nat) : Nat :=
  ring.slotOf (ring.head - (1 + UInt64.ofNat index))

def candle? (ring : Ring) (index : Nat) : Option Candle :=
  if index < ring.size then ring.slots[ring.slotBefore index]? else none

def window (ring : Ring) : List Candle :=
  (List.range ring.size).filterMap ring.candle?

end Ring

end ChartScript
