import ChartScript.Candle
import ChartScript.Json.Reader
import ChartScript.Numeral.Scaled

/-!
# Candle records

Candles written in JSON: objects with a member for each part, or arrays of the parts in order.
The volume may be left out. Other members of an object are passed over, whatever they hold.
-/

set_option autoImplicit false

namespace ChartScript

namespace Json

def float? : Json → Option Float
  | .number numeral => Numeral.readScaled? numeral.toList
  | _ => none

def word? : Json → Option Int64
  | .number numeral => Numeral.readWord? numeral.toList
  | _ => none

def required? {α : Type} (members : List (String × Json)) (key : String)
    (read : Json → Option α) : Option α :=
  match members.filter (·.1 = key) with
  | [(_, value)] => read value
  | _ => none

def optional? {α : Type} (members : List (String × Json)) (key : String)
    (read : Json → Option α) (default : α) : Option α :=
  match members.filter (·.1 = key) with
  | [] => some default
  | [(_, value)] => read value
  | _ => none

/-- The members of an object under the texts that their keys stand for. -/
def decodeKeys? (members : List (String × Json)) : Option (List (String × Json)) :=
  members.mapM fun (key, value) => do
    return (String.ofList (← decode? key.toList), value)

end Json

namespace Candle

def defaultVolume : Float := 0.0

def ofMembers? (members : List (String × Json)) : Option Candle := do
  let decoded ← Json.decodeKeys? members
  let timestamp ← Json.required? decoded "timestamp" Json.word?
  let openPrice ← Json.required? decoded "open" Json.float?
  let highPrice ← Json.required? decoded "high" Json.float?
  let lowPrice ← Json.required? decoded "low" Json.float?
  let closePrice ← Json.required? decoded "close" Json.float?
  let volume ← Json.optional? decoded "volume" Json.float? defaultVolume
  return ⟨timestamp, openPrice, highPrice, lowPrice, closePrice, volume⟩

def ofElements? : List Json → Option Candle
  | [timestamp, openPrice, highPrice, lowPrice, closePrice] => do
    return ⟨← timestamp.word?, ← openPrice.float?, ← highPrice.float?, ← lowPrice.float?,
      ← closePrice.float?, defaultVolume⟩
  | [timestamp, openPrice, highPrice, lowPrice, closePrice, volume] => do
    return ⟨← timestamp.word?, ← openPrice.float?, ← highPrice.float?, ← lowPrice.float?,
      ← closePrice.float?, ← volume.float?⟩
  | _ => none

def ofJson? : Json → Option Candle
  | .object members => ofMembers? members
  | .array elements => ofElements? elements
  | _ => none

def listOfText? (text : String) : Option (List Candle) := do
  match ← Json.ofText? text with
  | .array elements => elements.mapM ofJson?
  | _ => none

end Candle

end ChartScript
