import ChartScript.Numeral.Dyadic

/-!
# Colors

A color is one word with alpha, red, green and blue in a byte each, alpha in the highest. Scripts
write colors as hexadecimal digits with the alpha last, take them from a palette, or derive them
from another color by a transparency in percent.
-/

set_option autoImplicit false

namespace ChartScript

structure Color where
  argb : UInt32
deriving Repr, DecidableEq, Inhabited

namespace Color

def rgb (color : Color) : UInt32 :=
  color.argb &&& 0x00FFFFFF

def alpha (color : Color) : UInt32 :=
  color.argb >>> 24

def opaqueOf (rgb : UInt32) : Color :=
  ⟨0xFF000000 ||| (rgb &&& 0x00FFFFFF)⟩

def hexDigit? (digit : Char) : Option Nat :=
  if digit.isDigit then some (digit.toNat - '0'.toNat)
  else if 'a' ≤ digit && digit ≤ 'f' then some (digit.toNat - 'a'.toNat + 10)
  else if 'A' ≤ digit && digit ≤ 'F' then some (digit.toNat - 'A'.toNat + 10)
  else none

def hexValue? (digits : List Char) : Option Nat :=
  digits.foldl (fun value digit => do
    let before ← value
    let next ← hexDigit? digit
    return 16 * before + next) (some 0)

/-- Reads `RRGGBB`, which is opaque, or `RRGGBBAA`. -/
def ofHex? (digits : List Char) : Option Color := do
  let value ← hexValue? digits
  if digits.length = 6 then return opaqueOf value.toUInt32
  else if digits.length = 8 then return ⟨(value % 0x100 * 0x1000000 + value / 0x100).toUInt32⟩
  else none

/-- The alpha byte for a transparency between 0 and 100; a transparency outside of that counts as
the nearer end, and one that is not a number leaves nothing visible. -/
def alphaOf (transparency : Float) : UInt32 :=
  let raised := if transparency < 0.0 then 0.0 else transparency
  let clamped := if raised > 100.0 then 100.0 else raised
  let alpha := 255.0 * (1.0 - clamped / 100.0)
  let whole := alpha.toUInt32
  if alpha - whole.toFloat ≥ 0.5 then whole + 1 else whole

def withTransparency (color : Color) (transparency : Float) : Color :=
  ⟨(alphaOf transparency <<< 24) ||| color.rgb⟩

def named? (name : String) : Option Color :=
  match name with
  | "aqua" => some (opaqueOf 0x00BCD4)
  | "black" => some (opaqueOf 0x363A45)
  | "blue" => some (opaqueOf 0x2196F3)
  | "fuchsia" => some (opaqueOf 0xE040FB)
  | "gray" => some (opaqueOf 0x787B86)
  | "green" => some (opaqueOf 0x4CAF50)
  | "lime" => some (opaqueOf 0x00E676)
  | "maroon" => some (opaqueOf 0x880E4F)
  | "navy" => some (opaqueOf 0x311B92)
  | "olive" => some (opaqueOf 0x808000)
  | "orange" => some (opaqueOf 0xFF9800)
  | "purple" => some (opaqueOf 0x9C27B0)
  | "red" => some (opaqueOf 0xFF5252)
  | "silver" => some (opaqueOf 0xB2B5BE)
  | "teal" => some (opaqueOf 0x00897B)
  | "white" => some (opaqueOf 0xFFFFFF)
  | "yellow" => some (opaqueOf 0xFFEB3B)
  | _ => none

def hexText (color : Color) : String :=
  let digits := (Nat.toDigits 16 color.argb.toNat).map Char.toUpper
  String.ofList (List.replicate (8 - digits.length) '0' ++ digits)

end Color

end ChartScript
