/-!
# JSON values

Values of the JSON grammar. Numbers and strings are kept as they are written, so that a value
says everything its text says; `Json.text?` gives the text that a string stands for and
`Json.ofText` the string for a text. The members of an object are in the order of the text.
-/

set_option autoImplicit false

namespace ChartScript

inductive Json where
  | null
  | boolean (value : Bool)
  | number (numeral : String)
  /-- What stands between the quotes, with its escapes. -/
  | string (raw : String)
  | array (elements : List Json)
  | object (members : List (String × Json))
deriving Inhabited

namespace Json

/-! ## Strings -/

def fourHexDigits (number : Nat) : List Char :=
  let digits := Nat.toDigits 16 number
  List.replicate (4 - digits.length) '0' ++ digits

/-- A character inside a string. Only quotes, backslashes and controls are escaped. -/
def escapedChar (character : Char) : List Char :=
  match character with
  | '"' => ['\\', '"']
  | '\\' => ['\\', '\\']
  | '\n' => ['\\', 'n']
  | '\r' => ['\\', 'r']
  | '\t' => ['\\', 't']
  | '\x08' => ['\\', 'b']
  | '\x0c' => ['\\', 'f']
  | other =>
    if other.toNat < 0x20 then ['\\', 'u'] ++ fourHexDigits other.toNat else [other]

def escape (text : String) : String :=
  String.ofList (text.toList.flatMap escapedChar)

def ofText (text : String) : Json :=
  .string (escape text)

def hexDigit? (digit : Char) : Option Nat :=
  if digit.isDigit then some (digit.toNat - '0'.toNat)
  else if 'a' ≤ digit && digit ≤ 'f' then some (digit.toNat - 'a'.toNat + 10)
  else if 'A' ≤ digit && digit ≤ 'F' then some (digit.toNat - 'A'.toNat + 10)
  else none

def codeUnit? (first second third fourth : Char) : Option Nat := do
  return 4096 * (← hexDigit? first) + 256 * (← hexDigit? second) + 16 * (← hexDigit? third) +
    (← hexDigit? fourth)

def letterEscape? : Char → Option Char
  | '"' => some '"'
  | '\\' => some '\\'
  | '/' => some '/'
  | 'b' => some '\x08'
  | 'f' => some '\x0c'
  | 'n' => some '\n'
  | 'r' => some '\r'
  | 't' => some '\t'
  | _ => none

def isHighSurrogate (unit : Nat) : Bool :=
  0xD800 ≤ unit && unit < 0xDC00

def isLowSurrogate (unit : Nat) : Bool :=
  0xDC00 ≤ unit && unit < 0xE000

/-- The text that the contents of a string stand for; none if half of a pair stands alone. -/
def decode? : List Char → Option (List Char)
  | [] => some []
  | '\\' :: 'u' :: a :: b :: c :: d :: '\\' :: 'u' :: e :: f :: g :: h :: rest => do
    let unit ← codeUnit? a b c d
    if isHighSurrogate unit then
      let low ← codeUnit? e f g h
      if isLowSurrogate low then
        let character := Char.ofNat (0x10000 + (unit - 0xD800) * 0x400 + (low - 0xDC00))
        return character :: (← decode? rest)
      else none
    else if isLowSurrogate unit then none
    else return Char.ofNat unit :: (← decode? ('\\' :: 'u' :: e :: f :: g :: h :: rest))
  | '\\' :: 'u' :: a :: b :: c :: d :: rest => do
    let unit ← codeUnit? a b c d
    if isHighSurrogate unit || isLowSurrogate unit then none
    else return Char.ofNat unit :: (← decode? rest)
  | '\\' :: letter :: rest => do
    return (← letterEscape? letter) :: (← decode? rest)
  | character :: rest => do
    return character :: (← decode? rest)

def text? : Json → Option String
  | .string raw => (decode? raw.toList).map String.ofList
  | _ => none

end Json

end ChartScript
