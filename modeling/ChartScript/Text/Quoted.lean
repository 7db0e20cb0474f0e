import ChartScript.Text.Visible

/-!
# Quoted text

A text between double quotes, in which the quote, the backslash, line breaks, tabs, the null
character and everything that is not visible are escaped.
-/

set_option autoImplicit false

namespace ChartScript.Text

def quotedChar (character : Char) : List Char :=
  match character with
  | '\x00' => ['\\', '0']
  | '\t' => ['\\', 't']
  | '\r' => ['\\', 'r']
  | '\n' => ['\\', 'n']
  | '"' => ['\\', '"']
  | '\\' => ['\\', '\\']
  | other =>
    if isVisible other then [other]
    else ['\\', 'u', '\x7b'] ++ Nat.toDigits 16 other.toNat ++ ['\x7d']

def quoted (text : String) : String :=
  String.ofList ('"' :: text.toList.flatMap quotedChar ++ ['"'])

end ChartScript.Text
