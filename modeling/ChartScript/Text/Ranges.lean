/-!
# Code-point ranges

Character properties of the Unicode standard are listed as inclusive ranges of code points in
ascending order. Membership is a scan of the list.
-/

set_option autoImplicit false

namespace ChartScript.Text

/-- Inclusive ranges of code points. -/
abbrev Ranges := List (Nat × Nat)

def Ranges.contains (ranges : Ranges) (character : Char) : Bool :=
  ranges.any fun range => range.1 ≤ character.toNat && character.toNat ≤ range.2

end ChartScript.Text
