/-!
# Hexadecimal digits

The value of a hexadecimal digit, and the digits of a code point.
-/

namespace PocketCalculator.Text

/-- The value of a hexadecimal digit, in either case. -/
def hexValue? (c : Char) : Option Nat :=
  if c.isDigit then some (c.toNat - '0'.toNat)
  else if 'a' ≤ c ∧ c ≤ 'f' then some (c.toNat - 'a'.toNat + 10)
  else if 'A' ≤ c ∧ c ≤ 'F' then some (c.toNat - 'A'.toNat + 10)
  else none

/-- The hexadecimal digits of a code point, lower case. -/
def hexDigits (c : Char) : List Char := Nat.toDigits 16 c.toNat

end PocketCalculator.Text
