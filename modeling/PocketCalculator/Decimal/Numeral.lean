import PocketCalculator.Binary.Number

/-!
# Decimal numerals

Texts of decimal digits and their exact values. A `Decimal` is a whole number of powers of ten, and
`Decimal.toNumber` is the one place where a decimal becomes a floating-point number: the nearest
one, however long the digits are. `Numeral.read?` recognises the calculator's literals: an optional
minus sign, digits, and possibly a point followed by digits. A text such as `.5`, `5.` or `1.2.3` is
not a numeral.
-/

namespace PocketCalculator

open Binary

/-! ## Digits -/

/-- The value of a decimal digit. -/
def digitValue (c : Char) : Nat := c.toNat - '0'.toNat

/-- The value of a text of decimal digits. -/
def digitsValue (digits : List Char) : Nat :=
  digits.foldl (fun n c => 10 * n + digitValue c) 0

/-- The decimal digits of a natural number, without leading zeros. -/
def decimalDigits (n : Nat) : List Char := Nat.toDigits 10 n

/-! ## Decimals -/

/-- The number `digits * 10 ^ exponent`. -/
structure Decimal where
  digits : Nat
  exponent : Int
deriving DecidableEq, Repr

namespace Decimal

/-- The number nearest to a decimal, with a sign. -/
def toNumber {f : Format} (negative : Bool) (d : Decimal) : Number f :=
  .ofRatio negative (d.digits * 10 ^ d.exponent.toNat) (10 ^ (-d.exponent).toNat)

end Decimal

/-! ## Numerals -/

/-- A numeral: the parts of a literal as written. -/
structure Numeral where
  negative : Bool
  whole : List Char
  fraction : List Char

namespace Numeral

/-- The digits after the sign: a whole part, and a fraction if there is a point. -/
def readUnsigned? (negative : Bool) (text : List Char) : Option Numeral :=
  let whole := text.takeWhile Char.isDigit
  if whole.isEmpty then
    none
  else
    match text.dropWhile Char.isDigit with
    | [] => some ⟨negative, whole, []⟩
    | point :: fraction =>
        if point = '.' ∧ fraction ≠ [] ∧ fraction.all Char.isDigit then
          some ⟨negative, whole, fraction⟩
        else
          none

/-- The numeral written by a text, if it is one. -/
def read? : List Char → Option Numeral
  | '-' :: text => readUnsigned? true text
  | text => readUnsigned? false text

/-- The decimal that a numeral writes, without its sign. -/
def magnitude (n : Numeral) : Decimal :=
  ⟨digitsValue (n.whole ++ n.fraction), -n.fraction.length⟩

/-- The number nearest to a numeral. -/
def value (n : Numeral) : Binary64 := n.magnitude.toNumber n.negative

end Numeral

end PocketCalculator
