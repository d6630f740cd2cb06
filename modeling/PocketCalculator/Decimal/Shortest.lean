import PocketCalculator.Decimal.Numeral

/-!
# Shortest decimals

The decimal that stands for a floating-point magnitude on the screen: of the decimals that read
back as that magnitude, those with the fewest digits, and of these the nearest to the exact value;
of two equally near, the larger. The search starts from the exact decimal expansion, which always
reads back, and tries the two neighbours of the value on ever finer decimal grids.
-/

namespace PocketCalculator

open Binary

namespace Decimal

/-! ## Digits of a decimal -/

/-- The decimal digits without trailing zeros. -/
def significant (d : Decimal) : List Char :=
  ((decimalDigits d.digits).reverse.dropWhile (· == '0')).reverse

/-- The place of the point: the decimal is `0.s * 10 ^ point`, with `s` its digits. -/
def point (d : Decimal) : Int := (decimalDigits d.digits).length + d.exponent

/-! ## The search -/

/-- The exact decimal expansion of a magnitude: a step is `2 ^ (-scale)`, which is
`5 ^ scale / 10 ^ scale`. -/
def ofSteps (f : Format) (steps : Nat) : Decimal := ⟨steps * 5 ^ f.scale, -f.scale⟩

/-- Whether the magnitude nearest to a decimal is the given one. -/
def readsAs (f : Format) (steps : Nat) (d : Decimal) : Bool :=
  f.toGrid (d.digits * 10 ^ d.exponent.toNat * f.one) (10 ^ (-d.exponent).toNat) == steps

/-- The decimal with `drop` digits less that stands for the magnitude: of the two neighbours of `d`
on the coarser grid, the one that reads back, or the nearer if both do. -/
def shortened? (f : Format) (steps : Nat) (d : Decimal) (drop : Nat) : Option Decimal :=
  let low : Decimal := ⟨d.digits / 10 ^ drop, d.exponent + drop⟩
  let high : Decimal := ⟨low.digits + 1, low.exponent⟩
  match low.readsAs f steps, high.readsAs f steps with
  | true, true => some (if 2 * (d.digits % 10 ^ drop) < 10 ^ drop then low else high)
  | true, false => some low
  | false, true => some high
  | false, false => none

/-- The decimal with the fewest digits that reads back as a magnitude. -/
def shortest (f : Format) (steps : Nat) : Decimal :=
  let exact := ofSteps f steps
  let size := (decimalDigits exact.digits).length
  ((List.range size).findSome? fun i => shortened? f steps exact (size - 1 - i)).getD exact

end Decimal

end PocketCalculator
