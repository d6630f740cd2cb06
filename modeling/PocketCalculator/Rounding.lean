import PocketCalculator.Binary.Number

/-!
# Rounding to decimal places

A result is rounded before it is shown: scaled by a power of ten, rounded to a whole number, and
scaled back. A half goes up, towards positive infinity, for either sign. All steps are carried out
in double precision; where scaling leaves its range the number stays as it is.
-/

namespace PocketCalculator

open Binary

/-- The power of ten with the given exponent, by repeated squaring; for a negative exponent the
reciprocal. -/
def tenPower (exponent : Int) : Binary64 :=
  if exponent < 0 then 1 / Number.pow 10 exponent.natAbs else Number.pow 10 exponent.natAbs

/-- The nearest whole number, a half going up: a half that `Number.toWhole` has sent down, away from
zero, is sent up again. -/
def roundHalfUp (x : Binary64) : Binary64 :=
  let whole := x.toWhole
  if x - whole == Number.half then whole + 1 else whole

/-- The number rounded to decimal places. The places are read as a signed 32-bit number, so from
`2 ^ 31` upwards they round to tens, hundreds and so on. -/
def roundToPlaces (places : UInt32) (x : Binary64) : Binary64 :=
  if x.isFinite then
    let factor := tenPower places.toInt32.toInt
    let rounded := roundHalfUp (x * factor) / factor
    if rounded.isFinite then rounded else x
  else
    x

end PocketCalculator
