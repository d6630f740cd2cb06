import PocketCalculator.Binary.Number

/-!
# Interchange encoding

The word that stands for a number: a sign bit, an exponent field, and the significand without its
leading bit. Below the sign bit the words of the finite magnitudes count them in order, from zero
upwards, and the infinity follows the largest.
-/

namespace PocketCalculator.Binary

namespace Format

variable (f : Format)

/-- The weight of the lowest bit of the exponent field. -/
def fieldWeight : Nat := 2 ^ (f.precision - 1)

/-- The exponent field of infinities and NaN: all bits set. -/
def lastField : Nat := 2 * f.bias + 1

/-- The weight of the sign bit. -/
def signWeight : Nat := (f.lastField + 1) * f.fieldWeight

end Format

namespace Number

variable {f : Format}

/-- The word of a number. NaN has the word of the positive quiet NaN without payload. -/
def toBits : Number f → Nat
  | .nan => f.lastField * f.fieldWeight + f.fieldWeight / 2
  | .infinity s => s.toNat * f.signWeight + f.lastField * f.fieldWeight
  | .finite s m _ =>
      s.toNat * f.signWeight + (f.excess m * f.fieldWeight + m / 2 ^ f.excess m)

/-- The number of a word. -/
def ofBits (bits : Nat) : Number f :=
  let negative := bits / f.signWeight % 2 == 1
  let field := bits % f.signWeight / f.fieldWeight
  let fraction := bits % f.fieldWeight
  if field = f.lastField then
    if fraction = 0 then .infinity negative else .nan
  else if field = 0 then
    ofSteps negative fraction 1
  else
    ofSteps negative ((f.fieldWeight + fraction) * 2 ^ (field - 1)) 1

end Number

end PocketCalculator.Binary
