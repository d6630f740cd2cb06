import PocketCalculator.Binary.Format

/-!
# Words

Which integers a word of a given number of bits can hold: `FitsUnsigned` as a natural number,
`FitsSigned` in two's complement.
-/

namespace PocketCalculator.Binary

/-- The integer fits an unsigned word. -/
def FitsUnsigned (bits : Nat) (i : Int) : Prop := 0 ≤ i ∧ i < (2 ^ bits : Nat)

/-- The integer fits a signed word. -/
def FitsSigned (bits : Nat) (i : Int) : Prop :=
  -((2 ^ (bits - 1) : Nat) : Int) ≤ i ∧ i < (2 ^ (bits - 1) : Nat)

instance (bits : Nat) (i : Int) : Decidable (FitsUnsigned bits i) := inferInstanceAs
  (Decidable (_ ∧ _))

instance (bits : Nat) (i : Int) : Decidable (FitsSigned bits i) := inferInstanceAs
  (Decidable (_ ∧ _))

/-- The integer fits a word of the given number of bits, with a sign or without. -/
def FitsWord (bits : Nat) (i : Int) : Prop := FitsSigned bits i ∨ FitsUnsigned bits i

instance (bits : Nat) (i : Int) : Decidable (FitsWord bits i) := inferInstanceAs
  (Decidable (_ ∨ _))

end PocketCalculator.Binary
