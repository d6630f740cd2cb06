import PocketCalculator.Proofs.Binary.Signed

/-!
# The order of numbers

Numbers are compared by their values, the infinities being the two ends. NaN is not compared with
anything, not even with itself, so the order is reflexive on the other numbers only.

* `HasSteps.le_iff`: finite numbers are ordered as their steps.
* **`beq_iff_le_and_le`**: two numbers are equal exactly if each is at most the other. The zeros
  are, although their signs differ.

The sign matters apart from the order, since one over a zero is an infinity of the sign of the zero.
`Number.Unsigned` says that there is none, and products, quotients and powers keep it so.
-/

namespace PocketCalculator.Binary.Number

variable {f : Format} {x y : Number f} {a b : ℤ}

/-! ### Comparison -/

/-- Whether the first number is at most the second. -/
def atMost : Number f → Number f → Bool
  | .nan, _ => false
  | _, .nan => false
  | .infinity s, .infinity t => s || !t
  | .infinity s, .finite _ _ _ => s
  | .finite _ _ _, .infinity t => !t
  | .finite s m _, .finite t n _ => signed s m ≤ signed t n

instance : LE (Number f) := ⟨fun x y => x.atMost y = true⟩

instance : DecidableLE (Number f) := fun x y => inferInstanceAs (Decidable (x.atMost y = true))

/-- Not a number is not below any number, -/
@[simp] theorem not_nan_le : ¬ .nan ≤ x := Bool.false_ne_true

/-- nor above one. -/
@[simp] theorem not_le_nan : ¬ x ≤ .nan := by cases x <;> exact Bool.false_ne_true

/-- Infinities are ordered by their signs. -/
@[simp] theorem infinity_le_infinity_iff {s t : Bool} :
    (.infinity s : Number f) ≤ .infinity t ↔ s = true ∨ t = false := by
  show (s || !t) = true ↔ _
  simp

/-- Only negative infinity is below a finite number, -/
@[simp] theorem infinity_le_finite_iff {s t : Bool} {n : ℕ} {hn : f.Holds n} :
    .infinity s ≤ finite t n hn ↔ s = true := Iff.rfl

/-- and only positive infinity is above one. -/
@[simp] theorem finite_le_infinity_iff {s t : Bool} {m : ℕ} {hm : f.Holds m} :
    finite s m hm ≤ .infinity t ↔ t = false := by
  show (!t) = true ↔ _
  simp

/-- Finite numbers are ordered as their steps. -/
theorem HasSteps.le_iff (hx : x.HasSteps a) (hy : y.HasSteps b) : x ≤ y ↔ a ≤ b := by
  obtain ⟨s, m, hm, rfl, rfl⟩ := hx.exists_finite
  obtain ⟨t, n, hn, rfl, rfl⟩ := hy.exists_finite
  exact decide_eq_true_iff

/-- Negative infinity is the least number. -/
theorem negative_infinity_le_iff : .infinity true ≤ x ↔ x ≠ .nan := by cases x <;> simp

/-- Infinity is the greatest number. -/
theorem le_infinity_iff : x ≤ .infinity false ↔ x ≠ .nan := by cases x <;> simp

/-- Of two numbers that are ordered, both are finite, or one is the end of the order on its side. -/
theorem le_cases (h : x ≤ y) :
    x.isFinite = true ∧ y.isFinite = true ∨
      x = .infinity true ∧ y ≠ .nan ∨ x ≠ .nan ∧ y = .infinity false := by
  cases x with
  | nan => exact absurd h not_nan_le
  | infinity s =>
      cases y with
      | nan => exact absurd h not_le_nan
      | infinity t => exact .inr (by simpa using h)
      | finite t n hn => exact .inr (by simpa using h)
  | finite s m hm =>
      cases y with
      | nan => exact absurd h not_le_nan
      | infinity t => exact .inr (by simpa using h)
      | finite t n hn => exact .inl ⟨rfl, rfl⟩

/-- **Equality is order in both directions.** -/
theorem beq_iff_le_and_le : (x == y) = true ↔ x ≤ y ∧ y ≤ x := by
  cases x with
  | nan => exact iff_of_false Bool.false_ne_true fun h => not_nan_le h.1
  | infinity s =>
      cases y with
      | nan => exact iff_of_false Bool.false_ne_true fun h => not_le_nan h.1
      | infinity t =>
          show (s == t) = true ↔ _
          cases s <;> cases t <;> simp
      | finite t n hn => exact iff_of_false Bool.false_ne_true (by simp)
  | finite s m hm =>
      cases y with
      | nan => exact iff_of_false Bool.false_ne_true fun h => not_le_nan h.1
      | infinity t => exact iff_of_false Bool.false_ne_true (by simp)
      | finite t n hn =>
          have hx := hasSteps_finite s hm
          have hy := hasSteps_finite t hn
          rw [hx.beq_iff hy, hx.le_iff hy, hy.le_iff hx]
          exact le_antisymm_iff

/-! ### Numbers without a sign -/

/-- Whether the number is below zero, or is the negative zero. NaN has no sign. -/
def isNegative : Number f → Bool
  | .nan => false
  | .infinity s => s
  | .finite s _ _ => s

/-- The number has no sign. -/
def Unsigned (x : Number f) : Prop := x.isNegative = false

/-- A quotient rounded without a sign has none, -/
theorem unsigned_ofSteps (num den : ℕ) : (ofSteps false num den : Number f).Unsigned := by
  unfold ofSteps
  split <;> rfl

/-- and neither has a literal. -/
theorem unsigned_ofNat (n : ℕ) : (OfNat.ofNat n : Number f).Unsigned :=
  unsigned_ofSteps (n * f.one) 1

/-- The steps of a number without a sign are not negative. -/
theorem Unsigned.nonneg (h : x.Unsigned) (hx : x.HasSteps a) : 0 ≤ a := by
  obtain ⟨s, m, hm, rfl, rfl⟩ := hx.exists_finite
  obtain rfl : s = false := h
  exact Int.natCast_nonneg m

/-- A product of numbers without a sign has none, -/
theorem Unsigned.mul (hx : x.Unsigned) (hy : y.Unsigned) : (x * y).Unsigned := by
  cases x with
  | nan => rfl
  | infinity s =>
      obtain rfl : s = false := hx
      cases y with
      | nan => rfl
      | infinity t =>
          obtain rfl : t = false := hy
          rfl
      | finite t n hn =>
          obtain rfl : t = false := hy
          show (if n = 0 then .nan else .infinity (false ^^ false) : Number f).Unsigned
          split <;> rfl
  | finite s m hm =>
      obtain rfl : s = false := hx
      cases y with
      | nan => rfl
      | infinity t =>
          obtain rfl : t = false := hy
          show (if m = 0 then .nan else .infinity (false ^^ false) : Number f).Unsigned
          split <;> rfl
      | finite t n hn =>
          obtain rfl : t = false := hy
          exact unsigned_ofSteps (m * n) f.one

/-- and neither has a quotient. -/
theorem Unsigned.div (hx : x.Unsigned) (hy : y.Unsigned) : (x / y).Unsigned := by
  cases x with
  | nan => rfl
  | infinity s =>
      obtain rfl : s = false := hx
      cases y with
      | nan => rfl
      | infinity t => rfl
      | finite t n hn =>
          obtain rfl : t = false := hy
          rfl
  | finite s m hm =>
      obtain rfl : s = false := hx
      cases y with
      | nan => rfl
      | infinity t =>
          obtain rfl : t = false := hy
          exact unsigned_ofSteps 0 1
      | finite t n hn =>
          obtain rfl : t = false := hy
          show (if n = 0 then if m = 0 then .nan else .infinity (false ^^ false)
            else ofSteps (false ^^ false) (m * f.one) n : Number f).Unsigned
          split
          · split <;> rfl
          · exact unsigned_ofSteps (m * f.one) n

/-- The powers of a number without a sign have none. -/
theorem Unsigned.pow (h : x.Unsigned) (n : ℕ) : (x.pow n).Unsigned := by
  -- Both the product and the square are kept without a sign from bit to bit.
  unfold Number.pow
  refine (List.foldlRecOn (motive := fun pair : Number f × Number f =>
    pair.1.Unsigned ∧ pair.2.Unsigned) _ _ ⟨unsigned_ofNat 1, h⟩ ?_).1
  rintro ⟨product, square⟩ ⟨hproduct, hsquare⟩ i -
  refine ⟨?_, hsquare.mul hsquare⟩
  dsimp only
  split
  · exact hproduct.mul hsquare
  · exact hproduct

end PocketCalculator.Binary.Number
