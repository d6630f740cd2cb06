import PocketCalculator.Proofs.Binary.Signed
import PocketCalculator.Rounding

/-!
# Rounding halves up

`roundHalfUp` rounds to a whole number away from zero and corrects the halves that went down. All
its steps are exact: a number and the whole number next to it have an exact difference
(`holds_sub_wholeOf`), and where the correction adds one, the number is small enough for the sum to
be exact.

* **`hasSteps_roundHalfUp`**: the result is the whole number `⌊x + 1/2⌋` of exact arithmetic, for a
  finite number `x` of any size and sign.
-/

namespace PocketCalculator

open Binary Number

namespace Binary

variable {f : Format}

/-! ### The grid below a magnitude -/

/-- What has no bits below those of a magnitude of the grid, and is not larger, is on the grid. -/
theorem Format.onGrid_of_dvd_of_le {m d : ℕ} (hdvd : 2 ^ f.excess m ∣ d) (hle : d ≤ m) :
    f.OnGrid d := by
  have hexcess : f.excess d ≤ f.excess m := excess_le (hle.trans_lt (f.lt_two_pow_excess m))
  exact (Nat.pow_dvd_pow 2 hexcess).trans hdvd

/-- The spacing of the grid at one of its magnitudes divides one, or the magnitude is whole. -/
theorem Format.OnGrid.dvd_one_or {m : ℕ} (hm : f.OnGrid m) :
    2 ^ f.excess m ∣ f.one ∨ f.one ∣ m := by
  rcases Nat.le_total (f.excess m) f.scale with h | h
  · exact Or.inl (Nat.pow_dvd_pow 2 h)
  · exact Or.inr ((Nat.pow_dvd_pow 2 h).trans hm)

/-! ### The nearest whole number and its neighbour -/

namespace Number

variable {m : ℕ}

/-- The nearest whole number has no bits below those of the magnitude. -/
theorem pow_excess_dvd_wholeOf (hm : f.OnGrid m) : 2 ^ f.excess m ∣ wholeOf f m * f.one := by
  rcases hm.dvd_one_or with h | ⟨k, hk⟩
  · exact Nat.dvd_mul_left_of_dvd h _
  · have hwhole : wholeOf f m * f.one = m := by
      rw [hk, Nat.mul_comm f.one k, wholeOf_mul_one]
    rwa [hwhole]

/-- The difference between a magnitude and the nearest whole number is a magnitude. -/
theorem holds_sub_wholeOf (hm : f.Holds m) :
    f.Holds ((m : ℤ) - (wholeOf f m * f.one : ℕ)).natAbs := by
  have hspec := wholeOf_spec (f := f) m
  have hdvd : 2 ^ f.excess m ∣ ((m : ℤ) - (wholeOf f m * f.one : ℕ)).natAbs := by
    rw [← Int.natCast_dvd]
    exact Int.dvd_sub (Int.natCast_dvd_natCast.mpr hm.aligned)
      (Int.natCast_dvd_natCast.mpr (pow_excess_dvd_wholeOf hm.aligned))
  have hle : ((m : ℤ) - (wholeOf f m * f.one : ℕ)).natAbs ≤ m := by
    rcases Nat.eq_zero_or_pos (wholeOf f m) with hzero | hpos
    · rw [hzero, Nat.zero_mul]
      simp
    · have := Nat.mul_le_mul_right f.one hpos
      omega
  exact ⟨f.onGrid_of_dvd_of_le hdvd hle, hle.trans_lt hm.below⟩

/-- Below a half that went up there is a whole magnitude. -/
theorem holds_wholeOf_sub_one (hm : f.Holds m) (htie : 2 * (wholeOf f m * f.one) = 2 * m + f.one) :
    f.Holds (wholeOf f m * f.one - f.one) := by
  have hone := f.one_pos
  have hdvd : 2 ^ f.excess m ∣ f.one := by
    rcases Format.OnGrid.dvd_one_or hm.aligned with h | ⟨k, hk⟩
    · exact h
    · rw [hk, Nat.mul_comm f.one k, wholeOf_mul_one] at htie
      omega
  exact ⟨f.onGrid_of_dvd_of_le (Nat.dvd_sub (pow_excess_dvd_wholeOf hm.aligned) hdvd) (by omega),
    (by omega : wholeOf f m * f.one - f.one ≤ m).trans_lt hm.below⟩

/-- A half that went down is one of a negative number, and the whole number above it is one of the
format. -/
theorem holds_wholeOf_add_one (hm : f.Holds m) {s : Bool}
    (htie : 2 * (signed s m - signed s (wholeOf f m * f.one)) = f.one) :
    f.Holds (signed s (wholeOf f m * f.one) + f.one).natAbs := by
  have hspec := wholeOf_spec (f := f) m
  cases s with
  | false =>
      rw [signed_false, signed_false] at htie
      omega
  | true =>
      rw [signed_true, signed_true] at htie
      have hle : f.one ≤ wholeOf f m * f.one := by
        rcases Nat.eq_zero_or_pos (wholeOf f m) with hzero | hpos
        · rw [hzero, Nat.zero_mul] at htie
          omega
        · exact Nat.le_mul_of_pos_left f.one hpos
      have habs : (signed true (wholeOf f m * f.one) + f.one).natAbs =
          wholeOf f m * f.one - f.one := by
        rw [signed_true]
        omega
      rw [habs]
      exact holds_wholeOf_sub_one hm (by omega)

/-! ### Halves go up -/

/-- The whole number that a signed number of steps is rounded to, a half going up. -/
def halfUp (f : Format) (a : ℤ) : ℤ := ⌊(a : ℚ) / f.one + 1 / 2⌋

/-- It lies from less than half a one below to half a one above. -/
theorem halfUp_eq_iff {a n : ℤ} :
    halfUp f a = n ↔ 2 * (n * f.one) ≤ 2 * a + f.one ∧ 2 * a < 2 * (n * f.one) + f.one := by
  have hone := f.cast_one_pos
  have hsum : (a : ℚ) / f.one + 1 / 2 = (2 * a + f.one) / (2 * f.one) := by
    field_simp
  rw [halfUp, Int.floor_eq_iff, hsum, le_div_iff₀ (by positivity), div_lt_iff₀ (by positivity),
    ← @Int.cast_le ℚ, ← @Int.cast_lt ℚ]
  push_cast
  constructor <;> rintro ⟨hle, hlt⟩ <;> constructor <;> linarith

/-- A whole number is rounded to itself. -/
theorem halfUp_mul_one (n : ℤ) : halfUp f (n * f.one) = n := by
  have hone := f.one_pos
  rw [halfUp_eq_iff]
  omega

/-- Rounding to whole numbers keeps the order. -/
theorem halfUp_mono {a b : ℤ} (h : a ≤ b) : halfUp f a ≤ halfUp f b := by
  have hone : (0 : ℚ) ≤ f.one := Nat.cast_nonneg _
  have hcast : (a : ℚ) ≤ b := by exact_mod_cast h
  exact Int.floor_mono (by gcongr)

/-- Rounding away from zero gives that number, except for a half that goes down. -/
theorem halfUp_signed (s : Bool) (m : ℕ) :
    let whole := signed s (wholeOf f m * f.one)
    halfUp f (signed s m) * f.one =
      if 2 * (signed s m - whole) = f.one then whole + f.one else whole := by
  intro whole
  have hspec := wholeOf_spec (f := f) m
  have hone := f.one_pos
  have hneg : ∀ k : ℤ, -k * f.one = -(k * f.one) := fun k => by ring
  have hsucc : ∀ k : ℤ, (k + 1) * f.one = k * f.one + f.one := fun k => by ring
  have hwhole : whole = (if s then -(wholeOf f m : ℤ) else wholeOf f m) * f.one := by
    cases s with
    | false => simp [whole]
    | true => simp [whole]
  by_cases htie : 2 * (signed s m - whole) = f.one
  · rw [if_pos htie, hwhole, ← hsucc]
    congr 1
    rw [halfUp_eq_iff, hsucc, ← hwhole]
    constructor <;> omega
  · rw [if_neg htie, hwhole]
    congr 1
    rw [halfUp_eq_iff, ← hwhole]
    cases s with
    | false =>
        simp only [whole, signed_false] at htie ⊢
        omega
    | true =>
        simp only [whole, signed_true] at htie ⊢
        omega

variable (hbias : f.precision ≤ f.bias + 1)
include hbias

/-- One is exact, -/
theorem hasSteps_one : (1 : Number f).HasSteps f.one := by
  have hp := f.two_le_precision
  have hgrid : f.OnGrid (1 * f.one) := f.onGrid_mul_one (Nat.one_le_two_pow)
  have hlimit : 1 * f.one < f.limit := by
    rw [Nat.one_mul]
    exact Nat.pow_lt_pow_right (by decide) (by omega)
  have hone : (1 : Number f) = finite false (1 * f.one) ⟨hgrid, hlimit⟩ := ofSteps_one false _
  rw [hone]
  simpa using hasSteps_finite (f := f) false ⟨hgrid, hlimit⟩

/-- and so is one half. -/
theorem hasSteps_half : ∃ h : ℤ, (half : Number f).HasSteps h ∧ 2 * h = f.one := by
  have hp := f.two_le_precision
  have hone : f.one = 2 * 2 ^ (f.scale - 1) := by
    rw [Format.one, ← Nat.pow_succ']
    congr 1
    unfold Format.scale
    omega
  have hgrid : f.OnGrid (2 ^ (f.scale - 1)) := by
    simpa using f.onGrid_mul_pow (k := 1) (f.scale - 1) Nat.one_le_two_pow
  have hlimit : 2 ^ (f.scale - 1) < f.limit := Nat.pow_lt_pow_right (by decide) (by omega)
  have hratio : ((1 * f.one : ℕ) : ℚ) / (2 : ℕ) = (2 ^ (f.scale - 1) : ℕ) := by
    rw [hone]
    push_cast
    ring
  have hhalf : (half : Number f) = finite false _ ⟨hgrid, hlimit⟩ :=
    ofSteps_eq_finite false Nat.two_pos _ (by rw [hratio, Format.nearest_natCast hgrid])
  refine ⟨_, hhalf ▸ hasSteps_finite false _, ?_⟩
  rw [signed_false, hone]
  push_cast
  ring

/-- The number and the nearest whole number, with their exact difference. -/
theorem hasSteps_sub_toWhole (s : Bool) {m : ℕ} (hm : f.Holds m) :
    (finite s m hm).toWhole.HasSteps (signed s (wholeOf f m * f.one)) ∧
      (finite s m hm - (finite s m hm).toWhole).HasSteps
        (signed s m - signed s (wholeOf f m * f.one)) := by
  have hwhole : (finite s m hm).toWhole.HasSteps (signed s (wholeOf f m * f.one)) := by
    rw [toWhole_finite hbias s hm]
    exact hasSteps_finite s _
  refine ⟨hwhole, (hasSteps_finite s hm).sub_exact hwhole ?_⟩
  have habs : ∀ k : ℕ, (signed s m - signed s k).natAbs = ((m : ℤ) - k).natAbs := by
    intro k
    unfold signed
    split <;> omega
  rw [habs]
  exact holds_sub_wholeOf hm

/-- The nearest whole number with the halves corrected that went down. -/
theorem HasSteps.halfUp {x : Number f} {a : ℤ} (hx : x.HasSteps a) :
    (if x - x.toWhole == half then x.toWhole + 1 else x.toWhole).HasSteps
      (Number.halfUp f a * f.one) := by
  obtain ⟨s, m, hm, rfl, rfl⟩ := hx.exists_finite
  obtain ⟨h, hhalf, hdouble⟩ := hasSteps_half hbias
  obtain ⟨hwhole, hdiff⟩ := hasSteps_sub_toWhole hbias s hm
  have hbeq : (finite s m hm - (finite s m hm).toWhole == half) = true ↔
      2 * (signed s m - signed s (wholeOf f m * f.one)) = f.one := by
    rw [hdiff.beq_iff hhalf]
    omega
  rw [halfUp_signed]
  by_cases htie : 2 * (signed s m - signed s (wholeOf f m * f.one)) = f.one
  · rw [if_pos htie, if_pos (hbeq.mpr htie)]
    exact hwhole.add_exact (hasSteps_one hbias) (holds_wholeOf_add_one hm htie)
  · rw [if_neg htie, if_neg (mt hbeq.mp htie)]
    exact hwhole

/-- The whole number is one of the format. -/
theorem holds_halfUp {a : ℤ} (ha : f.Holds a.natAbs) :
    f.Holds (Number.halfUp f a * f.one).natAbs := by
  have hx := hasSteps_finite (decide (a < 0)) ha
  rw [signed_natAbs] at hx
  exact (hx.halfUp hbias).holds

end Number

end Binary

/-- **Rounding halves up is exact**, for a finite number of any size and sign. -/
theorem hasSteps_roundHalfUp {x : Binary64} {a : ℤ} (hx : x.HasSteps a) :
    (roundHalfUp x).HasSteps (halfUp .binary64 a * Format.binary64.one) :=
  hx.halfUp (by decide)

/-- The infinities are left as they are. -/
theorem roundHalfUp_infinity (s : Bool) : roundHalfUp (.infinity s) = .infinity s := by
  cases s <;> rfl

end PocketCalculator
