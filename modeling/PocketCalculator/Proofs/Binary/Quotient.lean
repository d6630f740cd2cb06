import Mathlib.Data.Nat.Factorization.Basic
import PocketCalculator.Proofs.Binary.Correct
import PocketCalculator.Proofs.Binary.Signed

/-!
# A quotient multiplied back

A magnitude divided by a whole number, multiplied by it again and divided once more gives the same
quotient, although each of the three operations is rounded (`round_div_mul_div`). Multiplying the
quotient back need not give the magnitude. But the magnitude is on the grid, so what it gives is no
further from the exact product than the magnitude is, and then the second quotient lies as near to
the first as the exact one does.

That is nearer than half a spacing, because a quotient is never halfway between two neighbours on
the grid (`two_mul_ne_of_onGrid`): it would have to be a magnitude with one bit more than the
precision, and no whole number makes such a magnitude into one of the grid. Only where the spacing
changes is half a spacing not near enough, and there the product is exact.
-/

namespace PocketCalculator.Binary

namespace Format

variable {f : Format}

/-- An odd number with a bit more than the precision is not made into a magnitude of the grid by
multiplying it. -/
theorem two_mul_ne_of_onGrid {a factor odd : ℕ} (e : ℕ) (ha : f.OnGrid a) (hfactor : 0 < factor)
    (hodd : odd % 2 = 1) (hlarge : 2 ^ f.precision ≤ odd) : 2 * a ≠ factor * (odd * 2 ^ e) := by
  intro heq
  obtain ⟨s, rest, hrest, hsplit⟩ := Nat.exists_eq_two_pow_mul_odd hfactor.ne'
  have hp := f.two_le_precision
  have hproduct : 2 * a = rest * odd * 2 ^ (s + e) := by
    rw [heq, hsplit, Nat.pow_add]
    show 2 ^ s * rest * (odd * 2 ^ e) = rest * odd * (2 ^ s * 2 ^ e)
    ring
  have hodd' : rest * odd % 2 = 1 := by
    rw [Nat.mul_mod, Nat.odd_iff.mp hrest, hodd]
  have hsize : 2 ^ (f.precision - 1 + (s + e)) ≤ a := by
    have hle : 2 ^ f.precision ≤ rest * odd :=
      hlarge.trans (Nat.le_mul_of_pos_left odd hrest.pos)
    have hmul := Nat.mul_le_mul_right (2 ^ (s + e)) hle
    rw [← hproduct, f.two_pow_precision, Nat.mul_assoc, ← Nat.pow_add] at hmul
    omega
  obtain ⟨b, hb⟩ := (Nat.pow_dvd_pow 2 (le_excess hsize)).trans ha
  -- The bits below the excess are clear, so the odd product would be even.
  have heven : 2 * b = rest * odd := by
    refine Nat.eq_of_mul_eq_mul_right (Nat.two_pow_pos (s + e)) ?_
    rw [← hproduct, hb]
    ring
  omega

/-- Nearer than half a spacing to a magnitude, a number is rounded to it, unless the spacing changes
there. -/
theorem nearest_eq_of_abs_sub_lt {y : ℚ} (hy : 0 ≤ y) {j e : ℕ} (hlow : 2 ^ (f.precision - 1) < j)
    (hhigh : j ≤ 2 ^ f.precision) (h : |((j * 2 ^ e : ℕ) : ℚ) - y| < (2 ^ e : ℕ) / 2) :
    f.nearest y = j * 2 ^ e := by
  have hnear := abs_nearest_sub_le hy (f.onGrid_mul_pow e hhigh)
  have hleft := abs_lt.mp (hnear.trans_lt h)
  have hright := abs_lt.mp h
  have hbelow : j * 2 ^ e < f.nearest y + 2 ^ e := by
    rw [← @Nat.cast_lt ℚ, Nat.cast_add]
    linarith [hleft.1, hright.2]
  have habove : f.nearest y < j * 2 ^ e + 2 ^ e := by
    rw [← @Nat.cast_lt ℚ, Nat.cast_add]
    linarith [hleft.2, hright.1]
  have hstretch : 2 ^ (f.precision - 1) * 2 ^ e ≤ f.nearest y := by
    have hmul := Nat.mul_le_mul_right (2 ^ e) (Nat.succ_le_of_lt hlow)
    rw [Nat.succ_mul] at hmul
    omega
  obtain ⟨k, hk⟩ := exists_eq_mul_left_of_dvd (pow_dvd_of_le (onGrid_nearest y) hstretch)
  rw [hk, ← Nat.succ_mul] at hbelow habove
  rw [hk]
  have hkj := Nat.lt_of_mul_lt_mul_right hbelow
  have hjk := Nat.lt_of_mul_lt_mul_right habove
  rw [Nat.le_antisymm (Nat.lt_succ_iff.mp hjk) (Nat.lt_succ_iff.mp hkj)]

/-- Halfway between two whole numbers, twice a number is odd. -/
theorem exists_odd_of_abs_sub_eq {y : ℚ} {j : ℕ} (hj : 0 < j) (h : |y - j| = 1 / 2) :
    ∃ odd : ℕ, odd % 2 = 1 ∧ (odd : ℚ) = 2 * y := by
  rcases abs_eq (by norm_num : (0 : ℚ) ≤ 1 / 2) |>.mp h with habove | hbelow
  · refine ⟨2 * j + 1, by omega, ?_⟩
    push_cast
    linarith
  · refine ⟨2 * j - 1, by omega, ?_⟩
    rw [Nat.cast_sub (by omega)]
    push_cast
    linarith

section

variable {a factor : ℕ} (ha : f.OnGrid a) (hpos : 0 < factor)
  (hlarge : 2 ^ (f.precision - 1) * factor ≤ a)
include ha hpos hlarge

/-- A quotient is never halfway between two neighbours on the grid. -/
theorem exists_nearest_div :
    ∃ j : ℕ, f.nearest (a / factor) = j * f.unit (a / factor) ∧
      2 ^ (f.precision - 1) ≤ j ∧ j ≤ 2 ^ f.precision ∧
      |((j * f.unit (a / factor) : ℕ) : ℚ) - a / factor| < f.unit (a / factor) / 2 := by
  have hfactor : (0 : ℚ) < factor := Nat.cast_pos.mpr hpos
  have hq : (2 : ℚ) ^ (f.precision - 1) ≤ a / factor := by
    rw [le_div_iff₀ hfactor]
    exact_mod_cast hlarge
  have hnonneg : (0 : ℚ) ≤ a / factor := by positivity
  have hu : (0 : ℚ) < f.unit (a / factor) := Nat.cast_pos.mpr (f.unit_pos _)
  have hstretch : (2 : ℚ) ^ (f.precision - 1) ≤ a / factor / f.unit (a / factor) :=
    (le_div_iff₀ hu).mpr (pow_mul_unit_le hq)
  obtain ⟨j, hj, hnear⟩ := exists_nearest (f := f) hnonneg
  have hjlow : 2 ^ (f.precision - 1) ≤ j := le_of_near (by exact_mod_cast hstretch) hnear.le_half
  refine ⟨j, hj, hjlow, le_pow_of_near hnear.le_half, ?_⟩
  rw [abs_mul_unit_sub]
  have hstrict : |a / factor / (f.unit (a / factor) : ℚ) - j| < 1 / 2 := by
    refine lt_of_le_of_ne hnear.le_half fun htie => ?_
    -- Halfway, twice the quotient is an odd number of spacings.
    obtain ⟨odd, hodd, heq⟩ :=
      exists_odd_of_abs_sub_eq (Nat.lt_of_lt_of_le (Nat.two_pow_pos _) hjlow) htie
    have hlow : 2 ^ f.precision ≤ odd := by
      rw [← @Nat.cast_le ℚ, heq, f.two_pow_precision]
      push_cast
      linarith
    refine two_mul_ne_of_onGrid (f.excess ⌊(a : ℚ) / factor⌋₊) ha hpos hodd hlow ?_
    rw [← @Nat.cast_inj ℚ]
    have hcast : ((2 ^ f.excess ⌊(a : ℚ) / factor⌋₊ : ℕ) : ℚ) = f.unit (a / factor) := rfl
    rw [Nat.cast_mul, Nat.cast_mul, Nat.cast_mul, hcast, heq]
    push_cast
    field_simp
  linarith [mul_lt_mul_of_pos_right hstrict hu]

/-- Multiplied back and divided again, a quotient is the same. -/
theorem nearest_div_mul_div (hfactor : factor ≤ 2 ^ f.precision) :
    f.nearest (f.nearest (f.nearest (a / factor) * factor) / factor) = f.nearest (a / factor) := by
  obtain ⟨j, hj, hlow, hhigh, hnear⟩ := exists_nearest_div ha hpos hlarge
  have hfactor' : (0 : ℚ) < factor := Nat.cast_pos.mpr hpos
  have hcast : ((j * f.unit (a / factor) : ℕ) : ℚ) * factor =
      ((j * f.unit (a / factor) * factor : ℕ) : ℚ) := by push_cast; rfl
  rw [hj, hcast]
  rcases Nat.eq_or_lt_of_le hlow with hborder | hlow
  · -- Where the spacing changes the product is on the grid.
    have hquotient : f.OnGrid (j * f.unit (a / factor)) := f.onGrid_mul_pow _ hhigh
    have hproduct : f.OnGrid (j * f.unit (a / factor) * factor) := by
      rw [← hborder, unit, ← Nat.pow_add, Nat.mul_comm]
      exact f.onGrid_mul_pow _ hfactor
    rw [nearest_natCast hproduct, ← hcast, mul_div_cancel_right₀ _ hfactor'.ne',
      nearest_natCast hquotient]
  · refine nearest_eq_of_abs_sub_lt (by positivity) hlow hhigh (lt_of_le_of_lt ?_ hnear)
    have hback := abs_nearest_sub_le (f := f) (Nat.cast_nonneg
      (j * f.unit (a / factor) * factor)) ha
    rw [← hcast] at hback ⊢
    have hscale : ∀ r : ℚ, |((j * f.unit (a / factor) : ℕ) : ℚ) - r / factor| * factor =
        |r - ((j * f.unit (a / factor) : ℕ) : ℚ) * factor| := by
      intro r
      rw [abs_sub_comm r, ← abs_of_pos hfactor', ← abs_mul, abs_of_pos hfactor', sub_mul,
        div_mul_cancel₀ _ hfactor'.ne']
    refine le_of_mul_le_mul_right ?_ hfactor'
    show |((j * f.unit (a / factor) : ℕ) : ℚ) - _ / factor| * factor ≤ _
    rw [hscale, hscale]
    exact hback

end

/-- The same with signs. -/
theorem round_div_mul_div {a : ℤ} {factor : ℕ} (ha : f.OnGrid a.natAbs) (hpos : 0 < factor)
    (hlarge : 2 ^ (f.precision - 1) * factor ≤ a.natAbs) (hfactor : factor ≤ 2 ^ f.precision) :
    f.round (f.round (f.round (a / factor) * factor) / factor) = f.round (a / factor) := by
  have hnat : ∀ n : ℕ, f.OnGrid n → 2 ^ (f.precision - 1) * factor ≤ n →
      f.round (f.round (f.round (n / factor) * factor) / factor) = f.round (n / factor) := by
    intro n hn hle
    have hfirst : f.round (n / factor) = f.nearest (n / factor) := round_of_nonneg (by positivity)
    rw [hfirst, Int.cast_natCast, round_of_nonneg (q := _ * _) (by positivity), Int.cast_natCast,
      round_of_nonneg (by positivity), nearest_div_mul_div hn hpos hle hfactor]
  obtain ⟨n, rfl | rfl⟩ := a.eq_nat_or_neg
  · exact hnat n ha hlarge
  · rw [Int.natAbs_neg] at ha hlarge
    rw [Int.cast_neg, Int.cast_natCast, neg_div, round_neg, Int.cast_neg, neg_mul, round_neg,
      Int.cast_neg, neg_div, round_neg, hnat n ha hlarge]

end Format

end PocketCalculator.Binary
