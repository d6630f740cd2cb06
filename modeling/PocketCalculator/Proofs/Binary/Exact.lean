import PocketCalculator.Binary.Number
import PocketCalculator.Proofs.Binary.Nearest

/-!
# Exact results of the arithmetic

A finite number is a signed whole number of steps (`Number.toSteps`), and its value is that number
divided by the steps of one (`Number.toRat`). An operation whose exact result is a magnitude of the
format returns that magnitude (`ofSteps_eq_finite`).

* **`finite_congr`**: a finite number other than zero is determined by its signed number of steps.
* **`toWhole_finite`**: the nearest whole number is always a number of the format.
-/

namespace PocketCalculator.Binary

namespace Format

variable (f : Format)

/-- One has at least one step, -/
theorem one_pos : 0 < f.one := Nat.two_pow_pos _

/-- also as a rational number. -/
theorem cast_one_pos : (0 : ℚ) < f.one := by exact_mod_cast f.one_pos

/-- Whole numbers of at most `precision` bits are on the grid. -/
theorem onGrid_mul_one {k : ℕ} (hk : k ≤ 2 ^ f.precision) : f.OnGrid (k * f.one) :=
  f.onGrid_mul_pow f.scale hk

variable {f}

/-- From a full significand of a spacing on, every number of the grid is a multiple of the
spacing. -/
theorem pow_dvd_of_le {m e : ℕ} (hm : f.OnGrid m) (hle : 2 ^ (f.precision - 1) * 2 ^ e ≤ m) :
    2 ^ e ∣ m := by
  rw [← Nat.pow_add] at hle
  exact Nat.dvd_trans (Nat.pow_dvd_pow 2 (le_excess hle)) hm

/-- From `2 ^ (precision - 1)` on every number of the grid is whole. -/
theorem one_dvd_of_le {m : ℕ} (hm : f.OnGrid m) (hle : 2 ^ (f.precision - 1) * f.one ≤ m) :
    f.one ∣ m := pow_dvd_of_le hm hle

end Format

namespace Number

variable {f : Format}

/-! ### Signed numbers of steps -/

/-- The signed number of steps of a finite number; zero for the others. -/
def toSteps : Number f → ℤ
  | .finite s m _ => signed s m
  | _ => 0

/-- The value of a finite number; zero for the others. -/
def toRat (x : Number f) : ℚ := x.toSteps / f.one

/-- The steps of a finite number are its magnitude with its sign. -/
@[simp] theorem toSteps_finite (s : Bool) (m : ℕ) (h : f.Holds m) :
    (finite s m h).toSteps = signed s m := rfl

/-- The sign does not change the magnitude, -/
@[simp] theorem natAbs_signed (s : Bool) (m : ℕ) : (signed s m).natAbs = m := by
  cases s <;> simp [signed]

/-- so that only a magnitude of zero gives zero steps. -/
theorem signed_eq_zero_iff {s : Bool} {m : ℕ} : signed s m = 0 ↔ m = 0 := by
  rw [← Int.natAbs_eq_zero, natAbs_signed]

/-- A finite number other than zero is determined by its signed number of steps. -/
theorem finite_congr {s t : Bool} {m n : ℕ} {hm : f.Holds m} {hn : f.Holds n}
    (h : signed s m = signed t n) (hne : n ≠ 0) : finite s m hm = finite t n hn := by
  have hmn : m = n := by rw [← natAbs_signed s m, h, natAbs_signed]
  subst hmn
  have hst : s = t := by
    cases s <;> cases t <;> simp [signed] at h ⊢ <;> omega
  subst hst
  rfl

/-! ### Rounding into the format -/

/-- A quotient that rounds to a magnitude of the format. -/
theorem ofSteps_eq_finite (s : Bool) {num den g : ℕ} (hden : 0 < den) (hg : f.Holds g)
    (h : f.nearest ((num : ℚ) / den) = g) : (ofSteps s num den : Number f) = finite s g hg := by
  rw [← f.toGrid_eq_nearest num hden] at h
  subst h
  rw [ofSteps, dif_pos hg.below]

/-- A magnitude of the format is kept. -/
theorem ofSteps_one (s : Bool) {m : ℕ} (hm : f.Holds m) :
    (ofSteps s m 1 : Number f) = finite s m hm :=
  ofSteps_eq_finite s Nat.one_pos hm (by
    rw [Nat.cast_one, div_one, f.nearest_natCast hm.aligned])

/-! ### The nearest whole number -/

/-- The whole number nearest to a magnitude, a half going up. -/
def wholeOf (f : Format) (m : ℕ) : ℕ := (2 * m + f.one) / (2 * f.one)

/-- It is within one half. -/
theorem wholeOf_spec (m : ℕ) :
    2 * (wholeOf f m * f.one) ≤ 2 * m + f.one ∧ 2 * m < 2 * (wholeOf f m * f.one) + f.one := by
  have hpos : 0 < 2 * f.one := Nat.mul_pos Nat.two_pos f.one_pos
  have hdiv := Nat.div_add_mod (2 * m + f.one) (2 * f.one)
  have hmod := Nat.mod_lt (2 * m + f.one) hpos
  have hcomm : 2 * f.one * wholeOf f m = 2 * (wholeOf f m * f.one) := by ring
  unfold wholeOf at hcomm ⊢
  omega

/-- A whole number is the nearest one to itself. -/
theorem wholeOf_mul_one (k : ℕ) : wholeOf f (k * f.one) = k := by
  have h := wholeOf_spec (f := f) (k * f.one)
  have hpos := f.one_pos
  have h1 : wholeOf f (k * f.one) < k + 1 := by
    by_contra hge
    have := Nat.mul_le_mul_right f.one (Nat.le_of_not_lt hge)
    rw [Nat.add_mul] at this
    omega
  have h2 : k < wholeOf f (k * f.one) + 1 := by
    by_contra hge
    have := Nat.mul_le_mul_right f.one (Nat.le_of_not_lt hge)
    rw [Nat.add_mul] at this
    omega
  omega

/-- The nearest whole number is a number of the format. -/
theorem holds_wholeOf (hbias : f.precision ≤ f.bias + 1) {m : ℕ} (hm : f.Holds m) :
    f.Holds (wholeOf f m * f.one) := by
  have hp := f.two_le_precision
  rcases Nat.lt_or_ge m (2 ^ (f.precision - 1) * f.one) with hlt | hge
  · have hle : wholeOf f m ≤ 2 ^ (f.precision - 1) := by
      by_contra hgt
      have h1 := Nat.mul_le_mul_right f.one (Nat.lt_of_not_le hgt)
      have h2 := (wholeOf_spec (f := f) m).1
      rw [Nat.succ_mul] at h1
      omega
    have hpow : 2 ^ (f.precision - 1) ≤ 2 ^ f.precision :=
      Nat.pow_le_pow_right (by decide) (by omega)
    refine ⟨f.onGrid_mul_one (hle.trans hpow), ?_⟩
    calc wholeOf f m * f.one
        ≤ 2 ^ (f.precision - 1) * f.one := Nat.mul_le_mul_right _ hle
      _ = 2 ^ (f.precision - 1 + f.scale) := (Nat.pow_add ..).symm
      _ < f.limit := Nat.pow_lt_pow_right (by decide) (by omega)
  · obtain ⟨k, rfl⟩ := Format.one_dvd_of_le hm.aligned hge
    rw [Nat.mul_comm f.one k] at hm ⊢
    rwa [wholeOf_mul_one]

/-- The nearest whole number, exactly. -/
theorem toWhole_finite (hbias : f.precision ≤ f.bias + 1) (s : Bool) {m : ℕ} (hm : f.Holds m) :
    (finite s m hm).toWhole = finite s (wholeOf f m * f.one) (holds_wholeOf hbias hm) :=
  ofSteps_one s (holds_wholeOf hbias hm)

end Number

end PocketCalculator.Binary
