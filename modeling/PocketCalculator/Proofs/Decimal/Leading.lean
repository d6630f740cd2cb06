import PocketCalculator.Proofs.Decimal.Layout

/-!
# The leading digit of a decimal

Where the point of a decimal stands says how large it is: a power of ten is at most the decimal if
and only if its exponent lies before the point (`pow_le_toRat_iff`), and the first of the
significant digits is not zero (`exists_significant_eq_cons`). The shortest decimals of two
magnitudes are in the order of the magnitudes, which decides on which side of a given decimal they
lie (`toRat_le_shortest_iff`).
-/

namespace PocketCalculator

open Binary

/-! ### Digits of a natural number -/

/-- A natural number is below the power of ten of its number of digits, -/
theorem lt_ten_pow_length (n : ℕ) : n < 10 ^ (decimalDigits n).length :=
  (Nat.length_toDigits_le_iff (by decide) Nat.length_toDigits_pos).mp le_rfl

/-- and, unless it is zero, not below the power before. -/
theorem ten_pow_length_le {n : ℕ} (hn : 0 < n) : 10 ^ ((decimalDigits n).length - 1) ≤ n := by
  by_contra hlt
  have hlength : 0 < (decimalDigits n).length := Nat.length_toDigits_pos
  rcases Nat.eq_zero_or_pos ((decimalDigits n).length - 1) with hone | hmore
  · rw [hone, Nat.pow_zero] at hlt
    omega
  · have hle := (Nat.length_toDigits_le_iff (by decide) hmore).mpr (Nat.lt_of_not_le hlt)
    rw [← decimalDigits] at hle
    omega

/-- The first digit is not zero, unless the number is. -/
theorem head?_decimalDigits_ne {n : ℕ} (hn : 0 < n) : (decimalDigits n).head? ≠ some '0' := by
  induction n using Nat.strongRecOn with
  | ind n ih =>
      rcases Nat.lt_or_ge n 10 with hlt | hge
      · rw [decimalDigits, Nat.toDigits_of_lt_base hlt, List.head?_cons, Ne, Option.some.injEq,
          Nat.digitChar_eq_zero]
        omega
      · rw [decimalDigits, Nat.toDigits_of_base_le (by decide) hge,
          List.head?_append_of_ne_nil _ Nat.toDigits_ne_nil]
        exact ih (n / 10) (by omega) (by omega)

namespace Decimal

variable {f : Format} {d : Decimal}

/-- The significant digits begin with one other than zero. -/
theorem exists_significant_eq_cons (h : 0 < d.digits) :
    ∃ lead more, d.significant = lead :: more ∧ lead ≠ '0' := by
  obtain ⟨lead, more, heq⟩ := List.exists_cons_of_ne_nil (d.significant_ne_nil h)
  refine ⟨lead, more, heq, ?_⟩
  rintro rfl
  obtain ⟨k, hk⟩ := d.exists_decimalDigits_eq
  refine head?_decimalDigits_ne h ?_
  rw [hk, heq, List.cons_append, List.head?_cons]

/-- A decimal has no sign. -/
theorem toRat_nonneg (d : Decimal) : 0 ≤ d.toRat :=
  mul_nonneg (Nat.cast_nonneg _) (zpow_nonneg (by norm_num) _)

/-- The powers of ten that are at most the decimal are those of places before its point. -/
theorem pow_le_toRat_iff (h : 0 < d.digits) (e : ℤ) : 10 ^ e ≤ d.toRat ↔ e < d.point := by
  have hlength : 0 < (decimalDigits d.digits).length := Nat.length_toDigits_pos
  have hlow : (10 : ℚ) ^ (d.point - 1) ≤ d.toRat := by
    have hcast : (10 : ℚ) ^ ((decimalDigits d.digits).length - 1) ≤ d.digits := by
      exact_mod_cast ten_pow_length_le h
    have hplace : d.point - 1 = ((decimalDigits d.digits).length - 1 : ℕ) + d.exponent := by
      unfold point
      omega
    rw [hplace, zpow_add₀ (by norm_num), zpow_natCast, toRat]
    exact mul_le_mul_of_nonneg_right hcast (zpow_nonneg (by norm_num) _)
  have hhigh : d.toRat < (10 : ℚ) ^ d.point := by
    have hcast : (d.digits : ℚ) < 10 ^ (decimalDigits d.digits).length := by
      exact_mod_cast lt_ten_pow_length d.digits
    rw [point, zpow_add₀ (by norm_num), zpow_natCast, toRat]
    exact mul_lt_mul_of_pos_right hcast (zpow_pos (by norm_num) _)
  constructor
  · intro hle
    exact (zpow_lt_zpow_iff_right₀ (by norm_num : (1 : ℚ) < 10)).mp (hle.trans_lt hhigh)
  · intro hlt
    exact (zpow_le_zpow_right₀ (by norm_num) (by omega)).trans hlow

/-- The shortest decimal of a magnitude is at least the decimal `d` exactly if the magnitude is at
least the one that `d` is read as, provided it is so for that one. -/
theorem toRat_le_shortest_iff {m least : ℕ} (hm : f.OnGrid m)
    (hleast : f.nearest (d.toRat * f.one) = least) (hborder : d.toRat ≤ (shortest f least).toRat) :
    d.toRat ≤ (shortest f m).toRat ↔ least ≤ m := by
  have hread := readsAs_iff.mp (readsAs_shortest hm)
  have hone : (0 : ℚ) ≤ f.one := by positivity
  constructor
  · intro hle
    rw [← hleast, ← hread]
    exact Format.nearest_mono (mul_nonneg d.toRat_nonneg hone) (mul_le_mul_of_nonneg_right hle hone)
  · intro hle
    by_contra hlt
    have hmono : f.nearest ((shortest f m).toRat * f.one) ≤ f.nearest (d.toRat * f.one) :=
      Format.nearest_mono (mul_nonneg (toRat_nonneg _) hone)
        (mul_le_mul_of_nonneg_right (le_of_not_ge hlt) hone)
    rw [hread, hleast] at hmono
    obtain rfl := Nat.le_antisymm hle hmono
    exact hlt hborder

end Decimal

end PocketCalculator
