import PocketCalculator.Proofs.Binary.Exact

/-!
# Correct rounding

What it means that a floating-point number is an exact number correctly rounded, said by distances
and not by the way it is computed. `Format.IsNearest`: of the magnitudes without bits beyond the
precision, whatever their size, this one is nearest, and at a tie its significand is even.
`Number.IsRounded`: the number has that magnitude and the sign, or is the infinity of the sign if
the magnitude is beyond the format.

* **`isNearest_nearest`**: the rounding of `Format.nearest` is the nearest magnitude, and there is
  no other (`IsNearest.eq_nearest`).
* **`isRounded_ofRatio`**: a quotient of whole numbers is rounded correctly, and there is one number
  only that is (`IsRounded.unique`).
-/

namespace PocketCalculator.Binary

namespace Format

variable {f : Format}

/-- The significand of a magnitude of the grid: what is left of it without the bits that are
clear. -/
def significand (f : Format) (g : ℕ) : ℕ := g / 2 ^ f.excess g

/-- The magnitude of the grid nearest to `q`, a tie going to the even significand. -/
structure IsNearest (f : Format) (q : ℚ) (g : ℕ) : Prop where
  onGrid : f.OnGrid g
  abs_sub_le : ∀ h, f.OnGrid h → |(g : ℚ) - q| ≤ |(h : ℚ) - q|
  even_of_tie : ∀ h, f.OnGrid h → h ≠ g → |(h : ℚ) - q| = |(g : ℚ) - q| →
    f.significand g % 2 = 0

/-- An even number of spacings has an even significand. -/
theorem significand_mul_pow_even {j : ℕ} (e : ℕ) (hj : j ≤ 2 ^ f.precision) (heven : j % 2 = 0) :
    f.significand (j * 2 ^ e) % 2 = 0 := by
  rcases Nat.lt_or_eq_of_le hj with hlt | rfl
  · obtain ⟨d, hd⟩ := Nat.exists_eq_add_of_le (excess_mul_pow_le e hlt)
    have hsplit : j * 2 ^ e = j * 2 ^ d * 2 ^ f.excess (j * 2 ^ e) := by
      conv_lhs => rw [hd, Nat.pow_add]
      ring
    have hdiv : f.significand (j * 2 ^ e) = j * 2 ^ d := by
      rw [significand, Nat.div_eq_of_eq_mul_left (Nat.two_pow_pos _) hsplit]
    rw [hdiv, Nat.mul_mod, heven, Nat.zero_mul, Nat.zero_mod]
  · have hp := f.two_le_precision
    have hexcess : f.excess (2 ^ f.precision * 2 ^ e) = e + 1 := by
      rw [← Nat.pow_add]
      apply Nat.le_antisymm
      · exact excess_le (Nat.pow_lt_pow_right (by decide) (by omega))
      · exact le_excess (Nat.pow_le_pow_right (by decide) (by omega))
    have hsplit : 2 ^ f.precision * 2 ^ e = 2 * 2 ^ (f.precision - 2) * 2 ^ (e + 1) := by
      have hprec : f.precision = f.precision - 2 + 2 := by omega
      conv_lhs => rw [hprec]
      ring
    rw [significand, hexcess, Nat.div_eq_of_eq_mul_left (Nat.two_pow_pos _) hsplit,
      Nat.mul_mod_right]

/-- What is on the grid and as near as the result of rounding is a whole number of spacings. -/
theorem unit_dvd_of_abs_sub_eq {q : ℚ} (hq : 0 ≤ q) {h : ℕ} (hh : f.OnGrid h)
    (htie : |(h : ℚ) - q| = |(f.nearest q : ℚ) - q|) : f.unit q ∣ h := by
  by_contra hdvd
  obtain ⟨hsmall, hlow⟩ := lt_of_not_unit_dvd hq hh hdvd
  have hcast : (h : ℚ) < 2 ^ (f.precision - 1) * f.unit q := by exact_mod_cast hsmall
  have hgrid : f.OnGrid (2 ^ (f.precision - 1) * f.unit q) :=
    f.onGrid_mul_pow _ (Nat.pow_le_pow_right (by decide) (Nat.sub_le _ _))
  have hmiddle := abs_nearest_sub_le hq hgrid
  push_cast at hmiddle
  rw [← htie, abs_of_nonpos (by linarith), abs_of_nonpos (by linarith)] at hmiddle
  linarith

/-- Within half a spacing of a magnitude nothing else on the grid is as near to it. -/
theorem eq_of_abs_sub_eq {q : ℚ} (hq : 0 ≤ q) {h : ℕ} (hh : f.OnGrid h)
    (hclose : |(f.nearest q : ℚ) - q| < f.unit q / 2)
    (htie : |(h : ℚ) - q| = |(f.nearest q : ℚ) - q|) : h = f.nearest q := by
  have hu := f.cast_unit_pos q
  obtain ⟨j, hj, -⟩ := exists_nearest (f := f) hq
  obtain ⟨k, rfl⟩ := unit_dvd_of_abs_sub_eq hq hh htie
  rw [Nat.mul_comm, hj] at htie ⊢
  rw [hj] at hclose
  have hleft := abs_lt.mp hclose
  have hright := abs_lt.mp (htie ▸ hclose)
  push_cast at hleft hright
  -- Two different whole numbers of spacings are at least one spacing apart.
  have happart : ∀ a b : ℕ, a < b → (a : ℚ) * f.unit q + f.unit q ≤ b * f.unit q := by
    intro a b hab
    have hcast : ((a + 1 : ℕ) : ℚ) ≤ b := by exact_mod_cast hab
    push_cast at hcast
    linarith [mul_le_mul_of_nonneg_right hcast hu.le]
  rcases Nat.lt_trichotomy k j with hlt | rfl | hlt
  · linarith [happart k j hlt]
  · rfl
  · linarith [happart j k hlt]

/-- A whole number next to a number is not below a whole number that the number is not below. -/
theorem le_of_near {y : ℚ} {k border : ℕ} (hy : border ≤ y) (h : |y - k| ≤ 1 / 2) : border ≤ k := by
  have hlt : (border : ℚ) < (k + 1 : ℕ) := by
    push_cast
    linarith [(abs_le.mp h).2]
  exact Nat.lt_succ_iff.mp (by exact_mod_cast hlt)

/-- The whole numbers of spacings around a magnitude are at most `2 ^ precision`, -/
theorem le_pow_of_near {q : ℚ} {k : ℕ} (h : |q / f.unit q - k| ≤ 1 / 2) :
    k ≤ 2 ^ f.precision := by
  have hu := f.cast_unit_pos q
  have hlt : q / f.unit q < 2 ^ f.precision := by
    rw [div_lt_iff₀ hu]
    exact lt_unit q
  have hle : (k : ℚ) < (2 ^ f.precision + 1 : ℕ) := by
    push_cast
    linarith [(abs_le.mp h).1]
  exact Nat.lt_succ_iff.mp (by exact_mod_cast hle)

/-- and at least half as many, unless the spacing is one step. -/
theorem pow_le_of_near {q : ℚ} (hq : 0 ≤ q) {k : ℕ} (h : |q / f.unit q - k| ≤ 1 / 2) :
    f.excess ⌊q⌋₊ = 0 ∨ 2 ^ (f.precision - 1) ≤ k := by
  have hu := f.cast_unit_pos q
  rcases unit_le (f := f) hq with hone | hstretch
  · exact .inl ((Nat.pow_eq_one.mp hone).resolve_left (by decide))
  · right
    have hle : (2 : ℚ) ^ (f.precision - 1) ≤ q / f.unit q := (le_div_iff₀ hu).mpr hstretch
    exact le_of_near (by exact_mod_cast hle) h

/-- Rounding gives the nearest magnitude. -/
theorem isNearest_nearest {q : ℚ} (hq : 0 ≤ q) : f.IsNearest q (f.nearest q) where
  onGrid := onGrid_nearest q
  abs_sub_le h hh := abs_nearest_sub_le hq hh
  even_of_tie h hh hne htie := by
    obtain ⟨j, hj, hnear⟩ := exists_nearest (f := f) hq
    have hu := f.cast_unit_pos q
    rcases hnear with hnear | ⟨hhalf, heven⟩
    · refine absurd (eq_of_abs_sub_eq hq hh ?_ htie) hne
      rw [hj, abs_mul_unit_sub]
      linarith [mul_lt_mul_of_pos_right hnear hu]
    · rw [hj]
      exact significand_mul_pow_even _ (le_pow_of_near hhalf.le) heven

/-! ### There is only one nearest magnitude -/

/-- An odd number of spacings in the stretch of that spacing has an odd significand. -/
theorem significand_mul_pow_odd {k e : ℕ} (hlow : e = 0 ∨ 2 ^ (f.precision - 1) ≤ k)
    (hhigh : k < 2 ^ f.precision) (hodd : k % 2 = 1) : f.significand (k * 2 ^ e) % 2 = 1 := by
  have hexcess : f.excess (k * 2 ^ e) = e := by
    apply Nat.le_antisymm (excess_mul_pow_le e hhigh)
    rcases hlow with rfl | hlow
    · exact Nat.zero_le _
    · apply le_excess
      rw [Nat.pow_add]
      exact Nat.mul_le_mul_right _ hlow
  rw [significand, hexcess, Nat.mul_div_cancel _ (Nat.two_pow_pos e), hodd]

/-- What is nearest is the result of rounding. -/
theorem IsNearest.eq_nearest {q : ℚ} (hq : 0 ≤ q) {g : ℕ} (h : f.IsNearest q g) :
    g = f.nearest q := by
  have htie : |(g : ℚ) - q| = |(f.nearest q : ℚ) - q| :=
    le_antisymm (h.abs_sub_le _ (onGrid_nearest q)) (abs_nearest_sub_le hq h.onGrid)
  obtain ⟨j, hj, hnear⟩ := exists_nearest (f := f) hq
  have hu := f.cast_unit_pos q
  rcases hnear with hnear | ⟨hhalf, heven⟩
  · refine eq_of_abs_sub_eq hq h.onGrid ?_ htie
    rw [hj, abs_mul_unit_sub]
    linarith [mul_lt_mul_of_pos_right hnear hu]
  -- At a tie the other neighbour is an odd number of spacings, and its significand is odd.
  by_contra hne
  obtain ⟨k, rfl⟩ := exists_eq_mul_left_of_dvd (unit_dvd_of_abs_sub_eq hq h.onGrid htie)
  rw [hj, abs_mul_unit_sub, abs_mul_unit_sub, hhalf] at htie
  have hk : |q / f.unit q - k| = 1 / 2 := mul_right_cancel₀ hu.ne' htie
  have hodd : k % 2 = 1 := by
    refine (Nat.mod_two_eq_zero_or_one k).resolve_left fun hkeven => hne ?_
    rw [hj, NearEven.unique (.inr ⟨hk, hkeven⟩) (.inr ⟨hhalf, heven⟩)]
  have hhigh : k < 2 ^ f.precision := by
    have hle := le_pow_of_near hk.le
    have heven : 2 ^ f.precision % 2 = 0 :=
      Nat.mod_eq_zero_of_dvd (dvd_pow_self 2 (Nat.ne_of_gt (by have := f.two_le_precision; omega)))
    omega
  have hsignificand := significand_mul_pow_odd (pow_le_of_near hq hk.le) hhigh hodd
  have hother : |((f.nearest q : ℕ) : ℚ) - q| = |((k * f.unit q : ℕ) : ℚ) - q| := by
    rw [hj, abs_mul_unit_sub, abs_mul_unit_sub, hk, hhalf]
  have hzero := h.even_of_tie (f.nearest q) (onGrid_nearest q) (Ne.symm hne) hother
  exact absurd (hzero.symm.trans hsignificand) (by decide)

end Format

namespace Number

variable {f : Format}

/-- The number is the magnitude `q` with the sign, correctly rounded. -/
inductive IsRounded (negative : Bool) (q : ℚ) : Number f → Prop where
  /-- The nearest magnitude is one of the format. -/
  | finite {m : ℕ} (holds : f.Holds m) (nearest : f.IsNearest (q * f.one) m) :
      IsRounded negative q (.finite negative m holds)
  /-- The nearest magnitude is beyond the format. -/
  | infinity {g : ℕ} (beyond : f.limit ≤ g) (nearest : f.IsNearest (q * f.one) g) :
      IsRounded negative q (.infinity negative)

/-- A quotient of steps is rounded correctly, -/
theorem isRounded_ofSteps (negative : Bool) (num : ℕ) {den : ℕ} (hden : 0 < den) :
    IsRounded negative (num / den / f.one) (ofSteps negative num den : Number f) := by
  have hnearest : f.IsNearest ((num : ℚ) / den / f.one * f.one) (f.toGrid num den) := by
    rw [div_mul_cancel₀ _ f.cast_one_pos.ne', f.toGrid_eq_nearest _ hden]
    exact Format.isNearest_nearest (by positivity)
  unfold ofSteps
  split
  case isTrue hlt => exact .finite _ hnearest
  case isFalse hge => exact .infinity (Nat.le_of_not_lt hge) hnearest

/-- and so is a quotient of whole numbers. -/
theorem isRounded_ofRatio (negative : Bool) (num : ℕ) {den : ℕ} (hden : 0 < den) :
    IsRounded negative (num / den) (ofRatio negative num den : Number f) := by
  have hquotient : ((num * f.one : ℕ) : ℚ) / den / f.one = num / den := by
    rw [Nat.cast_mul, div_right_comm, mul_div_cancel_right₀ _ f.cast_one_pos.ne']
  rw [ofRatio, ← hquotient]
  exact isRounded_ofSteps negative (num * f.one) hden

/-- A magnitude is correctly rounded to one number only. -/
theorem IsRounded.unique {negative : Bool} {q : ℚ} (hq : 0 ≤ q) {x y : Number f}
    (hx : IsRounded negative q x) (hy : IsRounded negative q y) : x = y := by
  have hscaled : 0 ≤ q * f.one := by positivity
  cases hx with
  | finite hm hxm =>
      obtain rfl := hxm.eq_nearest hscaled
      cases hy with
      | finite hn hyn =>
          obtain rfl := hyn.eq_nearest hscaled
          rfl
      | infinity hbeyond hyg =>
          obtain rfl := hyg.eq_nearest hscaled
          exact absurd hm.below (Nat.not_lt.mpr hbeyond)
  | infinity hbeyond hxg =>
      obtain rfl := hxg.eq_nearest hscaled
      cases hy with
      | finite hn hyn =>
          obtain rfl := hyn.eq_nearest hscaled
          exact absurd hn.below (Nat.not_lt.mpr hbeyond)
      | infinity _ _ => rfl

end Number

end PocketCalculator.Binary
