import Mathlib.Algebra.Order.Field.Rat
import Mathlib.Algebra.Order.Floor.Semifield
import Mathlib.Data.Nat.Cast.Order.Field
import Mathlib.Data.Rat.Floor
import Mathlib.Tactic.FieldSimp
import Mathlib.Tactic.Linarith
import Mathlib.Tactic.Positivity
import Mathlib.Tactic.Ring
import PocketCalculator.Binary.Format

/-!
# Rounding to the grid of a format

`Format.toGrid` rounds a quotient of whole numbers. Here the same rounding is a function of the
rational number that the quotient stands for (`Format.nearest`, `toGrid_eq_nearest`), and its laws
are those of a rounding to nearest. All magnitudes are counted in steps of the format.

* **`NearEven`**: a whole number is the one nearest to a rational number, a tie going to the even
  one. There is exactly one (`NearEven.unique`), and `nearestEven` finds it
  (`nearEven_nearestEven`).
* **`abs_nearest_sub_le`**: no number of the grid is nearer than the one that rounding gives. From
  it follow that rounding keeps the grid (`nearest_natCast`) and the order (`nearest_mono`).
* **`abs_nearest_sub_le_div`**: the error, relative to the number rounded.
-/

namespace PocketCalculator.Binary

/-! ### The nearest whole number -/

/-- The whole number `j` is the one nearest to `x`, a tie going to the even one. -/
def NearEven (x : ℚ) (j : ℕ) : Prop := |x - j| < 1 / 2 ∨ |x - j| = 1 / 2 ∧ j % 2 = 0

/-- The distance is at most one half. -/
theorem NearEven.le_half {x : ℚ} {j : ℕ} (h : NearEven x j) : |x - j| ≤ 1 / 2 := by
  rcases h with h | ⟨h, -⟩
  · exact h.le
  · exact h.le

/-- Two whole numbers within one half of the same number are equal or neighbours of it. -/
theorem NearEven.unique {x : ℚ} {j k : ℕ} (hj : NearEven x j) (hk : NearEven x k) : j = k := by
  wlog hlt : j < k generalizing j k
  · rcases Nat.lt_or_eq_of_le (Nat.le_of_not_lt hlt) with h | h
    · exact (this hk hj h).symm
    · exact h.symm
  exfalso
  have hj' := abs_le.mp hj.le_half
  have hk' := abs_le.mp hk.le_half
  have hcast : (j : ℚ) + 1 ≤ k := by exact_mod_cast hlt
  -- Both are at distance one half, so both are even, and they are neighbours.
  have hxj : x - j = 1 / 2 := by linarith
  have hxk : x - k = -(1 / 2) := by linarith
  have hnext : (k : ℚ) = j + 1 := by linarith
  have hsucc : k = j + 1 := by exact_mod_cast hnext
  rcases hj with hj | ⟨-, hjeven⟩
  · rw [hxj] at hj
    norm_num at hj
  rcases hk with hk | ⟨-, hkeven⟩
  · rw [hxk] at hk
    norm_num at hk
  omega

/-- No whole number is nearer. -/
theorem NearEven.abs_sub_le {x : ℚ} {j : ℕ} (h : NearEven x j) (k : ℕ) : |x - j| ≤ |x - k| := by
  have hj := abs_le.mp h.le_half
  rcases Nat.lt_trichotomy k j with hlt | rfl | hlt
  · have hcast : (k : ℚ) + 1 ≤ j := by exact_mod_cast hlt
    exact h.le_half.trans (le_abs.mpr (Or.inl (by linarith)))
  · exact le_rfl
  · have hcast : (j : ℚ) + 1 ≤ k := by exact_mod_cast hlt
    exact h.le_half.trans (le_abs.mpr (Or.inr (by linarith)))

/-- For a quotient of whole numbers, it is said by whole numbers. -/
theorem nearEven_div_iff (num j : ℕ) {den : ℕ} (hden : 0 < den) :
    NearEven ((num : ℚ) / den) j ↔
      |2 * ((num : ℤ) - j * den)| < den ∨ |2 * ((num : ℤ) - j * den)| = den ∧ j % 2 = 0 := by
  have hdenq : (0 : ℚ) < den := by exact_mod_cast hden
  have hpos : (0 : ℚ) < 2 * den := by positivity
  have hdist : |(num : ℚ) / den - j| = (|2 * ((num : ℤ) - j * den)| : ℤ) / (2 * den) := by
    have hmul : 2 * ((num : ℚ) - j * den) = (num / den - j) * (2 * den) := by field_simp
    push_cast
    rw [hmul, abs_mul, abs_of_pos hpos, mul_div_cancel_right₀ _ hpos.ne']
  unfold NearEven
  rw [hdist, div_lt_div_iff₀ hpos two_pos, div_eq_div_iff hpos.ne' two_ne_zero,
    one_mul, mul_comm (2 : ℚ) den, mul_lt_mul_iff_left₀ two_pos, mul_left_inj' two_ne_zero]
  norm_cast

/-- The quotient of two whole numbers is rounded to the whole number nearest to it. -/
theorem nearEven_nearestEven (num : ℕ) {den : ℕ} (hden : 0 < den) :
    NearEven ((num : ℚ) / den) (nearestEven num den) := by
  have hmod : num % den < den := Nat.mod_lt num hden
  have hrest : (num : ℤ) = (num / den : ℕ) * den + (num % den : ℕ) := by
    exact_mod_cast (Nat.div_add_mod' num den).symm
  rw [nearEven_div_iff num _ hden]
  unfold nearestEven
  dsimp only
  split
  case isTrue hlow =>
    rw [abs_lt]
    omega
  case isFalse hlow =>
    split
    case isTrue hhigh =>
      rw [Nat.cast_add, Nat.cast_one, add_mul, one_mul, abs_lt]
      omega
    case isFalse hhigh =>
      refine Or.inr ⟨?_, by omega⟩
      rcases Nat.mod_two_eq_zero_or_one (num / den) with h | h
      · rw [h, Nat.add_zero, abs_of_nonneg (by omega)]
        omega
      · rw [h, Nat.cast_add, Nat.cast_one, add_mul, one_mul, abs_of_nonpos (by omega)]
        omega

/-! ### The grid -/

namespace Format

variable (f : Format)

/-- The magnitudes that have no bits beyond the precision, whatever their size. -/
def OnGrid (n : ℕ) : Prop := 2 ^ f.excess n ∣ n

/-- Up to `2 ^ precision` spacings of any power of two are on the grid, -/
theorem onGrid_mul_pow {k : ℕ} (s : ℕ) (hk : k ≤ 2 ^ f.precision) : f.OnGrid (k * 2 ^ s) :=
  f.aligned_mul_pow s hk

/-- in particular the magnitudes up to `2 ^ precision` steps. -/
theorem onGrid_of_le {k : ℕ} (hk : k ≤ 2 ^ f.precision) : f.OnGrid k := by
  simpa using f.onGrid_mul_pow 0 hk

/-- A full significand begins at half of `2 ^ precision`. -/
theorem two_pow_precision : 2 ^ f.precision = 2 * 2 ^ (f.precision - 1) := by
  have hp := f.two_le_precision
  rw [← Nat.pow_succ']
  congr 1
  omega

/-- The spacing of the grid around a magnitude. -/
def unit (q : ℚ) : ℕ := 2 ^ f.excess ⌊q⌋₊

/-- The number of the grid nearest to a magnitude, which need not be a whole number of steps. -/
def nearest (q : ℚ) : ℕ := f.toGrid q.num.toNat q.den

/-- A spacing has at least one step, -/
theorem unit_pos (q : ℚ) : 0 < f.unit q := Nat.two_pow_pos _

/-- also as a rational number. -/
theorem cast_unit_pos (q : ℚ) : (0 : ℚ) < f.unit q := by exact_mod_cast f.unit_pos q

variable {f}

/-- A magnitude is less than `2 ^ precision` spacings. -/
theorem lt_unit (q : ℚ) : q < 2 ^ f.precision * f.unit q := by
  have hfloor : q < ⌊q⌋₊ + 1 := Nat.lt_floor_add_one q
  have hle : ⌊q⌋₊ + 1 ≤ 2 ^ f.precision * f.unit q := by
    rw [unit, ← Nat.pow_add]
    exact f.lt_two_pow_excess ⌊q⌋₊
  have hcast : ((⌊q⌋₊ + 1 : ℕ) : ℚ) ≤ (2 ^ f.precision * f.unit q : ℕ) := by exact_mod_cast hle
  push_cast at hcast
  linarith

/-- A magnitude is at least `2 ^ (precision - 1)` spacings, unless the spacing is one step. -/
theorem unit_le {q : ℚ} (hq : 0 ≤ q) :
    f.unit q = 1 ∨ 2 ^ (f.precision - 1) * (f.unit q : ℚ) ≤ q := by
  by_cases h : f.excess ⌊q⌋₊ = 0
  · left
    rw [unit, h, Nat.pow_zero]
  · right
    have hle : 2 ^ (f.precision - 1) * f.unit q ≤ ⌊q⌋₊ := by
      rw [unit, ← Nat.pow_add]
      exact two_pow_excess_le h
    have hcast : ((2 ^ (f.precision - 1) * f.unit q : ℕ) : ℚ) ≤ ⌊q⌋₊ := by exact_mod_cast hle
    push_cast at hcast
    exact hcast.trans (Nat.floor_le hq)

/-- From the smallest magnitude with a full significand upwards there is no exception. -/
theorem pow_mul_unit_le {q : ℚ} (hq : 2 ^ (f.precision - 1) ≤ q) :
    2 ^ (f.precision - 1) * (f.unit q : ℚ) ≤ q := by
  have hpos : (0 : ℚ) < 2 ^ (f.precision - 1) := by positivity
  rcases unit_le (f := f) (hpos.le.trans hq) with h | h
  · rw [h]
    simpa using hq
  · exact h

/-! ### Rounding -/

/-- Rounding a quotient gives the nearest whole number of spacings. -/
theorem exists_toGrid (num : ℕ) {den : ℕ} (hden : 0 < den) :
    ∃ j, f.toGrid num den = j * f.unit ((num : ℚ) / den) ∧
      NearEven ((num : ℚ) / den / f.unit ((num : ℚ) / den)) j := by
  have hunit : f.unit ((num : ℚ) / den) = 2 ^ f.excess (num / den) := by
    rw [unit, Nat.floor_div_eq_div]
  refine ⟨nearestEven num (den * f.unit ((num : ℚ) / den)), ?_, ?_⟩
  · rw [hunit]
    rfl
  · have h := nearEven_nearestEven num (Nat.mul_pos hden (f.unit_pos ((num : ℚ) / den)))
    rwa [Nat.cast_mul, ← div_div] at h

/-- The nearest number of the grid is a whole number of spacings, as near as one can be. -/
theorem exists_nearest {q : ℚ} (hq : 0 ≤ q) :
    ∃ j, f.nearest q = j * f.unit q ∧ NearEven (q / f.unit q) j := by
  have hnum : ((q.num.toNat : ℕ) : ℚ) = q.num := by
    exact_mod_cast Int.toNat_of_nonneg (Rat.num_nonneg.mpr hq)
  have h := exists_toGrid (f := f) q.num.toNat q.den_pos
  rwa [hnum, Rat.num_div_den] at h

/-- Rounding to the grid depends on the quotient alone. -/
theorem toGrid_eq_nearest (num : ℕ) {den : ℕ} (hden : 0 < den) :
    f.toGrid num den = f.nearest ((num : ℚ) / den) := by
  obtain ⟨j, hj, hnear⟩ := exists_toGrid (f := f) num hden
  obtain ⟨k, hk, hnear'⟩ := exists_nearest (f := f) (q := (num : ℚ) / den) (by positivity)
  rw [hj, hk, hnear.unique hnear']

/-- What rounding gives is on the grid. -/
theorem onGrid_nearest (q : ℚ) : f.OnGrid (f.nearest q) := f.aligned_toGrid _ _

/-- Distances from whole numbers of spacings, counted in spacings. -/
theorem abs_mul_unit_sub (q : ℚ) (i : ℕ) :
    |((i * f.unit q : ℕ) : ℚ) - q| = |q / f.unit q - i| * f.unit q := by
  have hu := f.cast_unit_pos q
  rw [Nat.cast_mul, abs_sub_comm, ← abs_of_pos hu, ← abs_mul, abs_of_pos hu, sub_mul,
    div_mul_cancel₀ _ hu.ne']

/-- A number of the grid that is not a whole number of spacings lies below the whole stretch of that
spacing. -/
theorem lt_of_not_unit_dvd {q : ℚ} (hq : 0 ≤ q) {g : ℕ} (hg : f.OnGrid g) (h : ¬ f.unit q ∣ g) :
    g < 2 ^ (f.precision - 1) * f.unit q ∧ 2 ^ (f.precision - 1) * (f.unit q : ℚ) ≤ q := by
  have hexcess : f.excess g < f.excess ⌊q⌋₊ := by
    by_contra hge
    exact h ((Nat.pow_dvd_pow 2 (Nat.le_of_not_lt hge)).trans hg)
  have hone : f.unit q ≠ 1 := by
    intro hone
    exact h (hone ▸ one_dvd g)
  refine ⟨?_, (unit_le hq).resolve_left hone⟩
  have hp := f.two_le_precision
  refine (f.lt_two_pow_excess g).trans_le ?_
  rw [unit, ← Nat.pow_add]
  exact Nat.pow_le_pow_right (by decide) (by omega)

/-- **No number of the grid is nearer** than the one that rounding gives. -/
theorem abs_nearest_sub_le {q : ℚ} (hq : 0 ≤ q) {g : ℕ} (hg : f.OnGrid g) :
    |(f.nearest q : ℚ) - q| ≤ |(g : ℚ) - q| := by
  obtain ⟨j, hj, hnear⟩ := exists_nearest (f := f) hq
  -- Whole numbers of spacings are compared by `NearEven`.
  have hspacings : ∀ k : ℕ, |(f.nearest q : ℚ) - q| ≤ |((k * f.unit q : ℕ) : ℚ) - q| := by
    intro k
    rw [hj, abs_mul_unit_sub, abs_mul_unit_sub]
    exact mul_le_mul_of_nonneg_right (hnear.abs_sub_le k) (by positivity)
  by_cases hdvd : f.unit q ∣ g
  · obtain ⟨k, rfl⟩ := hdvd
    rw [mul_comm]
    exact hspacings k
  · -- A number of the grid between two spacings lies below the whole stretch.
    obtain ⟨hsmall, hlow⟩ := lt_of_not_unit_dvd hq hg hdvd
    have hcast : (g : ℚ) < 2 ^ (f.precision - 1) * f.unit q := by exact_mod_cast hsmall
    have h := hspacings (2 ^ (f.precision - 1))
    push_cast at h
    refine h.trans ?_
    rw [abs_of_nonpos (by linarith), abs_of_nonpos (by linarith)]
    linarith

/-- Rounding keeps the numbers of the grid. -/
theorem nearest_natCast {g : ℕ} (hg : f.OnGrid g) : f.nearest g = g := by
  have h := abs_nearest_sub_le (f := f) (q := g) (by positivity) hg
  rw [sub_self, abs_zero] at h
  exact_mod_cast sub_eq_zero.mp (abs_nonpos_iff.mp h)

/-- Zero is kept. -/
theorem nearest_zero : f.nearest 0 = 0 := by
  exact_mod_cast nearest_natCast (f.onGrid_of_le (Nat.zero_le _))

/-- Rounding keeps the order. -/
theorem nearest_mono {q r : ℚ} (hq : 0 ≤ q) (hqr : q ≤ r) : f.nearest q ≤ f.nearest r := by
  by_contra hlt
  have hcast : (f.nearest r : ℚ) < f.nearest q := by exact_mod_cast Nat.lt_of_not_le hlt
  have hleft := abs_nearest_sub_le (f := f) hq (onGrid_nearest r)
  have hright := abs_nearest_sub_le (f := f) (hq.trans hqr) (onGrid_nearest q)
  -- Both numbers lie at the middle of the two results, so they are equal.
  have hq' : (f.nearest q + f.nearest r : ℚ) / 2 ≤ q := by
    by_contra hlt
    rw [abs_of_pos (by linarith)] at hleft
    have := le_abs.mp hleft
    rcases this with h | h <;> linarith
  have hr' : r ≤ (f.nearest q + f.nearest r : ℚ) / 2 := by
    by_contra hlt
    rw [abs_of_neg (by linarith)] at hright
    rcases le_abs.mp hright with h | h <;> linarith
  have heq : q = r := le_antisymm hqr (hr'.trans hq')
  rw [heq] at hcast
  exact lt_irrefl _ hcast

/-- A number of the grid that is not exceeded is not exceeded after rounding. -/
theorem nearest_le_of_le {q : ℚ} (hq : 0 ≤ q) {g : ℕ} (hg : f.OnGrid g) (h : q ≤ g) :
    f.nearest q ≤ g := by
  rw [← nearest_natCast hg]
  exact nearest_mono hq h

/-- The error of rounding is at most half a spacing. -/
theorem abs_nearest_sub_le_half {q : ℚ} (hq : 0 ≤ q) :
    |(f.nearest q : ℚ) - q| ≤ f.unit q / 2 := by
  obtain ⟨j, hj, hnear⟩ := exists_nearest (f := f) hq
  have hu := f.cast_unit_pos q
  rw [hj, abs_mul_unit_sub]
  linarith [mul_le_mul_of_nonneg_right hnear.le_half hu.le]

/-- The relative error of rounding is at most `2 ^ (-precision)`, from the smallest magnitude with a
full significand upwards. -/
theorem abs_nearest_sub_le_div {q : ℚ} (hq : 2 ^ (f.precision - 1) ≤ q) :
    |(f.nearest q : ℚ) - q| ≤ q / 2 ^ f.precision := by
  have hpos : (0 : ℚ) < 2 ^ (f.precision - 1) := by positivity
  have hsplit : (2 : ℚ) ^ f.precision = 2 * 2 ^ (f.precision - 1) := by
    exact_mod_cast f.two_pow_precision
  have hunit := pow_mul_unit_le hq
  refine (abs_nearest_sub_le_half (hpos.le.trans hq)).trans ?_
  rw [hsplit, div_le_div_iff₀ two_pos (by positivity)]
  linarith

end Format

end PocketCalculator.Binary
