/-!
# Binary formats and their grid

A binary floating-point format holds a finite set of magnitudes. Every one of them is a whole
number of **steps**, the step being the smallest positive magnitude of the format, so a magnitude
is a natural number here and no exponent has to be carried along. The main objects:

* `Format`, with `Format.binary64` and `Format.binary32`: precision and exponent range;
* `Format.Holds`: the numbers of steps that the format can hold;
* `nearestEven`: a quotient rounded to the nearest whole number, a tie to the even one;
* `Format.toGrid`: a quotient of steps rounded to the format's grid.

`aligned_toGrid` says that the rounded magnitude lies on the grid, so that it is held by the format
as soon as it stays below `Format.limit`.
-/

namespace PocketCalculator.Binary

-- Powers of natural numbers are the core library's, whatever else is in scope.
attribute [scoped instance (2000)] instPowNat

/-! ## Formats -/

/-- A binary floating-point format: significands of `precision` bits, and exponents from
`1 - bias` to `bias`. -/
structure Format where
  /-- Bits of a significand, the leading one included. -/
  precision : Nat
  /-- The largest exponent of a finite number. -/
  bias : Nat
  /-- A significand has a leading bit and at least one more. -/
  two_le_precision : 2 ≤ precision := by decide

/-- Double precision: 53 bits, exponents up to 1023. -/
def Format.binary64 : Format := ⟨53, 1023, by decide⟩

/-- Single precision: 24 bits, exponents up to 127. -/
def Format.binary32 : Format := ⟨24, 127, by decide⟩

namespace Format

variable (f : Format)

/-- The smallest positive magnitude, one step, is `2 ^ (-f.scale)`. -/
def scale : Nat := f.bias + f.precision - 2

/-- The number one, in steps. -/
def one : Nat := 2 ^ f.scale

/-- The first power of two that is too large, in steps. -/
def limit : Nat := 2 ^ (f.bias + 1 + f.scale)

/-- The number of low bits that a magnitude of `n` steps must leave clear: those beyond the
precision, counted from its leading bit. -/
def excess (n : Nat) : Nat := n.log2 + 1 - f.precision

/-- The magnitudes of the format, in steps. -/
structure Holds (n : Nat) : Prop where
  /-- Only the leading `precision` bits are in use. -/
  aligned : 2 ^ f.excess n ∣ n
  /-- The magnitude is finite. -/
  below : n < f.limit

instance (n : Nat) : Decidable (f.Holds n) :=
  decidable_of_iff (2 ^ f.excess n ∣ n ∧ n < f.limit) ⟨fun h => ⟨h.1, h.2⟩, fun h => ⟨h.1, h.2⟩⟩

/-! ## Bits beyond the precision -/

/-- A magnitude has at most `precision` bits and those beyond the precision. -/
theorem lt_two_pow_excess (n : Nat) : n < 2 ^ (f.precision + f.excess n) := by
  have hlog : n < 2 ^ (n.log2 + 1) := Nat.lt_log2_self
  refine Nat.lt_of_lt_of_le hlog (Nat.pow_le_pow_right (by decide) ?_)
  unfold excess
  omega

variable {f}

/-- If it has any beyond the precision, it has no fewer bits than that. -/
theorem two_pow_excess_le {n : Nat} (h : f.excess n ≠ 0) :
    2 ^ (f.precision - 1 + f.excess n) ≤ n := by
  have hp := f.two_le_precision
  have hlog : f.precision - 1 + f.excess n = n.log2 := by
    unfold excess at h ⊢
    omega
  rw [hlog]
  refine Nat.log2_self_le ?_
  rintro rfl
  rw [Nat.log2_zero] at hlog
  omega

/-- Below `2 ^ (precision + e)` there are at most `e` bits beyond the precision, -/
theorem excess_le {n e : Nat} (h : n < 2 ^ (f.precision + e)) : f.excess n ≤ e := by
  by_cases hzero : f.excess n = 0
  · omega
  have hlt := Nat.lt_of_le_of_lt (two_pow_excess_le hzero) h
  have hexponent := (Nat.pow_lt_pow_iff_right (by decide)).mp hlt
  omega

/-- and from `2 ^ (precision - 1 + e)` upwards at least as many. -/
theorem le_excess {n e : Nat} (h : 2 ^ (f.precision - 1 + e) ≤ n) : e ≤ f.excess n := by
  have hp := f.two_le_precision
  have hlt := Nat.lt_of_le_of_lt h (f.lt_two_pow_excess n)
  have hexponent := (Nat.pow_lt_pow_iff_right (by decide)).mp hlt
  omega

/-- Multiplying by a power of two adds no more bits than the power. -/
theorem excess_mul_pow_le {k : Nat} (s : Nat) (hk : k < 2 ^ f.precision) :
    f.excess (k * 2 ^ s) ≤ s := by
  apply excess_le
  rw [Nat.pow_add]
  exact Nat.mul_lt_mul_of_pos_right hk (Nat.two_pow_pos s)

end Format

/-! ## Rounding to the grid -/

/-- The whole number nearest to `num / den`; of two equally near, the even one. -/
def nearestEven (num den : Nat) : Nat :=
  let low := num / den
  let twice := 2 * (num % den)
  if twice < den then low
  else if den < twice then low + 1
  else low + low % 2

/-- The whole number nearest to a quotient is at most one more than its integral part. -/
theorem nearestEven_le (num den : Nat) : nearestEven num den ≤ num / den + 1 := by
  unfold nearestEven
  dsimp only
  split
  · omega
  · split <;> omega

namespace Format

variable (f : Format)

/-- The magnitude nearest to `num / den` steps, a tie going to the even significand. No upper bound
is applied: the result may lie at or above `f.limit`. -/
def toGrid (num den : Nat) : Nat :=
  let unit := 2 ^ f.excess (num / den)
  nearestEven num (den * unit) * unit

/-- A multiple of a power of two with at most `precision` further bits lies on the grid. -/
theorem aligned_mul_pow {k : Nat} (s : Nat) (hk : k ≤ 2 ^ f.precision) :
    2 ^ f.excess (k * 2 ^ s) ∣ k * 2 ^ s := by
  rcases Nat.lt_or_eq_of_le hk with hlt | rfl
  · exact Nat.dvd_trans (Nat.pow_dvd_pow 2 (excess_mul_pow_le s hlt)) (Nat.dvd_mul_left (2 ^ s) k)
  · rw [← Nat.pow_add]
    refine Nat.pow_dvd_pow 2 (Nat.le_trans (excess_le (e := s + 1) ?_) ?_)
    · exact Nat.pow_lt_pow_right (by decide) (by omega)
    · have hp := f.two_le_precision
      omega

/-- Rounding ends on the grid. -/
theorem aligned_toGrid (num den : Nat) :
    2 ^ f.excess (f.toGrid num den) ∣ f.toGrid num den := by
  refine f.aligned_mul_pow _ (Nat.le_trans (nearestEven_le _ _) ?_)
  rw [← Nat.div_div_eq_div_mul]
  refine (Nat.div_lt_iff_lt_mul (Nat.two_pow_pos _)).mpr ?_
  rw [← Nat.pow_add]
  exact f.lt_two_pow_excess (num / den)

end Format

end PocketCalculator.Binary
