import PocketCalculator.Proofs.Rounding.HalfUp

/-!
# Rounding to decimal places

Rounding to places scales, rounds halves up, and scales back, and both scalings round to the grid.
For up to ten places the factor is the exact power of ten (`hasSteps_tenPower`), so the result is a
function of the exact value alone (`Number.rounded`, `hasSteps_roundToPlaces`).

Scaling a rounded result again gives the whole number only nearly. The error of the quotient comes
back multiplied by the factor, and it is a small part of one as long as the whole number leaves room
for such parts in a significand (`round_mul_of_room`). With room for quarters the whole number comes
back:

* **`halfUp_round_mul`**: dividing a whole number by the factor and multiplying it again.
-/

namespace PocketCalculator

open Binary Number

namespace Binary.Number

variable {f : Format}

/-- The signed number of steps after rounding to multiples of `1 / factor`. -/
def rounded (f : Format) (factor : ℕ) (a : ℤ) : ℤ :=
  f.round (halfUp f (f.round (a * factor)) * f.one / factor)

/-! ### Parts of one -/

/-- One is a power of two of steps, and can be halved as often. -/
theorem one_eq_pow_mul {bits : ℕ} (hbits : bits ≤ f.scale) :
    f.one = 2 ^ bits * 2 ^ (f.scale - bits) := by
  rw [Format.one, ← Nat.pow_add]
  congr 1
  omega

/-- A whole number in parts of one. -/
theorem mul_one_eq_parts (n : ℤ) {bits : ℕ} (hbits : bits ≤ f.scale) :
    n * (f.one : ℤ) = 2 ^ bits * n * (2 ^ (f.scale - bits) : ℕ) := by
  rw [one_eq_pow_mul hbits]
  push_cast
  ring

/-- As many parts of one as a significand counts are on the grid. -/
theorem round_parts {i : ℤ} (bits : ℕ) (hi : i.natAbs ≤ 2 ^ f.precision) :
    f.round ((i * (2 ^ (f.scale - bits) : ℕ) : ℤ) : ℚ) = i * (2 ^ (f.scale - bits) : ℕ) := by
  refine Format.round_intCast ?_
  rw [Int.natAbs_mul, Int.natAbs_natCast]
  exact f.onGrid_mul_pow _ hi

/-- So what is not below them is not rounded below them, -/
theorem parts_le_round {i : ℤ} (bits : ℕ) (hi : i.natAbs ≤ 2 ^ f.precision) {q : ℚ}
    (hq : ((i * (2 ^ (f.scale - bits) : ℕ) : ℤ) : ℚ) ≤ q) :
    i * (2 ^ (f.scale - bits) : ℕ) ≤ f.round q := by
  rw [← round_parts bits hi]
  exact Format.round_mono hq

/-- and what is not above them is not rounded above them. -/
theorem round_le_parts {i : ℤ} (bits : ℕ) (hi : i.natAbs ≤ 2 ^ f.precision) {q : ℚ}
    (hq : q ≤ ((i * (2 ^ (f.scale - bits) : ℕ) : ℤ) : ℚ)) :
    f.round q ≤ i * (2 ^ (f.scale - bits) : ℕ) := by
  rw [← round_parts bits hi]
  exact Format.round_mono hq

/-- A whole number in steps, without its sign. -/
theorem abs_mul_one (n : ℤ) : |(n : ℚ) * f.one| = n.natAbs * f.one := by
  rw [abs_mul, Nat.abs_cast, Nat.cast_natAbs, Int.cast_abs]

/-- The error of a quotient, multiplied by the factor. -/
theorem abs_round_div_mul_sub_le (n : ℤ) {factor : ℕ} (hpos : 0 < factor)
    (hsmall : 2 ^ (f.precision - 1) * factor ≤ f.one) :
    |(f.round (n * f.one / factor) : ℚ) * factor - n * f.one| ≤
      n.natAbs / 2 ^ f.precision * f.one := by
  rcases eq_or_ne n 0 with rfl | hne
  · simp [Format.round_of_nonneg, Format.nearest_zero]
  have hfactor : (0 : ℚ) < factor := by exact_mod_cast hpos
  have habs : |(n : ℚ) * f.one / factor| * factor = n.natAbs * f.one := by
    rw [abs_div, abs_mul_one, abs_of_pos hfactor, div_mul_cancel₀ _ hfactor.ne']
  have hlarge : (2 : ℚ) ^ (f.precision - 1) ≤ |(n : ℚ) * f.one / factor| := by
    have hcast : (2 : ℚ) ^ (f.precision - 1) * factor ≤ f.one := by exact_mod_cast hsmall
    have hcount' : (1 : ℚ) ≤ n.natAbs := by exact_mod_cast Int.natAbs_pos.mpr hne
    refine le_of_mul_le_mul_right ?_ hfactor
    rw [habs]
    nlinarith
  have herror := Format.abs_round_sub_le_div hlarge
  calc |(f.round (n * f.one / factor) : ℚ) * factor - n * f.one|
      = |(f.round (n * f.one / factor) : ℚ) - n * f.one / factor| * factor := by
        rw [← abs_of_pos hfactor, ← abs_mul, abs_of_pos hfactor, sub_mul,
          div_mul_cancel₀ _ hfactor.ne']
    _ ≤ |(n : ℚ) * f.one / factor| / 2 ^ f.precision * factor :=
        mul_le_mul_of_nonneg_right herror hfactor.le
    _ = n.natAbs / 2 ^ f.precision * f.one := by
        rw [div_mul_eq_mul_div, habs, div_mul_eq_mul_div]

section

variable (hbias : f.precision ≤ f.bias + 1)
include hbias

/-- Parts of one that a significand counts are not too large for the format. -/
theorem parts_lt_limit {k bits : ℕ} (hpos : 0 < bits) (hbits : bits ≤ f.scale)
    (hk : k ≤ 2 ^ f.precision) : k * 2 ^ (f.scale - bits) < f.limit := by
  calc k * 2 ^ (f.scale - bits)
      ≤ 2 ^ f.precision * 2 ^ (f.scale - bits) := Nat.mul_le_mul_right _ hk
    _ = 2 ^ (f.precision + (f.scale - bits)) := (Nat.pow_add ..).symm
    _ < f.limit := Nat.pow_lt_pow_right (by decide) (by omega)

/-- A number of steps within a part of a whole number is rounded to one that is, if the parts around
the whole number are on the grid. -/
theorem round_of_near {n : ℤ} {bits : ℕ} (hpos : 0 < bits) (hbits : bits ≤ f.scale)
    (hn : 2 ^ bits * n.natAbs + 1 ≤ 2 ^ f.precision) {q : ℚ}
    (hq : |q - n * f.one| ≤ f.one / 2 ^ bits) :
    (f.round q).natAbs < f.limit ∧
      n * f.one - (2 ^ (f.scale - bits) : ℕ) ≤ f.round q ∧
      f.round q ≤ n * f.one + (2 ^ (f.scale - bits) : ℕ) := by
  have hparts : (2 ^ bits * n).natAbs = 2 ^ bits * n.natAbs := by
    rw [Int.natAbs_mul, Int.natAbs_pow]
    rfl
  have hpart : (f.one : ℚ) / 2 ^ bits = (2 ^ (f.scale - bits) : ℕ) := by
    rw [one_eq_pow_mul hbits]
    push_cast
    field_simp
  have hcast : (n : ℚ) * f.one = (n * f.one : ℤ) := by push_cast; rfl
  rw [hpart, hcast, mul_one_eq_parts n hbits, abs_le] at hq
  have hlow := parts_le_round (f := f) (i := 2 ^ bits * n - 1) bits (q := q) (by omega)
    (by push_cast at hq ⊢; linarith [hq.1])
  have hhigh := round_le_parts (f := f) (i := 2 ^ bits * n + 1) bits (q := q) (by omega)
    (by push_cast at hq ⊢; linarith [hq.2])
  have hlimit := parts_lt_limit hbias hpos hbits hn
  rw [sub_mul, one_mul] at hlow
  rw [add_mul, one_mul] at hhigh
  rw [Nat.add_mul, Nat.one_mul] at hlimit
  rw [mul_one_eq_parts n hbits]
  refine ⟨?_, hlow, hhigh⟩
  have habs : (2 ^ bits * n * (2 ^ (f.scale - bits) : ℕ)).natAbs =
      2 ^ bits * n.natAbs * 2 ^ (f.scale - bits) := by
    rw [Int.natAbs_mul, hparts, Int.natAbs_natCast]
  omega

/-- With room for parts of one, a number of units comes back within such a part. -/
theorem round_mul_of_room {n : ℤ} {bits factor : ℕ} (hpos : 0 < bits) (hbits : bits ≤ f.scale)
    (hfactor : 0 < factor) (hsmall : 2 ^ (f.precision - 1) * factor ≤ f.one)
    (hn : 2 ^ bits * n.natAbs + 1 ≤ 2 ^ f.precision) :
    let p := f.round (f.round (n * f.one / factor) * factor)
    p.natAbs < f.limit ∧ n * f.one - (2 ^ (f.scale - bits) : ℕ) ≤ p ∧
      p ≤ n * f.one + (2 ^ (f.scale - bits) : ℕ) := by
  intro p
  apply round_of_near hbias hpos hbits hn
  have hpart : (n.natAbs : ℚ) / 2 ^ f.precision ≤ 1 / 2 ^ bits := by
    have hcast : (2 ^ bits * n.natAbs + 1 : ℚ) ≤ 2 ^ f.precision := by exact_mod_cast hn
    rw [div_le_div_iff₀ (by positivity) (by positivity)]
    linarith
  calc |(f.round (n * f.one / factor) : ℚ) * factor - n * f.one|
      ≤ n.natAbs / 2 ^ f.precision * f.one := abs_round_div_mul_sub_le n hfactor hsmall
    _ ≤ 1 / 2 ^ bits * f.one := mul_le_mul_of_nonneg_right hpart (Nat.cast_nonneg _)
    _ = f.one / 2 ^ bits := by ring

end

section

variable (hbias : f.precision ≤ f.bias + 1) (hscale : 2 ≤ f.scale)
include hbias hscale

/-- Dividing a whole number and multiplying it again gives it back after rounding. -/
theorem halfUp_round_mul {n : ℤ} (hn : f.Holds (n * f.one).natAbs) {factor : ℕ}
    (h : factor = 1 ∨ 0 < factor ∧ 2 ^ (f.precision - 1) * factor ≤ f.one ∧
      4 * n.natAbs + 1 ≤ 2 ^ f.precision) :
    (f.round (f.round (n * f.one / factor) * factor)).natAbs < f.limit ∧
      halfUp f (f.round (f.round (n * f.one / factor) * factor)) = n := by
  have hexact : f.round ((n : ℚ) * f.one) = n * f.one := by
    exact_mod_cast Format.round_intCast hn.aligned
  rcases h with rfl | ⟨hpos, hsmall, hquarters⟩
  · rw [Nat.cast_one, div_one, mul_one, hexact]
    push_cast
    rw [hexact]
    exact ⟨hn.below, halfUp_mul_one n⟩
  obtain ⟨hlimit, hlow, hhigh⟩ :=
    round_mul_of_room hbias (by decide) hscale hpos hsmall hquarters
  have hone := one_eq_pow_mul hscale
  have hone' := f.one_pos
  refine ⟨hlimit, ?_⟩
  rw [halfUp_eq_iff]
  constructor <;> omega

end

/-- A bound on the exact product that is on the grid bounds the whole number. -/
theorem natAbs_halfUp_le {k : ℕ} (hk : f.OnGrid (k * f.one)) {q : ℚ} (hq : |q| ≤ k * f.one) :
    (f.round q).natAbs ≤ k * f.one ∧ (halfUp f (f.round q)).natAbs ≤ k := by
  have hround : (f.round q).natAbs ≤ k * f.one := by
    rw [Format.natAbs_round]
    exact Format.nearest_le_of_le (abs_nonneg q) hk (by exact_mod_cast hq)
  refine ⟨hround, ?_⟩
  obtain ⟨hlow, hhigh⟩ := halfUp_eq_iff.mp (rfl : halfUp f (f.round q) = _)
  have hone : (0 : ℤ) < f.one := by exact_mod_cast f.one_pos
  have hcast : ((k * f.one : ℕ) : ℤ) = k * f.one := by push_cast; rfl
  by_contra hgt
  rcases le_total 0 (halfUp f (f.round q)) with hsign | hsign
  · have hle : ((k : ℤ) + 1) * f.one ≤ halfUp f (f.round q) * f.one :=
      mul_le_mul_of_nonneg_right (by omega) hone.le
    rw [add_mul, one_mul] at hle
    omega
  · have hle : halfUp f (f.round q) * f.one ≤ (-(k : ℤ) - 1) * f.one :=
      mul_le_mul_of_nonneg_right (by omega) hone.le
    rw [sub_mul, one_mul, neg_mul] at hle
    omega

/-! ### Whole factors -/

variable {x t : Number f} {a n : ℤ} {factor : ℕ}

/-- Multiplying by a whole number. -/
theorem HasSteps.mul_whole (hx : x.HasSteps a) (ht : t.HasSteps (factor * f.one : ℕ))
    (h : (f.round (a * factor)).natAbs < f.limit) : (x * t).HasSteps (f.round (a * factor)) := by
  have hone := f.cast_one_pos.ne'
  have hproduct : (a : ℚ) * ((factor * f.one : ℕ) : ℤ) / f.one = a * factor := by
    push_cast
    field_simp
  have hmul := hx.mul ht
  rw [hproduct] at hmul
  exact hmul h

/-- Dividing a whole number by another. -/
theorem HasSteps.div_whole (hx : x.HasSteps (n * f.one)) (ht : t.HasSteps (factor * f.one : ℕ))
    (hfactor : 0 < factor) : (x / t).HasSteps (f.round (n * f.one / factor)) := by
  have hone := f.cast_one_pos.ne'
  have hpos : (0 : ℚ) < factor := by exact_mod_cast hfactor
  have hquotient : ((n * f.one : ℤ) : ℚ) * f.one / ((factor * f.one : ℕ) : ℤ) =
      n * f.one / factor := by
    push_cast
    field_simp
  have hne : ((factor * f.one : ℕ) : ℤ) ≠ 0 := by
    exact_mod_cast (Nat.mul_pos hfactor f.one_pos).ne'
  have hdiv := hx.div ht hne
  rw [hquotient] at hdiv
  refine hdiv (Nat.lt_of_le_of_lt ?_ hx.holds.below)
  rw [Format.natAbs_round]
  refine Format.nearest_le_of_le (abs_nonneg _) hx.holds.aligned ?_
  have hcast : (((n * f.one : ℤ).natAbs : ℕ) : ℚ) = |(n : ℚ) * f.one| := by
    rw [← Int.cast_natCast, ← Int.abs_eq_natAbs]
    push_cast
    rfl
  rw [hcast, abs_div, abs_of_pos hpos]
  exact div_le_self (abs_nonneg _) (by exact_mod_cast hfactor)

end Binary.Number

/-! ### The rounding of the calculator -/

/-- Up to ten places the power of ten is exact. -/
theorem hasSteps_tenPower {places : ℕ} (h : places ≤ 10) :
    (tenPower places).HasSteps (10 ^ places * Format.binary64.one : ℕ) := by
  have hall : ∀ d : Fin 11, (tenPower d.val).isFinite = true ∧
      (tenPower d.val).toSteps = (10 ^ d.val * Format.binary64.one : ℕ) := by
    decide +kernel
  obtain ⟨hfinite, hsteps⟩ := hall ⟨places, by omega⟩
  exact ⟨hfinite, hsteps⟩

/-- Up to ten places the wrap to a signed number does nothing. -/
theorem toInt_toInt32_of_le {places : UInt32} (h : places ≤ 10) :
    places.toInt32.toInt = places.toNat := by
  have hle : places.toNat ≤ 10 := UInt32.le_iff_toNat_le.mp h
  refine BitVec.toInt_eq_toNat_of_lt ?_
  show 2 * places.toNat < 2 ^ 32
  omega

variable {places : UInt32} {x : Binary64}

/-- Rounding to up to ten places, as long as scaling does not leave the format. -/
theorem hasSteps_roundToPlaces (hplaces : places ≤ 10) {a : ℤ} (hx : x.HasSteps a)
    (h : (Format.binary64.round (a * (10 ^ places.toNat : ℕ))).natAbs < Format.binary64.limit) :
    (roundToPlaces places x).HasSteps (rounded .binary64 (10 ^ places.toNat) a) := by
  have hfactor := hasSteps_tenPower (UInt32.le_iff_toNat_le.mp hplaces)
  have hscaled := hx.mul_whole hfactor h
  have hresult := (hasSteps_roundHalfUp hscaled).div_whole hfactor (Nat.pow_pos (by decide))
  unfold roundToPlaces
  rw [if_pos hx.isFinite, toInt_toInt32_of_le hplaces, if_pos hresult.isFinite]
  exact hresult

/-- The size of a scaled number in steps. -/
theorem abs_toSteps_mul (x : Binary64) (factor : ℕ) :
    |(x.toSteps : ℚ) * factor| = |x.toRat| * factor * Format.binary64.one := by
  have hone := Format.binary64.cast_one_pos
  have hdiv : |(x.toSteps : ℚ)| = |x.toRat| * Format.binary64.one := by
    rw [toRat, abs_div, abs_of_pos hone, div_mul_cancel₀ _ hone.ne']
  rw [abs_mul, hdiv, Nat.abs_cast, mul_right_comm]

/-- A bound on the size in units of the last place bounds the whole number of them. -/
theorem natAbs_round_mul_of_size {k : ℕ} (hk : k ≤ 2 ^ Format.binary64.precision)
    (hsize : |x.toRat| * 10 ^ places.toNat ≤ k) :
    let p := Format.binary64.round (x.toSteps * (10 ^ places.toNat : ℕ))
    p.natAbs ≤ k * Format.binary64.one ∧ (halfUp .binary64 p).natAbs ≤ k := by
  refine natAbs_halfUp_le (Format.binary64.onGrid_mul_one hk) ?_
  rw [abs_toSteps_mul]
  refine mul_le_mul_of_nonneg_right ?_ (Nat.cast_nonneg _)
  exact_mod_cast hsize

/-- A significand of units is less than one. -/
theorem pow_mul_ten_pow_le {d : ℕ} (h : d ≤ 10) :
    2 ^ (Format.binary64.precision - 1) * 10 ^ d ≤ Format.binary64.one := by
  have hpow : 10 ^ d ≤ 10 ^ 10 := Nat.pow_le_pow_right (by decide) h
  have hten : 2 ^ (Format.binary64.precision - 1) * 10 ^ 10 ≤ Format.binary64.one := by
    decide +kernel
  exact (Nat.mul_le_mul_left _ hpow).trans hten

/-- A finite number stays finite. -/
theorem isFinite_roundToPlaces (places : UInt32) (h : x.isFinite = true) :
    (roundToPlaces places x).isFinite = true := by
  unfold roundToPlaces
  rw [if_pos h]
  dsimp only
  split
  · assumption
  · exact h

/-- A number that is not finite stays as it is. -/
theorem roundToPlaces_of_not_isFinite (h : x.isFinite ≠ true) : roundToPlaces places x = x :=
  if_neg h

/-- Rounding neither makes nor loses a number that is not finite. -/
theorem roundToPlaces_eq_iff {y : Binary64} (hy : y.isFinite ≠ true) :
    roundToPlaces places x = y ↔ x = y := by
  by_cases hx : x.isFinite = true
  · refine iff_of_false ?_ ?_
    · rintro rfl
      exact hy (isFinite_roundToPlaces places hx)
    · rintro rfl
      exact hy hx
  · rw [roundToPlaces_of_not_isFinite hx]

/-- Rounding keeps whether a number is finite. -/
theorem isFinite_roundToPlaces_iff :
    (roundToPlaces places x).isFinite = true ↔ x.isFinite = true := by
  refine ⟨fun h => ?_, isFinite_roundToPlaces places⟩
  by_contra hx
  rw [roundToPlaces_of_not_isFinite hx] at h
  exact hx h

end PocketCalculator
