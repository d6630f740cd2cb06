import PocketCalculator.Proofs.Rounding.Scaling

/-!
# Units of the last place

What rounding to places gives is the number nearest to a whole number of units of the last place
(`Number.ofUnits`). Up to ten places this holds of every finite number:

* **`exists_hasSteps_ofUnits`**: also where scaling leaves the format and the number stays as it is
  (`roundToPlaces_cases`). A number that large is whole (`one_dvd_of_beyond`).
-/

namespace PocketCalculator

open Binary Number

namespace Binary.Number

variable {f : Format}

/-- The signed number of steps nearest to `n` units of `1 / factor`. -/
def ofUnits (f : Format) (factor : ℕ) (n : ℤ) : ℤ := f.round (n * f.one / factor)

/-- A number is rounded to a whole number of units. -/
theorem rounded_eq_ofUnits (factor : ℕ) (a : ℤ) :
    rounded f factor a = ofUnits f factor (halfUp f (f.round (a * factor))) := rfl

/-- A whole number is as many units as it has to be. -/
theorem ofUnits_mul {a : ℤ} (ha : f.Holds a.natAbs) {factor : ℕ} (hpos : 0 < factor) {k : ℤ}
    (hwhole : a = k * f.one) : ofUnits f factor (k * factor) = a := by
  have hfactor : (factor : ℚ) ≠ 0 := by exact_mod_cast hpos.ne'
  have hquotient : ((k * factor : ℤ) : ℚ) * f.one / factor = a := by
    rw [hwhole]
    push_cast
    field_simp
  rw [ofUnits, hquotient]
  exact Format.round_intCast ha.aligned

/-! ### Products beyond the format -/

variable {a : ℤ}

/-- A magnitude that a small factor takes beyond the format is whole. -/
theorem one_dvd_of_beyond {factor bits : ℕ} (ha : f.OnGrid a.natAbs) (hfactor : factor ≤ 2 ^ bits)
    (hbits : f.precision + bits ≤ f.bias + 1) (h : f.limit ≤ (f.round (a * factor)).natAbs) :
    (f.one : ℤ) ∣ a := by
  rw [← Int.natAbs_dvd_natAbs, Int.natAbs_natCast]
  refine Format.one_dvd_of_le ha (Nat.le_of_not_lt fun hsmall => ?_)
  have hp := f.two_le_precision
  have hgrid : f.OnGrid (1 * 2 ^ (f.precision - 1 + f.scale + bits)) :=
    f.onGrid_mul_pow _ Nat.one_le_two_pow
  rw [Nat.one_mul] at hgrid
  have hproduct : a.natAbs * factor ≤ 2 ^ (f.precision - 1 + f.scale + bits) := by
    calc a.natAbs * factor ≤ 2 ^ (f.precision - 1) * f.one * 2 ^ bits :=
          Nat.mul_le_mul hsmall.le hfactor
      _ = 2 ^ (f.precision - 1 + f.scale + bits) := by
          rw [Format.one, Nat.pow_add, Nat.pow_add]
  have hround : (f.round (a * factor)).natAbs ≤ 2 ^ (f.precision - 1 + f.scale + bits) := by
    rw [Format.natAbs_round]
    refine Format.nearest_le_of_le (abs_nonneg _) hgrid ?_
    have habs : |(a : ℚ) * factor| = (a.natAbs * factor : ℕ) := by
      rw [abs_mul, Nat.abs_cast, Nat.cast_mul, Nat.cast_natAbs, Int.cast_abs]
    rw [habs]
    exact_mod_cast hproduct
  have hbelow : 2 ^ (f.precision - 1 + f.scale + bits) < f.limit :=
    Nat.pow_lt_pow_right (by decide) (by omega)
  omega

end Binary.Number

/-! ### Numbers beyond scaling -/

variable {places : UInt32} {x : Binary64} {a : ℤ}

/-- Where scaling leaves the format the number stays as it is. -/
theorem roundToPlaces_of_beyond (hplaces : places ≤ 10) (hx : x.HasSteps a)
    (h : Format.binary64.limit ≤ (Format.binary64.round (a * (10 ^ places.toNat : ℕ))).natAbs) :
    roundToPlaces places x = x := by
  have hfactor := hasSteps_tenPower (UInt32.le_iff_toNat_le.mp hplaces)
  have hpos : 0 < 10 ^ places.toNat * Format.binary64.one :=
    Nat.mul_pos (Nat.pow_pos (by decide)) Format.binary64.one_pos
  rw [roundToPlaces_of_isFinite hx.isFinite, toInt_toInt32_of_le hplaces]
  rcases roundScaled_cases hx hfactor (by exact_mod_cast hpos.ne') with ⟨hscales, -⟩ | ⟨-, hstays⟩
  · rw [Int.natCast_mul] at hfactor
    have hup := hscales.up
    rw [hfactor.toRat_mul_one, Int.cast_natCast] at hup
    exact absurd h hup.not_ge
  · exact hstays

/-- Rounding gives a whole number of units, or the number was whole and stays as it is. -/
theorem roundToPlaces_cases (hplaces : places ≤ 10) (hx : x.HasSteps a) :
    let n := halfUp .binary64 (Format.binary64.round (a * (10 ^ places.toNat : ℕ)))
    Format.binary64.Holds (n * Format.binary64.one).natAbs ∧
        (roundToPlaces places x).HasSteps (ofUnits .binary64 (10 ^ places.toNat) n) ∨
      roundToPlaces places x = x ∧ (Format.binary64.one : ℤ) ∣ a := by
  intro n
  have hle : places.toNat ≤ 10 := UInt32.le_iff_toNat_le.mp hplaces
  by_cases hlimit : (Format.binary64.round (a * (10 ^ places.toNat : ℕ))).natAbs <
      Format.binary64.limit
  · have hscaled := hx.mul_whole (hasSteps_tenPower hle) hlimit
    exact Or.inl ⟨(hasSteps_roundHalfUp hscaled).holds, hasSteps_roundToPlaces hplaces hx hlimit⟩
  · have hbeyond := Nat.le_of_not_lt hlimit
    have hpow : 10 ^ places.toNat ≤ 2 ^ 34 :=
      (Nat.pow_le_pow_right (by decide) hle).trans (by decide : 10 ^ 10 ≤ 2 ^ 34)
    exact Or.inr ⟨roundToPlaces_of_beyond hplaces hx hbeyond,
      one_dvd_of_beyond hx.holds.aligned hpow (by decide) hbeyond⟩

/-- **A finite number rounded to up to ten places is the number nearest to a whole number of units
of the last place.** -/
theorem exists_hasSteps_ofUnits (hplaces : places ≤ 10) (hx : x.isFinite = true) :
    ∃ n : ℤ, (roundToPlaces places x).HasSteps (ofUnits .binary64 (10 ^ places.toNat) n) := by
  have hsteps := HasSteps.of_isFinite hx
  rcases roundToPlaces_cases hplaces hsteps with ⟨-, hunits⟩ | ⟨hstay, hwhole⟩
  · exact ⟨_, hunits⟩
  · obtain ⟨k, hk⟩ := exists_eq_mul_left_of_dvd hwhole
    refine ⟨k * (10 ^ places.toNat : ℕ), ?_⟩
    rw [hstay, ofUnits_mul hsteps.holds (Nat.pow_pos (by decide)) hk]
    exact hsteps

end PocketCalculator
