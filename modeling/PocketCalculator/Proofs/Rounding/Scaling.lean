import Mathlib.Tactic.GCongr
import PocketCalculator.Proofs.Binary.Order
import PocketCalculator.Proofs.Rounding.Places

/-!
# Rounding at any scale

The number of places is any 32-bit word, so the factor by which a number is scaled need not be near
a power of ten: it may be infinite, or zero, or a fraction. All that matters of it here is that it
has no sign (`unsigned_tenPower`). Either scaling and scaling back stay in the format (`Scales`),
and the result is the whole number of units scaled back (`rescaled`); or the number stays as it is
(`roundScaled_cases`).

* **`roundToPlaces_mono`**: rounding keeps the order, for any number of places. At the border
  between the two cases this rests on `Scales.rescaled_le` and `Scales.le_rescaled`: a number that
  stays as it is lies beyond all rounded numbers on its side, because otherwise it would be rounded
  to the same whole number as one of those that are scaled back.
* **`roundToPlaces_floor`**: the whole number that is scaled back is `⌊x + 1/2⌋` of the scaled
  number, exactly, wherever that one is finite.
-/

namespace PocketCalculator

open Binary Number

namespace Binary.Number

variable {f : Format} {q : ℚ} {a b : ℤ}

/-- A finite number is worth its steps over those of one, -/
theorem HasSteps.toRat_eq {x : Number f} (hx : x.HasSteps a) : x.toRat = a / f.one := by
  rw [toRat, hx.toSteps_eq]

/-- and a whole number is worth itself. -/
theorem HasSteps.toRat_mul_one {x : Number f} {n : ℤ} (hx : x.HasSteps (n * f.one)) :
    x.toRat = n := by
  have hone := f.cast_one_pos.ne'
  rw [hx.toRat_eq]
  push_cast
  exact mul_div_cancel_right₀ _ hone

/-- Halves go up: the whole number is the floor of the exact sum with one half. -/
theorem HasSteps.halfUp_eq_floor {x : Number f} (hx : x.HasSteps a) :
    Number.halfUp f a = ⌊x.toRat + 1 / 2⌋ := by
  rw [hx.toRat_eq]
  rfl

/-! ### Scaling and scaling back -/

/-- The whole number of units of `1 / q` that a number of steps is rounded to. -/
def wholeUnits (f : Format) (q : ℚ) (a : ℤ) : ℤ := halfUp f (f.round (a * q))

/-- The number of steps of these units. -/
def rescaled (f : Format) (q : ℚ) (a : ℤ) : ℤ := f.round (wholeUnits f q a * f.one / q)

/-- Scaling by `q` and scaling back stay in the format. -/
structure Scales (f : Format) (q : ℚ) (a : ℤ) : Prop where
  up : (f.round (a * q)).natAbs < f.limit
  back : (rescaled f q a).natAbs < f.limit

/-- Scaling up keeps the order, -/
theorem round_mul_mono (hq : 0 < q) (h : a ≤ b) : f.round (a * q) ≤ f.round (b * q) := by
  have hcast : (a : ℚ) ≤ b := by exact_mod_cast h
  exact Format.round_mono (by gcongr)

/-- and so does scaling back the rounded numbers. -/
theorem rescaled_mono (hq : 0 < q) (h : a ≤ b) : rescaled f q a ≤ rescaled f q b := by
  have hunits : (wholeUnits f q a : ℚ) ≤ wholeUnits f q b := by
    exact_mod_cast halfUp_mono (round_mul_mono hq h)
  exact Format.round_mono (by gcongr)

section

variable (hbias : f.precision ≤ f.bias + 1)
include hbias

/-- The whole number of units is one of the format. -/
theorem Scales.holds (h : Scales f q a) : f.Holds (wholeUnits f q a * f.one).natAbs := by
  refine holds_halfUp hbias ⟨?_, h.up⟩
  rw [Format.natAbs_round]
  exact Format.onGrid_nearest _

/-- What is scaled to between a number and the whole number that it is rounded to is rounded to the
same one. -/
theorem Scales.of_between (ha : Scales f q a)
    (h : f.round (a * q) ≤ f.round (b * q) ∧ f.round (b * q) ≤ wholeUnits f q a * f.one ∨
      wholeUnits f q a * f.one ≤ f.round (b * q) ∧ f.round (b * q) ≤ f.round (a * q)) :
    Scales f q b := by
  have hup := ha.up
  have hbelow := (ha.holds hbias).below
  have hself : halfUp f (wholeUnits f q a * f.one) = wholeUnits f q a := halfUp_mul_one _
  have hsame : wholeUnits f q b = wholeUnits f q a := by
    rcases h with ⟨hlow, hhigh⟩ | ⟨hlow, hhigh⟩
    · exact le_antisymm ((halfUp_mono hhigh).trans_eq hself) (halfUp_mono hlow)
    · exact le_antisymm (halfUp_mono hhigh) (hself.symm.trans_le (halfUp_mono hlow))
  refine ⟨by omega, ?_⟩
  rw [rescaled, hsame]
  exact ha.back

/-- A number that cannot be scaled is not below the rounded numbers of those below it. -/
theorem Scales.rescaled_le (hq : 0 < q) (ha : Scales f q a) (hb : ¬ Scales f q b)
    (hgrid : f.OnGrid b.natAbs) (h : a ≤ b) : rescaled f q a ≤ b := by
  have hunits : (wholeUnits f q a : ℚ) * f.one ≤ b * q := by
    refine le_of_not_gt fun hlt => hb (ha.of_between hbias (.inl ⟨round_mul_mono hq h, ?_⟩))
    rw [← Format.round_intCast (ha.holds hbias).aligned]
    refine Format.round_mono ?_
    push_cast
    exact hlt.le
  calc rescaled f q a ≤ f.round b := Format.round_mono ((div_le_iff₀ hq).mpr hunits)
    _ = b := Format.round_intCast hgrid

/-- It is not above the rounded numbers of those above it either. -/
theorem Scales.le_rescaled (hq : 0 < q) (hb : Scales f q b) (ha : ¬ Scales f q a)
    (hgrid : f.OnGrid a.natAbs) (h : a ≤ b) : a ≤ rescaled f q b := by
  have hunits : a * q ≤ (wholeUnits f q b : ℚ) * f.one := by
    refine le_of_not_gt fun hlt => ha (hb.of_between hbias (.inr ⟨?_, round_mul_mono hq h⟩))
    rw [← Format.round_intCast (hb.holds hbias).aligned]
    refine Format.round_mono ?_
    push_cast
    exact hlt.le
  calc a = f.round a := (Format.round_intCast hgrid).symm
    _ ≤ rescaled f q b := Format.round_mono ((le_div_iff₀ hq).mpr hunits)

end

end Binary.Number

/-! ### The rounding of the calculator -/

/-- Rounding by a factor: scaled, rounded to a whole number and scaled back, unless that leaves the
format. -/
def roundScaled (factor x : Binary64) : Binary64 :=
  let rounded := roundHalfUp (x * factor) / factor
  if rounded.isFinite then rounded else x

variable {places : UInt32} {factor x y : Binary64} {a b : ℤ}

/-- A finite number is rounded by the power of ten of its places. -/
theorem roundToPlaces_of_isFinite (h : x.isFinite = true) :
    roundToPlaces places x = roundScaled (tenPower places.toInt32.toInt) x := if_pos h

/-- What is scaled back to a finite number is the result, -/
theorem roundScaled_of_isFinite (h : (roundHalfUp (x * factor) / factor).isFinite = true) :
    roundScaled factor x = roundHalfUp (x * factor) / factor := if_pos h

/-- and otherwise the number stays as it is. -/
theorem roundScaled_of_not_isFinite (h : (roundHalfUp (x * factor) / factor).isFinite ≠ true) :
    roundScaled factor x = x := if_neg h

/-- With a finite factor other than zero, scaling stays in the format, or the number stays. -/
theorem roundScaled_cases (hx : x.HasSteps a) (hfactor : factor.HasSteps b) (hb : b ≠ 0) :
    Scales .binary64 factor.toRat a ∧
        (roundScaled factor x).HasSteps (rescaled .binary64 factor.toRat a) ∨
      ¬ Scales .binary64 factor.toRat a ∧ roundScaled factor x = x := by
  have hup : (a : ℚ) * b / Format.binary64.one = a * factor.toRat := by
    rw [hfactor.toRat_eq, mul_div_assoc]
  by_cases hproduct : (Format.binary64.round (a * factor.toRat)).natAbs < Format.binary64.limit
  · have hscaled := hx.mul hfactor (hup ▸ hproduct)
    rw [hup] at hscaled
    have hwhole : (roundHalfUp (x * factor)).HasSteps
        (wholeUnits .binary64 factor.toRat a * Format.binary64.one) := hasSteps_roundHalfUp hscaled
    have hback : ((wholeUnits .binary64 factor.toRat a * Format.binary64.one : ℤ) : ℚ) *
        Format.binary64.one / b =
        wholeUnits .binary64 factor.toRat a * Format.binary64.one / factor.toRat := by
      rw [hfactor.toRat_eq, div_div_eq_mul_div, Int.cast_mul, Int.cast_natCast]
    by_cases hquotient : (rescaled .binary64 factor.toRat a).natAbs < Format.binary64.limit
    · have hresult := hwhole.div hfactor hb (hback ▸ hquotient)
      rw [hback] at hresult
      rw [roundScaled_of_isFinite hresult.isFinite]
      exact .inl ⟨⟨hproduct, hquotient⟩, hresult⟩
    · obtain ⟨s, hinfinite⟩ :=
        hwhole.div_eq_infinity hfactor hb (hback ▸ Nat.le_of_not_lt hquotient)
      refine .inr ⟨fun h => hquotient h.back, roundScaled_of_not_isFinite ?_⟩
      rw [hinfinite]
      exact Bool.false_ne_true
  · obtain ⟨s, hinfinite⟩ := hx.mul_eq_infinity hfactor (hup ▸ Nat.le_of_not_lt hproduct)
    obtain ⟨t, m, hm, rfl, -⟩ := hfactor.exists_finite
    refine .inr ⟨fun h => hproduct h.up, roundScaled_of_not_isFinite ?_⟩
    rw [hinfinite, roundHalfUp_infinity]
    exact Bool.false_ne_true

/-- With an infinite factor, or one that is not a number, the number stays as it is. -/
theorem roundScaled_of_factor_not_isFinite (hx : x.HasSteps a) (hfactor : factor.isFinite ≠ true) :
    roundScaled factor x = x := by
  obtain ⟨s, m, hm, rfl, -⟩ := hx.exists_finite
  refine roundScaled_of_not_isFinite ?_
  cases factor with
  | nan => exact Bool.false_ne_true
  | infinity t =>
      show (roundHalfUp (if m = 0 then .nan else .infinity (s ^^ t)) / .infinity t).isFinite ≠ true
      split
      · exact Bool.false_ne_true
      · rw [roundHalfUp_infinity]
        exact Bool.false_ne_true
  | finite t n hn => exact absurd rfl hfactor

/-- With the factor zero as well: it would be scaled back to zero over zero. -/
theorem roundScaled_of_factor_zero (hx : x.HasSteps a) (hfactor : factor.HasSteps 0) :
    roundScaled factor x = x := by
  have hround : Format.binary64.round ((a : ℚ) * (0 : ℤ) / Format.binary64.one) = 0 := by
    rw [Int.cast_zero, mul_zero, zero_div]
    exact Format.round_intCast (Nat.dvd_zero _)
  have hscaled := hx.mul hfactor (by rw [hround]; exact Nat.two_pow_pos _)
  rw [hround, ← zero_mul (Format.binary64.one : ℤ)] at hscaled
  have hwhole := hasSteps_roundHalfUp hscaled
  rw [halfUp_mul_one, zero_mul] at hwhole
  obtain ⟨s, m, hm, hnum, hzero⟩ := hwhole.exists_finite
  obtain ⟨t, n, hn, hden, hzero'⟩ := hfactor.exists_finite
  obtain rfl := signed_eq_zero_iff.mp hzero
  obtain rfl := signed_eq_zero_iff.mp hzero'
  refine roundScaled_of_not_isFinite ?_
  rw [hnum, hden]
  exact Bool.false_ne_true

/-- The power of ten that a number is scaled by has no sign, whether or not it is finite. -/
theorem unsigned_tenPower (exponent : ℤ) : (tenPower exponent).Unsigned := by
  have hpow : (Number.pow 10 exponent.natAbs : Binary64).Unsigned := (unsigned_ofNat 10).pow _
  unfold tenPower
  split
  · exact (unsigned_ofNat 1).div hpow
  · exact hpow

/-- Rounding by a factor without a sign keeps the order of finite numbers. -/
theorem roundScaled_mono (hfactor : factor.Unsigned) (hx : x.HasSteps a) (hy : y.HasSteps b)
    (h : a ≤ b) : roundScaled factor x ≤ roundScaled factor y := by
  have hxy : x ≤ y := (hx.le_iff hy).mpr h
  by_cases hfinite : factor.isFinite = true
  case neg =>
    rw [roundScaled_of_factor_not_isFinite hx hfinite,
      roundScaled_of_factor_not_isFinite hy hfinite]
    exact hxy
  have hsteps := HasSteps.of_isFinite hfinite
  rcases (hfactor.nonneg hsteps).eq_or_lt with hzero | hpos
  · rw [← hzero] at hsteps
    rw [roundScaled_of_factor_zero hx hsteps, roundScaled_of_factor_zero hy hsteps]
    exact hxy
  have hq : 0 < factor.toRat := by
    rw [hsteps.toRat_eq]
    exact div_pos (by exact_mod_cast hpos) Format.binary64.cast_one_pos
  rcases roundScaled_cases hx hsteps hpos.ne' with ⟨hscales, hresult⟩ | ⟨hstays, hresult⟩
  · rcases roundScaled_cases hy hsteps hpos.ne' with ⟨-, hresult'⟩ | ⟨hstays', hresult'⟩
    · exact (hresult.le_iff hresult').mpr (rescaled_mono hq h)
    · rw [hresult']
      exact (hresult.le_iff hy).mpr
        (hscales.rescaled_le (by decide) hq hstays' hy.holds.aligned h)
  · rw [hresult]
    rcases roundScaled_cases hy hsteps hpos.ne' with ⟨hscales', hresult'⟩ | ⟨-, hresult'⟩
    · exact (hx.le_iff hresult').mpr
        (hscales'.le_rescaled (by decide) hq hstays hx.holds.aligned h)
    · rw [hresult']
      exact hxy

/-- An infinity stays as it is. -/
theorem roundToPlaces_infinity (s : Bool) : roundToPlaces places (.infinity s) = .infinity s :=
  roundToPlaces_of_not_isFinite Bool.false_ne_true

/-- Rounding neither makes nor loses a NaN. -/
theorem roundToPlaces_ne_nan_iff : roundToPlaces places x ≠ .nan ↔ x ≠ .nan :=
  not_congr (roundToPlaces_eq_iff Bool.false_ne_true)

/-- **Rounding keeps the order** of the numbers that are not NaN, for any number of places. -/
theorem roundToPlaces_mono (places : UInt32) (h : x ≤ y) :
    roundToPlaces places x ≤ roundToPlaces places y := by
  rcases le_cases h with ⟨hx, hy⟩ | ⟨rfl, hy⟩ | ⟨hx, rfl⟩
  · have hx' := HasSteps.of_isFinite hx
    have hy' := HasSteps.of_isFinite hy
    rw [roundToPlaces_of_isFinite hx, roundToPlaces_of_isFinite hy]
    exact roundScaled_mono (unsigned_tenPower _) hx' hy' ((hx'.le_iff hy').mp h)
  · rw [roundToPlaces_infinity, negative_infinity_le_iff]
    exact roundToPlaces_ne_nan_iff.mpr hy
  · rw [roundToPlaces_infinity, le_infinity_iff]
    exact roundToPlaces_ne_nan_iff.mpr hx

/-- These places are read as `-308`. One number is rounded to a unit of `10 ^ 308`, and the greatest
one stays as it is, since two such units are beyond the format. -/
theorem roundToPlaces_mono_seam :
    let x : Binary64 := .ofNat (14 * 10 ^ 307)
    let y : Binary64 := .ofNat (2 ^ 1024 - 2 ^ 971)
    x ≤ y ∧ roundToPlaces 4294966988 x ≤ roundToPlaces 4294966988 y ∧
      (roundToPlaces 4294966988 x == x) = false ∧ (roundToPlaces 4294966988 y == y) = true := by
  intro x y
  have hle : x ≤ y := by decide +kernel
  exact ⟨hle, roundToPlaces_mono 4294966988 hle, by decide +kernel, by decide +kernel⟩

/-! ### The whole number of units -/

/-- A finite number is rounded to the floor of its exact sum with one half. -/
theorem toRat_roundHalfUp (hx : x.isFinite = true) :
    (roundHalfUp x).isFinite = true ∧ (roundHalfUp x).toRat = ⌊x.toRat + 1 / 2⌋ := by
  have hsteps := HasSteps.of_isFinite hx
  have hwhole := hasSteps_roundHalfUp hsteps
  exact ⟨hwhole.isFinite, by rw [hwhole.toRat_mul_one, hsteps.halfUp_eq_floor]⟩

/-- To no places a number is rounded as it stands. -/
theorem hasSteps_roundToPlaces_zero (hx : x.HasSteps a) :
    (roundToPlaces 0 x).HasSteps (halfUp .binary64 a * Format.binary64.one) := by
  have hfactor : ((10 ^ (0 : UInt32).toNat : ℕ) : ℚ) = 1 := by simp
  have hself : Format.binary64.round (a * (10 ^ (0 : UInt32).toNat : ℕ)) = a := by
    rw [hfactor, mul_one]
    exact Format.round_intCast hx.holds.aligned
  have hresult := hasSteps_roundToPlaces (by decide : (0 : UInt32) ≤ 10) hx
    (by rw [hself]; exact hx.holds.below)
  have hwhole : rounded .binary64 (10 ^ (0 : UInt32).toNat) a =
      halfUp .binary64 a * Format.binary64.one := by
    rw [rounded, hself, hfactor, div_one]
    exact_mod_cast Format.round_intCast (holds_halfUp (by decide) hx.holds).aligned
  rwa [hwhole] at hresult

/-- **Halves go up, exactly**: the whole number of units is the floor of the scaled number and one
half, without rounding their sum. To no places that is the floor of the number and one half. -/
theorem roundToPlaces_floor (places : UInt32) (hx : x.isFinite = true) :
    let factor := tenPower places.toInt32.toInt
    let scaled := x * factor
    let whole := roundHalfUp scaled
    roundToPlaces places x = (if (whole / factor).isFinite then whole / factor else x) ∧
      (scaled.isFinite = true →
        whole.isFinite = true ∧ whole.toRat = ⌊scaled.toRat + 1 / 2⌋) ∧
      (roundToPlaces 0 x).isFinite = true ∧ (roundToPlaces 0 x).toRat = ⌊x.toRat + 1 / 2⌋ := by
  have hsteps := HasSteps.of_isFinite hx
  have hzero := hasSteps_roundToPlaces_zero hsteps
  refine ⟨roundToPlaces_of_isFinite hx, toRat_roundHalfUp, hzero.isFinite, ?_⟩
  rw [hzero.toRat_mul_one, hsteps.halfUp_eq_floor]

/-- Two tenths and a half below zero go up, and the greatest number below one half goes down,
although its rounded sum with one half is one. -/
theorem roundToPlaces_floor_halves :
    let x : Binary64 := ofRatio true 1 4
    let y : Binary64 := ofRatio false (2 ^ 53 - 1) (2 ^ 54)
    x.isFinite = true ∧ (x * tenPower 1).isFinite = true ∧
      (roundHalfUp (x * tenPower 1)).toRat = -2 ∧
      y.isFinite = true ∧ (y + half == 1) = true ∧ (roundToPlaces 0 y).toRat = 0 := by
  intro x y
  have hx : x.isFinite = true := by decide +kernel
  have hy : y.isFinite = true := by decide +kernel
  have hscaled : (x * tenPower 1).isFinite = true := by decide +kernel
  have hfloor : ⌊(x * tenPower 1).toRat + 1 / 2⌋ = -2 := by
    have hvalue : (x * tenPower 1).toRat = -(5 / 2) := by decide +kernel
    rw [hvalue]
    norm_num
  have hfloor' : ⌊y.toRat + 1 / 2⌋ = 0 := by
    have hvalue : y.toRat = (2 ^ 53 - 1) / 2 ^ 54 := by decide +kernel
    rw [hvalue]
    norm_num
  have hwhole : (roundHalfUp (x * tenPower 1)).toRat = ⌊(x * tenPower 1).toRat + 1 / 2⌋ :=
    ((roundToPlaces_floor 1 hx).2.1 hscaled).2
  have hzero := (roundToPlaces_floor 0 hy).2.2.2
  rw [hfloor] at hwhole
  rw [hfloor'] at hzero
  exact ⟨hx, hscaled, by simpa using hwhole, hy, by decide +kernel, by simpa using hzero⟩

end PocketCalculator
