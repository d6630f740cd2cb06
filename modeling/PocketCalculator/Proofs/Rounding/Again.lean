import PocketCalculator.Proofs.Binary.Quotient
import PocketCalculator.Proofs.Rounding.Units

/-!
# Rounding again

A rounded number is the nearest to `n` units of the last place. Rounding it again scales it back,
and what comes back is `n` only nearly, because the quotient and the product are both rounded. Three
sizes of `n` have to be told apart, here for double precision:

* up to `2 ^ 51` units the error is at most a quarter, and `n` comes back (`halfUp_round_mul`);
* from `2 ^ 52` units on what comes back is whole, but need not be `n`; divided again it gives the
  same quotient (`rounded_ofUnits_of_large`);
* in between the error can be a half, and a half goes up (`halfUp_round_mul_of_half`).

At the two borders the product is exact (`round_mul_border`). So rounding is a projection except for
numbers of `2 ^ 51` to `2 ^ 52` units, and there a rounded number stays or is one unit too large
when it is rounded again:

* **`roundToPlaces_again`**, and `not_roundToPlaces_again` for a number that moves.
-/

namespace PocketCalculator

open Binary Number

namespace Binary.Number

variable {f : Format} {n : ℤ} {factor : ℕ}

/-- Where the grid has no halves a number of steps is rounded to a whole number. -/
theorem exists_round_eq_mul_one {q : ℚ}
    (hq : ((2 ^ (f.precision - 1) * f.one : ℕ) : ℚ) ≤ |q|) :
    ∃ k : ℤ, f.round q = k * f.one ∧ 2 ^ (f.precision - 1) ≤ k.natAbs := by
  have hp := f.two_le_precision
  have hgrid : f.OnGrid (2 ^ (f.precision - 1) * f.one) :=
    f.onGrid_mul_one (Nat.pow_le_pow_right (by decide) (by omega))
  have hround : 2 ^ (f.precision - 1) * f.one ≤ (f.round q).natAbs := by
    rw [Format.natAbs_round, ← Format.nearest_natCast hgrid]
    exact Format.nearest_mono (Nat.cast_nonneg _) hq
  have haligned : f.OnGrid (f.round q).natAbs := by
    rw [Format.natAbs_round]
    exact Format.onGrid_nearest _
  obtain ⟨k, hk⟩ := exists_eq_mul_left_of_dvd
    (Int.natCast_dvd.mpr (Format.one_dvd_of_le haligned hround))
  rw [hk, Int.natAbs_mul, Int.natAbs_natCast] at hround
  exact ⟨k, hk, Nat.le_of_mul_le_mul_right hround f.one_pos⟩

/-- If the number of units comes back, rounding again changes nothing. -/
theorem rounded_ofUnits (h : halfUp f (f.round (ofUnits f factor n * factor)) = n) :
    rounded f factor (ofUnits f factor n) = ofUnits f factor n := by
  rw [rounded_eq_ofUnits, h]

section

variable (hpos : 0 < factor) (hsmall : 2 ^ (f.precision - 1) * factor ≤ f.one)
include hpos hsmall

/-- With room for halves only, a number of units comes back or is one too large. -/
theorem halfUp_round_mul_of_half (hbias : f.precision ≤ f.bias + 1) (hscale : 1 ≤ f.scale)
    (hn : 2 * n.natAbs + 1 ≤ 2 ^ f.precision) :
    halfUp f (f.round (ofUnits f factor n * factor)) = n ∨
      halfUp f (f.round (ofUnits f factor n * factor)) = n + 1 := by
  obtain ⟨-, hlow, hhigh⟩ := round_mul_of_room hbias Nat.one_pos hscale hpos hsmall hn
  rw [← ofUnits] at hlow hhigh
  have hone := one_eq_pow_mul hscale
  have hone' := f.one_pos
  have hsucc : (n + 1) * (f.one : ℤ) = n * f.one + f.one := by ring
  -- The product lies between two halves, and the one above is rounded up.
  rcases lt_or_ge (2 * f.round (ofUnits f factor n * factor)) (2 * (n * f.one) + f.one) with h | h
  · left
    rw [halfUp_eq_iff]
    omega
  · right
    rw [halfUp_eq_iff]
    omega

/-- Beyond the whole numbers with room for halves a product stays beyond them. -/
theorem le_abs_ofUnits_mul (hlarge : 2 ^ (f.precision - 1) < n.natAbs) :
    ((2 ^ (f.precision - 1) * f.one : ℕ) : ℚ) ≤ |(ofUnits f factor n : ℚ) * factor| := by
  have herror := abs_round_div_mul_sub_le (f := f) n hpos hsmall
  have hcount : (2 : ℚ) ^ (f.precision - 1) ≤ n.natAbs - n.natAbs / 2 ^ f.precision := by
    have hpos' : (1 : ℚ) ≤ 2 ^ (f.precision - 1) := one_le_pow₀ (by norm_num)
    have hlarge' : (2 : ℚ) ^ (f.precision - 1) + 1 ≤ n.natAbs := by exact_mod_cast hlarge
    have hpow : (2 : ℚ) ^ f.precision = 2 * 2 ^ (f.precision - 1) := by
      exact_mod_cast f.two_pow_precision
    rw [hpow]
    generalize (2 : ℚ) ^ (f.precision - 1) = border at hpos' hlarge' ⊢
    have hdiv : (n.natAbs : ℚ) / (2 * border) ≤ n.natAbs - border := by
      rw [div_le_iff₀ (by linarith)]
      nlinarith [mul_nonneg (sub_nonneg.mpr hlarge') (sub_nonneg.mpr hpos')]
    linarith
  have htriangle := abs_sub_abs_le_abs_sub ((n : ℚ) * f.one) (ofUnits f factor n * factor)
  rw [abs_sub_comm, abs_mul_one] at htriangle
  have hmul := mul_le_mul_of_nonneg_right hcount (Nat.cast_nonneg f.one)
  rw [sub_mul] at hmul
  push_cast
  linarith [htriangle.trans herror]

/-- A number of units that has no room for halves comes back whole, with the same quotient. -/
theorem rounded_ofUnits_of_large (hn : f.OnGrid (n * f.one).natAbs)
    (hlarge : 2 ^ (f.precision - 1) < n.natAbs) (hfactor : factor ≤ 2 ^ f.precision) :
    rounded f factor (ofUnits f factor n) = ofUnits f factor n := by
  obtain ⟨k, hk, -⟩ := exists_round_eq_mul_one (le_abs_ofUnits_mul hpos hsmall hlarge)
  have hwhole : halfUp f (f.round (ofUnits f factor n * factor)) = k := by
    rw [hk, halfUp_mul_one]
  have hback : ((k : ℚ) * f.one) = f.round (ofUnits f factor n * factor) := by
    rw [hk]
    push_cast
    rfl
  have hcount : 2 ^ (f.precision - 1) * factor ≤ (n * f.one).natAbs := by
    rw [Int.natAbs_mul, Int.natAbs_natCast]
    exact hsmall.trans (Nat.le_mul_of_pos_left _ (Nat.zero_lt_of_lt hlarge))
  have hunits : ((n * f.one : ℤ) : ℚ) / factor = n * f.one / factor := by
    push_cast
    rfl
  have hagain := Format.round_div_mul_div hn hpos hcount hfactor
  rw [hunits] at hagain
  rw [rounded_eq_ofUnits, hwhole, ofUnits, hback]
  exact hagain

end

/-- The units of the opposite number are the opposite ones. -/
theorem ofUnits_neg (f : Format) (factor : ℕ) (n : ℤ) :
    ofUnits f factor (-n) = -ofUnits f factor n := by
  rw [ofUnits, ofUnits, Int.cast_neg, neg_mul, neg_div, Format.round_neg]

end Binary.Number

/-! ### Double precision -/

variable {n : ℤ}

/-- At the borders between the three sizes the product is exact. -/
theorem round_mul_border {d : ℕ} (hd : d ≤ 10) (hn : n.natAbs = 2 ^ 51 ∨ n.natAbs = 2 ^ 52) :
    Format.binary64.round (ofUnits .binary64 (10 ^ d) n * (10 ^ d : ℕ)) =
      n * Format.binary64.one := by
  have hall : ∀ d : Fin 11, ∀ k : Fin 2,
      Format.binary64.round (ofUnits .binary64 (10 ^ d.val) (2 ^ (51 + k.val)) *
        (10 ^ d.val : ℕ)) = 2 ^ (51 + k.val) * (Format.binary64.one : ℤ) := by
    decide +kernel
  have hborder : Format.binary64.round (ofUnits .binary64 (10 ^ d) n.natAbs * (10 ^ d : ℕ)) =
      n.natAbs * Format.binary64.one := by
    rcases hn with h | h
    · rw [h]
      exact hall ⟨d, by omega⟩ 0
    · rw [h]
      exact hall ⟨d, by omega⟩ 1
  rcases Int.natAbs_eq n with h | h
  · rw [h]
    exact hborder
  · rw [h, ofUnits_neg, Int.cast_neg, neg_mul, Format.round_neg, neg_mul, hborder]

/-- Outside of the sizes in between, rounding again gives the same steps. -/
theorem rounded_ofUnits_eq {d : ℕ} (hd : d ≤ 10)
    (hn : Format.binary64.Holds (n * Format.binary64.one).natAbs)
    (hsize : d = 0 ∨ n.natAbs ≤ 2 ^ 51 ∨ 2 ^ 52 ≤ n.natAbs) :
    rounded .binary64 (10 ^ d) (ofUnits .binary64 (10 ^ d) n) = ofUnits .binary64 (10 ^ d) n := by
  have hpos : 0 < 10 ^ d := Nat.pow_pos (by decide)
  have hsmall := pow_mul_ten_pow_le hd
  have hprecision : 2 ^ Format.binary64.precision = 2 ^ 53 := rfl
  by_cases hborder : n.natAbs = 2 ^ 51 ∨ n.natAbs = 2 ^ 52
  · refine rounded_ofUnits ?_
    rw [round_mul_border hd hborder, halfUp_mul_one]
  by_cases hlarge : 2 ^ 52 < n.natAbs
  · refine rounded_ofUnits_of_large hpos hsmall hn.aligned hlarge ?_
    exact (Nat.pow_le_pow_right (by decide) hd).trans (by decide)
  · refine rounded_ofUnits (halfUp_round_mul (by decide) (by decide) hn ?_).2
    rcases hsize with rfl | hsize
    · exact Or.inl rfl
    · exact Or.inr ⟨hpos, hsmall, by omega⟩

/-- Whatever the size, rounding again gives the same number of units, or one more. -/
theorem exists_rounded_ofUnits {d : ℕ} (hd : d ≤ 10)
    (hn : Format.binary64.Holds (n * Format.binary64.one).natAbs) :
    ∃ m, (m = n ∨ m = n + 1) ∧
      rounded .binary64 (10 ^ d) (ofUnits .binary64 (10 ^ d) n) = ofUnits .binary64 (10 ^ d) m := by
  by_cases hsize : n.natAbs ≤ 2 ^ 51 ∨ 2 ^ 52 ≤ n.natAbs
  · exact ⟨n, Or.inl rfl, rounded_ofUnits_eq hd hn (Or.inr hsize)⟩
  · have hprecision : 2 ^ Format.binary64.precision = 2 ^ 53 := rfl
    refine ⟨_, halfUp_round_mul_of_half (Nat.pow_pos (by decide)) (pow_mul_ten_pow_le hd)
      (by decide) (by decide) (by omega), ?_⟩
    rfl

variable {places : UInt32} {x : Binary64}

/-- A number of at least `2 ^ 52` units is rounded to at least as many. -/
theorem le_natAbs_halfUp_of_size (hsize : 2 ^ 52 ≤ |x.toRat| * 10 ^ places.toNat) :
    2 ^ 52 ≤ (halfUp .binary64
      (Format.binary64.round (x.toSteps * (10 ^ places.toNat : ℕ)))).natAbs := by
  have hscaled : ((2 ^ (Format.binary64.precision - 1) * Format.binary64.one : ℕ) : ℚ) ≤
      |(x.toSteps : ℚ) * (10 ^ places.toNat : ℕ)| := by
    rw [abs_toSteps_mul, Nat.cast_mul]
    refine mul_le_mul_of_nonneg_right ?_ (Nat.cast_nonneg _)
    exact_mod_cast hsize
  obtain ⟨k, hk, hle⟩ := exists_round_eq_mul_one hscaled
  rw [hk, halfUp_mul_one]
  exact hle

/-- Where rounding a result again changes nothing, it changes no number of the same steps either: a
zero may have the other sign. -/
theorem hasSteps_roundToPlaces_again (hplaces : places ≤ 10) {y : Binary64} {a k : ℤ}
    (hx : x.HasSteps a) (honce : (roundToPlaces places x).HasSteps k) (hy : y.HasSteps k)
    (hsize : places = 0 ∨ |x.toRat| * 10 ^ places.toNat ≤ 2 ^ 51 ∨
      2 ^ 52 ≤ |x.toRat| * 10 ^ places.toNat) : (roundToPlaces places y).HasSteps k := by
  have hle : places.toNat ≤ 10 := UInt32.le_iff_toNat_le.mp hplaces
  by_cases hlimit : (Format.binary64.round (a * (10 ^ places.toNat : ℕ))).natAbs <
      Format.binary64.limit
  · have hunits := hasSteps_roundToPlaces hplaces hx hlimit
    rw [rounded_eq_ofUnits] at hunits
    obtain rfl : ofUnits .binary64 (10 ^ places.toNat) _ = k :=
      hunits.toSteps_eq.symm.trans honce.toSteps_eq
    have hholds := (hasSteps_roundHalfUp (hx.mul_whole (hasSteps_tenPower hle) hlimit)).holds
    rcases roundToPlaces_cases hplaces hy with ⟨-, hagain⟩ | ⟨hstay, -⟩
    · rw [← rounded_eq_ofUnits, rounded_ofUnits_eq hle hholds] at hagain
      · exact hagain
      rw [← hx.toSteps_eq]
      rcases hsize with rfl | hsmall | hlarge
      · exact Or.inl rfl
      · have hcast : ((2 ^ 51 : ℕ) : ℚ) = 2 ^ 51 := by norm_num
        exact Or.inr (Or.inl (natAbs_round_mul_of_size (by decide) (hsmall.trans_eq hcast.symm)).2)
      · exact Or.inr (Or.inr (le_natAbs_halfUp_of_size hlarge))
    · rw [hstay]
      exact hy
  · have hbeyond := Nat.le_of_not_lt hlimit
    rw [roundToPlaces_of_beyond hplaces hx hbeyond] at honce
    obtain rfl : a = k := hx.toSteps_eq.symm.trans honce.toSteps_eq
    rw [roundToPlaces_of_beyond hplaces hy hbeyond]
    exact hy

/-- **Rounding again.** Up to `2 ^ 51` units of the last place, from `2 ^ 52` units on, and where no
places are kept, a rounded number is not moved by rounding it again. Otherwise it is the number
nearest to `n` units, and stays or becomes the one nearest to `n + 1` units. -/
theorem roundToPlaces_again (hplaces : places ≤ 10) (hx : x.isFinite = true) :
    let once := roundToPlaces places x
    let twice := roundToPlaces places once
    let size := |x.toRat| * 10 ^ places.toNat
    (places = 0 ∨ size ≤ 2 ^ 51 ∨ 2 ^ 52 ≤ size → (twice == once) = true) ∧
      ∃ n m : ℤ, (m = n ∨ m = n + 1) ∧
        once.HasSteps (ofUnits .binary64 (10 ^ places.toNat) n) ∧
        twice.HasSteps (ofUnits .binary64 (10 ^ places.toNat) m) := by
  intro once twice size
  have hle : places.toNat ≤ 10 := UInt32.le_iff_toNat_le.mp hplaces
  have hsteps := HasSteps.of_isFinite hx
  have honce := HasSteps.of_isFinite (isFinite_roundToPlaces places hx)
  refine ⟨fun hsize => ?_, ?_⟩
  · have htwice := hasSteps_roundToPlaces_again hplaces hsteps honce honce hsize
    exact (htwice.beq_iff honce).mpr rfl
  · rcases roundToPlaces_cases hplaces hsteps with ⟨hholds, hunits⟩ | ⟨hstay, -⟩
    · rcases roundToPlaces_cases hplaces hunits with ⟨-, hagain⟩ | ⟨hstay, -⟩
      · obtain ⟨m, hm, hunits'⟩ := exists_rounded_ofUnits hle hholds
        exact ⟨_, m, hm, hunits, hunits' ▸ hagain⟩
      · have htwice : twice = once := hstay
        exact ⟨_, _, Or.inl rfl, hunits, htwice ▸ hunits⟩
    · have htwice : twice = once := congrArg (roundToPlaces places) hstay
      obtain ⟨n, hunits⟩ := exists_hasSteps_ofUnits hplaces hx
      exact ⟨n, n, Or.inl rfl, hunits, htwice ▸ hunits⟩

/-- A third with two places stays thirty-three hundredths. -/
theorem roundToPlaces_again_third :
    let x : Binary64 := 1 / 3
    (2 : UInt32) ≤ 10 ∧ x.isFinite = true ∧
      (roundToPlaces 2 (roundToPlaces 2 x) == roundToPlaces 2 x) = true ∧
      ∃ n m : ℤ, (m = n ∨ m = n + 1) ∧
        (roundToPlaces 2 x).HasSteps (ofUnits .binary64 (10 ^ 2) n) ∧
        (roundToPlaces 2 (roundToPlaces 2 x)).HasSteps (ofUnits .binary64 (10 ^ 2) m) := by
  intro x
  have hplaces : (2 : UInt32) ≤ 10 := by decide
  have hfinite : x.isFinite = true := by decide +kernel
  have hsize : |x.toRat| * 10 ^ (2 : UInt32).toNat ≤ 2 ^ 51 := by decide +kernel
  obtain ⟨hsame, hunits⟩ := roundToPlaces_again hplaces hfinite
  exact ⟨hplaces, hfinite, hsame (Or.inr (Or.inl hsize)), hunits⟩

/-- With nine places `4194658.9` has more than `2 ^ 51` units, and rounding it again moves it. -/
theorem not_roundToPlaces_again :
    let x : Binary64 := ofRatio false 41946589 10
    x.isFinite = true ∧
      (roundToPlaces 9 (roundToPlaces 9 x) == roundToPlaces 9 x) = false := by
  decide +kernel

end PocketCalculator
