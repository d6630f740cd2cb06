import PocketCalculator.Proofs.Decimal.Leading

/-!
# The shortest decimal and decimal grids

The search for the shortest decimal of a magnitude tries one decimal grid after another, the
coarsest first, and on each of them only the two neighbours of the exact value. That is enough. If
any decimal of a grid reads back as the magnitude, then so does the neighbour on its side
(`isSome_shortened?`), because what reads back is a stretch without gaps (`readsAs_of_between`). So
the search ends at that grid or before (`le_exponent_shortest`), unless the magnitude is smaller
than the spacing of the grid.

* **`exists_units_shortest`**: a double that some decimal with at most ten places reads back as is
  shown with no more places.
-/

namespace PocketCalculator

open Binary

namespace Decimal

variable {f : Format} {m : ℕ} {d e : Decimal}

/-! ### One grid -/

/-- The decimals that read back as a magnitude are a stretch without gaps. -/
theorem readsAs_of_between {x : Decimal} (hd : d.readsAs f m = true) (he : e.readsAs f m = true)
    (hlow : d.toRat ≤ x.toRat) (hhigh : x.toRat ≤ e.toRat) : x.readsAs f m = true := by
  rw [readsAs_iff] at hd he ⊢
  have hone : (0 : ℚ) ≤ f.one := Nat.cast_nonneg _
  apply Nat.le_antisymm
  · rw [← he]
    exact Format.nearest_mono (mul_nonneg x.toRat_nonneg hone)
      (mul_le_mul_of_nonneg_right hhigh hone)
  · rw [← hd]
    exact Format.nearest_mono (mul_nonneg d.toRat_nonneg hone)
      (mul_le_mul_of_nonneg_right hlow hone)

/-- On one grid the digits decide. -/
theorem toRat_le_of_digits_le {n k : ℕ} (h : n ≤ k) (exponent : ℤ) :
    Decimal.toRat ⟨n, exponent⟩ ≤ Decimal.toRat ⟨k, exponent⟩ :=
  mul_le_mul_of_nonneg_right (Nat.cast_le.mpr h) (zpow_nonneg (by norm_num) _)

/-- A decimal is moved to a finer grid by zeros. -/
theorem toRat_mul_pow (n : ℕ) (exponent : ℤ) (k : ℕ) :
    Decimal.toRat ⟨n * 10 ^ k, exponent⟩ = Decimal.toRat ⟨n, exponent + k⟩ := by
  rw [toRat, toRat, zpow_add₀ (by norm_num), zpow_natCast]
  push_cast
  ring

/-- The lower neighbour on a coarser grid, -/
theorem toRat_floor_le (d : Decimal) (drop : ℕ) :
    Decimal.toRat ⟨d.digits / 10 ^ drop, d.exponent + drop⟩ ≤ d.toRat := by
  rw [← toRat_mul_pow]
  exact toRat_le_of_digits_le (Nat.div_mul_le_self _ _) d.exponent

/-- and the upper one. -/
theorem toRat_le_ceil (d : Decimal) (drop : ℕ) :
    d.toRat ≤ Decimal.toRat ⟨d.digits / 10 ^ drop + 1, d.exponent + drop⟩ := by
  rw [← toRat_mul_pow]
  refine toRat_le_of_digits_le ?_ d.exponent
  exact (Nat.lt_mul_of_div_lt (Nat.lt_succ_self _) (Nat.pow_pos (by decide))).le

/-- If a decimal of the grid reads back, then a neighbour of the exact value does. -/
theorem isSome_shortened? {drop : ℕ} (hd : d.readsAs f m = true) (he : e.readsAs f m = true)
    (hgrid : e.exponent = d.exponent + drop) : (shortened? f m d drop).isSome = true := by
  have hneighbour : (Decimal.mk (d.digits / 10 ^ drop) (d.exponent + drop)).readsAs f m = true ∨
      (Decimal.mk (d.digits / 10 ^ drop + 1) (d.exponent + drop)).readsAs f m = true := by
    obtain ⟨n, exponent⟩ := e
    obtain rfl : exponent = d.exponent + drop := hgrid
    by_cases hside : n ≤ d.digits / 10 ^ drop
    · have hle := toRat_le_of_digits_le hside (d.exponent + drop)
      exact Or.inl (readsAs_of_between he hd hle (d.toRat_floor_le drop))
    · refine Or.inr (readsAs_of_between hd he (d.toRat_le_ceil drop) ?_)
      exact toRat_le_of_digits_le (Nat.lt_of_not_le hside) _
  unfold shortened?
  dsimp only
  split
  case h_4 hlow hhigh =>
    rw [hlow, hhigh] at hneighbour
    exact absurd hneighbour (by decide)
  all_goals rfl

/-- A shortened decimal is on the coarser grid. -/
theorem exponent_of_shortened? {drop : ℕ} (h : shortened? f m d drop = some e) :
    e.exponent = d.exponent + drop := by
  unfold shortened? at h
  dsimp only at h
  split at h
  case h_1 =>
    obtain rfl := Option.some.inj h
    split <;> rfl
  case h_4 => cases h
  all_goals
    obtain rfl := Option.some.inj h
    rfl

/-! ### The search -/

/-- A search through the natural numbers finds the first that it can. -/
theorem exists_le_of_findSome?_range {α : Type} {p : ℕ → Option α} {n i : ℕ} (hi : i < n)
    (hsome : (p i).isSome = true) :
    ∃ j ≤ i, ∃ a, p j = some a ∧ (List.range n).findSome? p = some a := by
  have hmem : i ∈ List.range n := List.mem_range.mpr hi
  obtain ⟨a, ha⟩ := Option.isSome_iff_exists.mp (List.findSome?_isSome_iff.mpr ⟨i, hmem, hsome⟩)
  obtain ⟨before, j, after, hrange, hj, hnone⟩ := List.findSome?_eq_some_iff.mp ha
  refine ⟨j, ?_, a, hj, ha⟩
  have hsorted := List.pairwise_lt_range (n := n)
  rw [hrange] at hmem hsorted
  rcases List.mem_append.mp hmem with hbefore | hafter
  · rw [hnone i hbefore] at hsome
    cases hsome
  · rcases List.mem_cons.mp hafter with rfl | hafter
    · exact Nat.le_refl i
    · have hlater := (List.pairwise_cons.mp (List.pairwise_append.mp hsorted).2.1).1
      exact (hlater i hafter).le

/-- The shortest decimal of a magnitude is on every grid that has a decimal for it, if the grid is
not wider than the magnitude. -/
theorem le_exponent_shortest (hm : f.OnGrid m) (he : e.readsAs f m = true)
    (hfine : -(f.scale : ℤ) ≤ e.exponent) (hwide : (10 : ℚ) ^ e.exponent ≤ (ofSteps f m).toRat) :
    e.exponent ≤ (shortest f m).exponent := by
  have hdigits : 0 < (ofSteps f m).digits := by
    refine Nat.pos_of_ne_zero fun hzero => ?_
    have hpos : (0 : ℚ) < 10 ^ e.exponent := zpow_pos (by norm_num) _
    rw [toRat, hzero, Nat.cast_zero, zero_mul] at hwide
    linarith
  have hplace := (pow_le_toRat_iff hdigits e.exponent).mp hwide
  have hexponent : (ofSteps f m).exponent = -(f.scale : ℤ) := rfl
  rw [point, hexponent] at hplace
  unfold shortest
  dsimp only
  generalize (decimalDigits (ofSteps f m).digits).length = size at hplace
  obtain ⟨drop, hdrop⟩ : ∃ drop : ℕ, e.exponent = (ofSteps f m).exponent + drop :=
    ⟨(e.exponent + f.scale).toNat, by omega⟩
  have hindex : size - 1 - (size - 1 - drop) = drop := by omega
  have hsome : (shortened? f m (ofSteps f m) (size - 1 - (size - 1 - drop))).isSome = true := by
    rw [hindex]
    exact isSome_shortened? (readsAs_ofSteps hm) he hdrop
  obtain ⟨i, hi, d, hd, hfound⟩ := exists_le_of_findSome?_range
    (p := fun i => shortened? f m (ofSteps f m) (size - 1 - i)) (n := size) (by omega) hsome
  rw [hfound, Option.getD_some, exponent_of_shortened? hd]
  omega

/-! ### Up to ten places -/

/-- A decimal whose exponent is at least that of the grid. -/
theorem exists_units_of_le_exponent {places : ℕ} (h : -(places : ℤ) ≤ d.exponent) :
    ∃ k : ℕ, d.toRat * 10 ^ places = k := by
  obtain ⟨zeros, hzeros⟩ := Int.le.dest h
  refine ⟨d.digits * 10 ^ zeros, ?_⟩
  have hunit : (10 : ℚ) ^ (-(places : ℤ)) * 10 ^ places = 1 := by
    rw [← zpow_natCast, ← zpow_add₀ (by norm_num), Int.add_left_neg, zpow_zero]
  rw [toRat, ← hzeros, zpow_add₀ (by norm_num), zpow_natCast, mul_assoc, mul_right_comm, hunit]
  push_cast
  ring

/-- The double nearest to one unit of the last place is shown as that unit. -/
theorem exists_units_shortest_one {places : ℕ} (hplaces : places ≤ 10)
    (hread : (Decimal.mk 1 (-places)).readsAs .binary64 m = true) :
    ∃ k : ℕ, (shortest .binary64 m).toRat * 10 ^ places = k := by
  have hall : ∀ p : Fin 11, ∀ d ∈ [shortest .binary64
      (Format.binary64.toGrid (1 * 10 ^ (-p.val : ℤ).toNat * Format.binary64.one)
        (10 ^ (- -p.val : ℤ).toNat))],
      -(p.val : ℤ) ≤ d.exponent ∨ d = ⟨10, -p.val - 1⟩ := by
    decide +kernel
  rw [readsAs, beq_iff_eq] at hread
  subst hread
  rcases hall ⟨places, by omega⟩ _ (List.mem_singleton.mpr rfl) with hfine | hten
  · exact exists_units_of_le_exponent hfine
  · refine ⟨1, ?_⟩
    have hunit : (10 : ℚ) ^ (-(places : ℤ) - 1) * (10 * 10 ^ places) = 1 := by
      have hexponent : -(places : ℤ) - 1 + (places + 1 : ℕ) = 0 := by omega
      rw [← pow_succ', ← zpow_natCast, ← zpow_add₀ (by norm_num), hexponent, zpow_zero]
    rw [hten, toRat]
    push_cast
    linarith

/-- **A double that a decimal of the grid is read as is shown on that grid.** -/
theorem exists_units_shortest {places n : ℕ} (hplaces : places ≤ 10)
    (hm : Format.binary64.OnGrid m) (hpos : 0 < m)
    (hread : (Decimal.mk n (-places)).readsAs .binary64 m = true) :
    ∃ k : ℕ, (shortest .binary64 m).toRat * 10 ^ places = k := by
  by_cases hwide : (10 : ℚ) ^ (-(places : ℤ)) ≤ (ofSteps .binary64 m).toRat
  · refine exists_units_of_le_exponent (le_exponent_shortest hm hread ?_ hwide)
    have hscale : Format.binary64.scale = 1074 := rfl
    show -(Format.binary64.scale : ℤ) ≤ -places
    omega
  · -- The magnitude is less than one unit, and the decimal is not.
    have hn : 0 < n := by
      refine Nat.pos_of_ne_zero ?_
      rintro rfl
      rw [readsAs_iff, toRat, Nat.cast_zero, zero_mul, zero_mul, Format.nearest_zero] at hread
      omega
    have hunit : Decimal.toRat ⟨1, -places⟩ = 10 ^ (-(places : ℤ)) := by
      rw [toRat, Nat.cast_one, one_mul]
    refine exists_units_shortest_one hplaces (readsAs_of_between (readsAs_ofSteps hm) hread ?_ ?_)
    · rw [hunit]
      exact (lt_of_not_ge hwide).le
    · exact toRat_le_of_digits_le hn _

end Decimal

end PocketCalculator
