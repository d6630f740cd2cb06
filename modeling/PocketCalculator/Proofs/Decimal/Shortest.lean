import PocketCalculator.Decimal.Shortest
import PocketCalculator.Proofs.Decimal.Value

/-!
# Shortest decimals read back

A decimal reads back as a magnitude if its exact value rounds to it (`readsAs_iff`). The exact
expansion does, and the search returns nothing else (`readsAs_shortest`), so the number read from
the decimal of a magnitude is that magnitude again (`toNumber_shortest`).
-/

namespace PocketCalculator

open Binary

namespace Decimal

variable {f : Format}

/-- The quotient of steps that a decimal is read as. -/
theorem toGrid_eq_nearest_toRat (f : Format) (d : Decimal) :
    f.toGrid (d.digits * 10 ^ d.exponent.toNat * f.one) (10 ^ (-d.exponent).toNat) =
      f.nearest (d.toRat * f.one) := by
  rw [f.toGrid_eq_nearest _ (Nat.pow_pos (by decide)), toRat_eq_div]
  congr 1
  push_cast
  ring

/-- A decimal reads back as the magnitude that its exact value rounds to. -/
theorem readsAs_iff {m : ℕ} {d : Decimal} :
    d.readsAs f m = true ↔ f.nearest (d.toRat * f.one) = m := by
  rw [readsAs, beq_iff_eq, toGrid_eq_nearest_toRat]

/-- The number read from a decimal depends on its exact value alone. -/
theorem toNumber_congr {d e : Decimal} (h : d.toRat = e.toRat) (negative : Bool) :
    (d.toNumber negative : Number f) = e.toNumber negative := by
  have hgrid : f.toGrid (d.digits * 10 ^ d.exponent.toNat * f.one) (10 ^ (-d.exponent).toNat) =
      f.toGrid (e.digits * 10 ^ e.exponent.toNat * f.one) (10 ^ (-e.exponent).toNat) := by
    rw [toGrid_eq_nearest_toRat, toGrid_eq_nearest_toRat, h]
  simp only [toNumber, Number.ofRatio, Number.ofSteps, hgrid]

/-- A decimal that reads back as a magnitude of the format is read as that number. -/
theorem toNumber_of_readsAs {m : ℕ} (hm : f.Holds m) {d : Decimal} (h : d.readsAs f m = true)
    (negative : Bool) : (d.toNumber negative : Number f) = .finite negative m hm := by
  rw [readsAs, beq_iff_eq] at h
  subst h
  exact dif_pos hm.below

/-! ### The search -/

/-- The exact expansion reads back. -/
theorem readsAs_ofSteps {m : ℕ} (hm : f.OnGrid m) : (ofSteps f m).readsAs f m = true := by
  have hexact : (ofSteps f m).toRat * f.one = m := by
    have hten : (10 : ℚ) ^ f.scale = 5 ^ f.scale * 2 ^ f.scale := by rw [← mul_pow]; norm_num
    rw [toRat, ofSteps, Format.one, zpow_neg, zpow_natCast, hten]
    push_cast
    field_simp
  rw [readsAs_iff, hexact, Format.nearest_natCast hm]

/-- A shortened decimal reads back. -/
theorem readsAs_of_shortened? {m : ℕ} {d e : Decimal} {drop : ℕ}
    (h : shortened? f m d drop = some e) : e.readsAs f m = true := by
  unfold shortened? at h
  dsimp only at h
  split at h
  case h_1 hlow hhigh =>
    obtain rfl := Option.some.inj h
    split
    · exact hlow
    · exact hhigh
  case h_2 hlow hhigh =>
    obtain rfl := Option.some.inj h
    exact hlow
  case h_3 hlow hhigh =>
    obtain rfl := Option.some.inj h
    exact hhigh
  case h_4 => cases h

/-- The shortest decimal reads back. -/
theorem readsAs_shortest {m : ℕ} (hm : f.OnGrid m) : (shortest f m).readsAs f m = true := by
  unfold shortest
  dsimp only
  cases hfound : (List.range (decimalDigits (ofSteps f m).digits).length).findSome? fun i =>
      shortened? f m (ofSteps f m) ((decimalDigits (ofSteps f m).digits).length - 1 - i) with
  | none => exact readsAs_ofSteps hm
  | some d =>
      obtain ⟨i, -, hi⟩ := List.exists_of_findSome?_eq_some hfound
      exact readsAs_of_shortened? hi

/-- The number read from the shortest decimal of a magnitude. -/
theorem toNumber_shortest {m : ℕ} (hm : f.Holds m) (negative : Bool) :
    ((shortest f m).toNumber negative : Number f) = .finite negative m hm :=
  toNumber_of_readsAs hm (readsAs_shortest hm.aligned) negative

/-- The shortest decimal of a magnitude other than zero is not zero. -/
theorem digits_shortest_pos {m : ℕ} (hm : f.OnGrid m) (hpos : 0 < m) :
    0 < (shortest f m).digits := by
  refine Nat.pos_of_ne_zero fun hzero => ?_
  have hread := readsAs_iff.mp (readsAs_shortest hm)
  rw [toRat, hzero, Nat.cast_zero, zero_mul, zero_mul, Format.nearest_zero] at hread
  omega

end Decimal

end PocketCalculator
