import Mathlib.Algebra.Order.Group.Unbundled.Int
import PocketCalculator.Proofs.Binary.Exact

/-!
# The rules of the arithmetic

An operation on finite numbers rounds its exact result once. With the results counted as signed
numbers of steps this is one function for either sign (`Format.round`), which is odd, keeps the
order, and keeps the numbers of the grid.

`x.HasSteps k` says that `x` is finite and that `k` is its signed number of steps. There is one rule
for each operation (`HasSteps.add`, `HasSteps.mul`, `HasSteps.div`): if the rounded result is below
the limit of the format, it is the number of steps of what the operation returns. A sum or product
that is on the grid is therefore exact. Otherwise a product or a quotient is infinite. Two numbers
with the same steps differ at most in the sign of a zero (`HasSteps.eq_of_ne_zero`), and comparison
compares steps (`HasSteps.beq_iff`).
-/

namespace PocketCalculator.Binary

/-! ### Signed rounding -/

namespace Format

/-- A signed number of steps, which need not be whole, rounded to the grid. -/
def round (f : Format) (q : ℚ) : ℤ := if q < 0 then -f.nearest (-q) else f.nearest q

variable {f : Format}

/-- Without a sign it is the rounding of magnitudes, -/
theorem round_of_nonneg {q : ℚ} (hq : 0 ≤ q) : f.round q = f.nearest q := if_neg hq.not_gt

/-- Rounding does not depend on the sign. -/
theorem round_neg (q : ℚ) : f.round (-q) = -f.round q := by
  rcases lt_trichotomy q 0 with hq | rfl | hq
  · rw [round_of_nonneg (by linarith), round, if_pos hq, neg_neg]
  · rw [neg_zero, round_of_nonneg le_rfl, nearest_zero]
    rfl
  · rw [round_of_nonneg hq.le, round, if_pos (by linarith), neg_neg]

/-- and the magnitude is always rounded like that. -/
theorem natAbs_round (q : ℚ) : (f.round q).natAbs = f.nearest |q| := by
  rcases le_total 0 q with hq | hq
  · rw [round_of_nonneg hq, abs_of_nonneg hq, Int.natAbs_natCast]
  · rw [← neg_neg q, round_neg, Int.natAbs_neg, round_of_nonneg (by linarith), abs_neg,
      abs_of_nonneg (by linarith), Int.natAbs_natCast]

/-- Rounding keeps the order. -/
theorem round_mono {q r : ℚ} (h : q ≤ r) : f.round q ≤ f.round r := by
  rcases le_total 0 q with hq | hq
  · rw [round_of_nonneg hq, round_of_nonneg (hq.trans h)]
    exact_mod_cast nearest_mono hq h
  · rcases le_total 0 r with hr | hr
    · have hneg : f.round q ≤ 0 := by
        rw [← neg_neg q, round_neg, round_of_nonneg (by linarith)]
        omega
      have hpos : 0 ≤ f.round r := by
        rw [round_of_nonneg hr]
        omega
      exact hneg.trans hpos
    · have hmono : f.nearest (-r) ≤ f.nearest (-q) := nearest_mono (by linarith) (by linarith)
      rw [← neg_neg q, ← neg_neg r, round_neg (-q), round_neg (-r), round_of_nonneg (by linarith),
        round_of_nonneg (by linarith)]
      omega

/-- Rounding keeps the numbers of the grid. -/
theorem round_intCast {i : ℤ} (hi : f.OnGrid i.natAbs) : f.round i = i := by
  have hnat : f.nearest (i.natAbs : ℚ) = i.natAbs := nearest_natCast hi
  rcases le_total 0 i with h | h
  · have habs : (i.natAbs : ℤ) = i := Int.natAbs_of_nonneg h
    have hcast : (i : ℚ) = i.natAbs := by rw [← Int.cast_natCast, habs]
    rw [hcast, round_of_nonneg (by positivity), hnat, habs]
  · have habs : (i.natAbs : ℤ) = -i := by omega
    have hcast : (i : ℚ) = -i.natAbs := by rw [← Int.cast_natCast, habs]; push_cast; ring
    rw [hcast, round_neg, round_of_nonneg (by positivity), hnat, habs, neg_neg]

/-- The error of rounding, relative to the number rounded. -/
theorem abs_round_sub_le_div {q : ℚ} (hq : 2 ^ (f.precision - 1) ≤ |q|) :
    |(f.round q : ℚ) - q| ≤ |q| / 2 ^ f.precision := by
  rcases le_total 0 q with h | h
  · rw [abs_of_nonneg h] at hq ⊢
    rw [round_of_nonneg h]
    exact_mod_cast abs_nearest_sub_le_div hq
  · rw [abs_of_nonpos h] at hq ⊢
    have herror := abs_nearest_sub_le_div hq
    have hround : f.round q = -f.nearest (-q) := by
      rw [← neg_neg q, round_neg, round_of_nonneg (by linarith), neg_neg]
    rw [hround, abs_sub_comm]
    push_cast
    rwa [sub_neg_eq_add, add_comm, ← sub_neg_eq_add]

end Format

namespace Number

variable {f : Format} {x y : Number f} {a b : ℤ}

/-! ### Signed numbers of steps -/

/-- The number is finite, and `k` is its signed number of steps. -/
structure HasSteps (x : Number f) (k : ℤ) : Prop where
  isFinite : x.isFinite = true
  toSteps_eq : x.toSteps = k

/-- A finite number has the steps of its magnitude with its sign, -/
theorem hasSteps_finite (s : Bool) {m : ℕ} (hm : f.Holds m) :
    (finite s m hm).HasSteps (signed s m) := ⟨rfl, rfl⟩

/-- as every number has that is finite. -/
theorem HasSteps.of_isFinite (h : x.isFinite = true) : x.HasSteps x.toSteps := ⟨h, rfl⟩

/-- The number as a sign and a magnitude. -/
theorem HasSteps.exists_finite (h : x.HasSteps a) :
    ∃ s m, ∃ hm : f.Holds m, x = finite s m hm ∧ signed s m = a := by
  obtain ⟨hfinite, hsteps⟩ := h
  cases x with
  | nan => cases hfinite
  | infinity s => cases hfinite
  | finite s m hm => exact ⟨s, m, hm, rfl, hsteps⟩

/-- A finite number is a sign and a magnitude. -/
theorem exists_finite_of_isFinite (h : x.isFinite = true) :
    ∃ s m, ∃ hm : f.Holds m, x = finite s m hm := by
  obtain ⟨s, m, hm, hx, -⟩ := (HasSteps.of_isFinite h).exists_finite
  exact ⟨s, m, hm, hx⟩

/-- The magnitude is one of the format. -/
theorem HasSteps.holds (h : x.HasSteps a) : f.Holds a.natAbs := by
  obtain ⟨s, m, hm, -, rfl⟩ := h.exists_finite
  rwa [natAbs_signed]

/-- Two numbers with the same steps are equal, unless they are zeros. -/
theorem HasSteps.eq_of_ne_zero (hx : x.HasSteps a) (hy : y.HasSteps a) (ha : a ≠ 0) : x = y := by
  obtain ⟨s, m, hm, rfl, rfl⟩ := hx.exists_finite
  obtain ⟨t, n, hn, rfl, heq⟩ := hy.exists_finite
  refine finite_congr heq.symm fun hzero => ha ?_
  rw [← heq, signed_eq_zero_iff.mpr hzero]

/-- Comparison compares steps. -/
theorem HasSteps.beq_iff (hx : x.HasSteps a) (hy : y.HasSteps b) : (x == y) = true ↔ a = b := by
  obtain ⟨s, m, hm, rfl, rfl⟩ := hx.exists_finite
  obtain ⟨t, n, hn, rfl, rfl⟩ := hy.exists_finite
  have hbeq : (finite s m hm == finite t n hn) = (m == n && (s == t || m == 0)) := rfl
  rw [hbeq]
  cases s <;> cases t <;> simp [signed] <;> omega

/-! ### Signs -/

/-- A magnitude without a sign, -/
@[simp] theorem signed_false (m : ℕ) : signed false m = m := rfl

/-- and with one. -/
@[simp] theorem signed_true (m : ℕ) : signed true m = -(m : ℤ) := rfl

/-- The signed magnitude as a rational number. -/
theorem cast_signed (s : Bool) (m : ℕ) : ((signed s m : ℤ) : ℚ) = if s then -(m : ℚ) else m := by
  cases s <;> simp [signed]

/-- Magnitudes are multiplied, and the signs with them. -/
theorem signed_mul_signed (s t : Bool) (m n : ℕ) :
    signed s m * signed t n = signed (s ^^ t) (m * n) := by
  cases s <;> cases t <;> simp [signed]

/-- The product of two signed magnitudes in steps. -/
theorem cast_signed_mul (f : Format) (s t : Bool) (m n : ℕ) :
    (signed s m : ℚ) * signed t n / f.one =
      if s ^^ t then -((m * n : ℕ) / f.one : ℚ) else (m * n : ℕ) / f.one := by
  rw [← Int.cast_mul, signed_mul_signed, cast_signed]
  split <;> ring

/-- The quotient of two signed magnitudes in steps. -/
theorem cast_signed_div (f : Format) (s t : Bool) (m n : ℕ) :
    (signed s m : ℚ) * f.one / signed t n =
      if s ^^ t then -((m * f.one : ℕ) / n : ℚ) else (m * f.one : ℕ) / n := by
  rw [cast_signed, cast_signed]
  cases s <;> cases t <;> simp [neg_div, div_neg]

/-- A magnitude rounded, and the sign put on it. -/
theorem round_signed (s : Bool) {q : ℚ} (hq : 0 ≤ q) :
    f.round (if s then -q else q) = signed s (f.nearest q) := by
  cases s with
  | false => exact Format.round_of_nonneg hq
  | true => exact (Format.round_neg q).trans (congrArg _ (Format.round_of_nonneg hq))

/-- Every integer is its magnitude with its sign. -/
theorem signed_natAbs (i : ℤ) : signed (i < 0) i.natAbs = i := by
  rcases lt_or_ge i 0 with h | h <;> simp [signed, h, abs_of_neg, abs_of_nonneg]

/-- A quotient of steps with a sign, rounded to less than the limit. -/
theorem hasSteps_ofSteps (s : Bool) (num : ℕ) {den : ℕ} (hden : 0 < den) {q : ℚ}
    (hq : q = if s then -(num / den : ℚ) else num / den) (h : (f.round q).natAbs < f.limit) :
    (ofSteps s num den : Number f).HasSteps (f.round q) := by
  have hround : f.round q = signed s (f.nearest (num / den)) := by
    rw [hq, round_signed s (by positivity)]
  rw [hround] at h ⊢
  rw [natAbs_signed] at h
  have hfinite : (ofSteps s num den : Number f) = finite s _ ⟨Format.onGrid_nearest _, h⟩ :=
    ofSteps_eq_finite s hden _ rfl
  rw [hfinite]
  exact hasSteps_finite s _

/-! ### The operations -/

/-- The other sign has the opposite steps. -/
theorem HasSteps.neg (hx : x.HasSteps a) : (-x).HasSteps (-a) := by
  obtain ⟨s, m, hm, rfl, rfl⟩ := hx.exists_finite
  have hsteps : -signed s m = signed (!s) m := by cases s <;> simp [signed]
  rw [hsteps]
  exact hasSteps_finite (!s) hm

/-- A sum of finite numbers is rounded from the sum of their steps, -/
theorem HasSteps.add (hx : x.HasSteps a) (hy : y.HasSteps b)
    (h : (f.round (a + b)).natAbs < f.limit) : (x + y).HasSteps (f.round (a + b)) := by
  obtain ⟨s, m, hm, rfl, rfl⟩ := hx.exists_finite
  obtain ⟨t, n, hn, rfl, rfl⟩ := hy.exists_finite
  show (if signed s m + signed t n = 0 then ofSteps (s && t) 0 1
    else ofSteps (signed s m + signed t n < 0) (signed s m + signed t n).natAbs 1 :
      Number f).HasSteps _
  rw [← Int.cast_add] at h ⊢
  generalize signed s m + signed t n = sum at h ⊢
  by_cases hzero : sum = 0
  · rw [if_pos hzero]
    exact hasSteps_ofSteps _ 0 Nat.one_pos (by simp [hzero]) h
  · rw [if_neg hzero]
    refine hasSteps_ofSteps _ _ Nat.one_pos ?_ h
    rw [Nat.cast_one, div_one, ← cast_signed, signed_natAbs]

/-- a difference from their difference, -/
theorem HasSteps.sub (hx : x.HasSteps a) (hy : y.HasSteps b)
    (h : (f.round (a - b)).natAbs < f.limit) : (x - y).HasSteps (f.round (a - b)) := by
  have hsub : (a : ℚ) - b = a + (-b : ℤ) := by
    push_cast
    ring
  rw [hsub] at h ⊢
  exact hx.add hy.neg h

/-- a product from their product, over the steps of one, -/
theorem HasSteps.mul (hx : x.HasSteps a) (hy : y.HasSteps b)
    (h : (f.round (a * b / f.one)).natAbs < f.limit) :
    (x * y).HasSteps (f.round (a * b / f.one)) := by
  obtain ⟨s, m, hm, rfl, rfl⟩ := hx.exists_finite
  obtain ⟨t, n, hn, rfl, rfl⟩ := hy.exists_finite
  exact hasSteps_ofSteps (s ^^ t) (m * n) f.one_pos (cast_signed_mul f s t m n) h

/-- and a quotient from their quotient, times the steps of one. -/
theorem HasSteps.div (hx : x.HasSteps a) (hy : y.HasSteps b) (hb : b ≠ 0)
    (h : (f.round (a * f.one / b)).natAbs < f.limit) :
    (x / y).HasSteps (f.round (a * f.one / b)) := by
  obtain ⟨s, m, hm, rfl, rfl⟩ := hx.exists_finite
  obtain ⟨t, n, hn, rfl, rfl⟩ := hy.exists_finite
  have hne : n ≠ 0 := fun hzero => hb (signed_eq_zero_iff.mpr hzero)
  show (if n = 0 then if m = 0 then .nan else .infinity (s ^^ t)
    else ofSteps (s ^^ t) (m * f.one) n : Number f).HasSteps _
  rw [if_neg hne]
  exact hasSteps_ofSteps _ _ (Nat.pos_of_ne_zero hne) (cast_signed_div f s t m n) h

/-! ### Exact results -/

/-- A sum that is on the grid is exact. -/
theorem HasSteps.add_exact (hx : x.HasSteps a) (hy : y.HasSteps b)
    (h : f.Holds (a + b).natAbs) : (x + y).HasSteps (a + b) := by
  have hround : f.round (a + b) = a + b := by
    rw [← Int.cast_add, Format.round_intCast h.aligned]
  rw [← hround]
  exact hx.add hy (by rw [hround]; exact h.below)

/-- A difference that is on the grid is exact. -/
theorem HasSteps.sub_exact (hx : x.HasSteps a) (hy : y.HasSteps b)
    (h : f.Holds (a - b).natAbs) : (x - y).HasSteps (a - b) := by
  have hround : f.round (a - b) = a - b := by
    rw [← Int.cast_sub, Format.round_intCast h.aligned]
  rw [← hround]
  exact hx.sub hy (by rw [hround]; exact h.below)

/-! ### Results beyond the format -/

/-- A quotient of steps with a sign, rounded to the limit or more. -/
theorem ofSteps_eq_infinity (s : Bool) (num : ℕ) {den : ℕ} (hden : 0 < den) {q : ℚ}
    (hq : q = if s then -(num / den : ℚ) else num / den) (h : f.limit ≤ (f.round q).natAbs) :
    (ofSteps s num den : Number f) = .infinity s := by
  rw [hq, round_signed s (by positivity), natAbs_signed, ← f.toGrid_eq_nearest num hden] at h
  rw [ofSteps, dif_neg (Nat.not_lt.mpr h)]

/-- A product that rounds beyond the format is infinite. -/
theorem HasSteps.mul_eq_infinity (hx : x.HasSteps a) (hy : y.HasSteps b)
    (h : f.limit ≤ (f.round (a * b / f.one)).natAbs) : ∃ s, x * y = .infinity s := by
  obtain ⟨s, m, hm, rfl, rfl⟩ := hx.exists_finite
  obtain ⟨t, n, hn, rfl, rfl⟩ := hy.exists_finite
  exact ⟨s ^^ t, ofSteps_eq_infinity _ (m * n) f.one_pos (cast_signed_mul f s t m n) h⟩

/-- A quotient that rounds beyond the format is infinite. -/
theorem HasSteps.div_eq_infinity (hx : x.HasSteps a) (hy : y.HasSteps b) (hb : b ≠ 0)
    (h : f.limit ≤ (f.round (a * f.one / b)).natAbs) : ∃ s, x / y = .infinity s := by
  obtain ⟨s, m, hm, rfl, rfl⟩ := hx.exists_finite
  obtain ⟨t, n, hn, rfl, rfl⟩ := hy.exists_finite
  have hne : n ≠ 0 := fun hzero => hb (signed_eq_zero_iff.mpr hzero)
  have hquotient : finite s m hm / finite t n hn = ofSteps (s ^^ t) (m * f.one) n := if_neg hne
  exact ⟨s ^^ t, hquotient.trans
    (ofSteps_eq_infinity _ _ (Nat.pos_of_ne_zero hne) (cast_signed_div f s t m n) h)⟩

end Number

end PocketCalculator.Binary
