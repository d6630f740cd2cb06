import PocketCalculator.Proofs.Binary.Correct
import PocketCalculator.Proofs.Binary.Signed

/-!
# Correctly rounded operations

What the four operations give, said by exact arithmetic and not by how they are computed. An
operation on two finite numbers gives the exact result correctly rounded (`Number.IsRounded`); what
it gives on infinities, on NaN and for a zero denominator is listed case by case, as in IEEE-754.
`IsSum x y z` says that the sum of `x` and `y` is `z`, and likewise `IsDifference`, `IsProduct` and
`IsQuotient`.

* **`isSum_iff`**, **`isDifference_iff`**, **`isProduct_iff`**, **`isQuotient_iff`**: the operations
  of the model are these, on all numbers, and there is one result each.
-/

namespace PocketCalculator.Binary

namespace Number

variable {f : Format} {x y z : Number f}

/-- The exact value of a magnitude in steps with its sign. -/
def exact (f : Format) (negative : Bool) (steps : ℕ) : ℚ :=
  (if negative then -(steps : ℚ) else steps) / f.one

/-- An exact value in steps. -/
theorem exact_eq_signed (s : Bool) (m : ℕ) : exact f s m = (signed s m : ℤ) / f.one := by
  rw [exact, cast_signed]

/-! ### Sums -/

/-- The sum of `x` and `y` is `z`. -/
inductive IsSum : Number f → Number f → Number f → Prop where
  | nan_left (y : Number f) : IsSum .nan y .nan
  | nan_right (x : Number f) : IsSum x .nan .nan
  | infinity_left (s t : Bool) {n : ℕ} (hn : f.Holds n) :
      IsSum (.infinity s) (.finite t n hn) (.infinity s)
  | infinity_right (s t : Bool) {m : ℕ} (hm : f.Holds m) :
      IsSum (.finite s m hm) (.infinity t) (.infinity t)
  | infinities (s : Bool) : IsSum (.infinity s) (.infinity s) (.infinity s)
  | opposite_infinities (s : Bool) : IsSum (.infinity s) (.infinity !s) .nan
  /-- A sum of zero is negative only if both terms are negative zeros. -/
  | zero {s t : Bool} {m n : ℕ} (hm : f.Holds m) (hn : f.Holds n) {z : Number f}
      (exactly : exact f s m + exact f t n = 0) (rounded : IsRounded (s && t) 0 z) :
      IsSum (.finite s m hm) (.finite t n hn) z
  | rounded {s t : Bool} {m n : ℕ} (hm : f.Holds m) (hn : f.Holds n) {z : Number f}
      (nonzero : exact f s m + exact f t n ≠ 0)
      (rounded : IsRounded (decide (exact f s m + exact f t n < 0)) |exact f s m + exact f t n| z) :
      IsSum (.finite s m hm) (.finite t n hn) z

/-- The exact sum in steps. -/
theorem exact_add_exact (s t : Bool) (m n : ℕ) :
    exact f s m + exact f t n = (signed s m + signed t n : ℤ) / f.one := by
  rw [exact_eq_signed, exact_eq_signed, ← add_div, Int.cast_add]

/-- An exact sum is zero if the steps cancel out. -/
theorem exact_add_exact_eq_zero_iff {s t : Bool} {m n : ℕ} :
    exact f s m + exact f t n = 0 ↔ signed s m + signed t n = 0 := by
  rw [exact_add_exact, div_eq_zero_iff, or_iff_left f.cast_one_pos.ne', Int.cast_eq_zero]

/-- An exact sum of zero gives a zero. -/
theorem isRounded_add_of_eq_zero {s t : Bool} {m n : ℕ} (hm : f.Holds m) (hn : f.Holds n)
    (h : exact f s m + exact f t n = 0) :
    IsRounded (s && t) 0 (finite s m hm + finite t n hn : Number f) := by
  have hsum : (finite s m hm + finite t n hn : Number f) = ofSteps (s && t) 0 1 :=
    if_pos (exact_add_exact_eq_zero_iff.mp h)
  rw [hsum]
  simpa using isRounded_ofSteps (f := f) (s && t) 0 Nat.one_pos

/-- Any other exact sum is rounded, with its own sign. -/
theorem isRounded_add {s t : Bool} {m n : ℕ} (hm : f.Holds m) (hn : f.Holds n)
    (h : exact f s m + exact f t n ≠ 0) :
    IsRounded (decide (exact f s m + exact f t n < 0)) |exact f s m + exact f t n|
      (finite s m hm + finite t n hn : Number f) := by
  have hsum : (finite s m hm + finite t n hn : Number f) =
      ofSteps (signed s m + signed t n < 0) (signed s m + signed t n).natAbs 1 :=
    if_neg (mt exact_add_exact_eq_zero_iff.mpr h)
  rw [hsum, exact_add_exact]
  generalize signed s m + signed t n = sum
  have hsign : ((sum : ℚ) / f.one < 0) ↔ sum < 0 := by
    rw [div_lt_iff₀ f.cast_one_pos, zero_mul, Int.cast_lt_zero]
  have habs : |(sum : ℚ) / f.one| = (sum.natAbs : ℚ) / (1 : ℕ) / f.one := by
    rw [abs_div, abs_of_pos f.cast_one_pos, Nat.cast_one, div_one, Nat.cast_natAbs, Int.cast_abs]
  rw [decide_eq_decide.mpr hsign, habs]
  exact isRounded_ofSteps _ _ Nat.one_pos

/-- The operation gives a sum. -/
theorem isSum_add (x y : Number f) : IsSum x y (x + y) := by
  cases x with
  | nan => exact .nan_left y
  | infinity s =>
      cases y with
      | nan => exact .nan_right _
      | infinity t =>
          show IsSum (.infinity s) (.infinity t) (if s == t then .infinity s else .nan)
          cases s <;> cases t
          · exact .infinities false
          · exact .opposite_infinities false
          · exact .opposite_infinities true
          · exact .infinities true
      | finite t n hn => exact .infinity_left s t hn
  | finite s m hm =>
      cases y with
      | nan => exact .nan_right _
      | infinity t => exact .infinity_right s t hm
      | finite t n hn =>
          by_cases h : exact f s m + exact f t n = 0
          · exact .zero hm hn h (isRounded_add_of_eq_zero hm hn h)
          · exact .rounded hm hn h (isRounded_add hm hn h)

/-- A sum is what the operation gives. -/
theorem IsSum.eq_add (h : IsSum x y z) : x + y = z := by
  cases h with
  | nan_left => rfl
  | nan_right => cases x <;> rfl
  | infinity_left => rfl
  | infinity_right => rfl
  | infinities s => exact if_pos (beq_self_eq_true s)
  | opposite_infinities s => cases s <;> rfl
  | zero hm hn exactly rounded =>
      exact (isRounded_add_of_eq_zero hm hn exactly).unique le_rfl rounded
  | rounded hm hn nonzero rounded =>
      exact (isRounded_add hm hn nonzero).unique (abs_nonneg _) rounded

/-- **Addition is correctly rounded.** -/
theorem isSum_iff : IsSum x y z ↔ x + y = z :=
  ⟨IsSum.eq_add, fun h => h ▸ isSum_add x y⟩

/-! ### Differences -/

/-- The numbers have the same size and opposite signs. -/
inductive IsOpposite : Number f → Number f → Prop where
  | nan : IsOpposite .nan .nan
  | infinity (s : Bool) : IsOpposite (.infinity s) (.infinity !s)
  | finite (s : Bool) {m : ℕ} (hm : f.Holds m) : IsOpposite (.finite s m hm) (.finite (!s) m hm)

/-- The difference of `x` and `y` is `z`: it is the sum with the opposite number. -/
def IsDifference (x y z : Number f) : Prop := ∃ opposite, y.IsOpposite opposite ∧ IsSum x opposite z

/-- Changing the sign gives the opposite number, -/
theorem isOpposite_neg (x : Number f) : x.IsOpposite (-x) := by
  cases x with
  | nan => exact .nan
  | infinity s => exact .infinity s
  | finite s m hm => exact .finite s hm

/-- and there is no other. -/
theorem IsOpposite.eq_neg (h : x.IsOpposite y) : -x = y := by
  cases h <;> rfl

/-- **Subtraction is correctly rounded.** -/
theorem isDifference_iff : IsDifference x y z ↔ x - y = z := by
  constructor
  · rintro ⟨opposite, hopposite, hsum⟩
    obtain rfl := hopposite.eq_neg
    exact hsum.eq_add
  · rintro rfl
    exact ⟨-y, y.isOpposite_neg, isSum_add x (-y)⟩

/-! ### Products -/

/-- The product of `x` and `y` is `z`. -/
inductive IsProduct : Number f → Number f → Number f → Prop where
  | nan_left (y : Number f) : IsProduct .nan y .nan
  | nan_right (x : Number f) : IsProduct x .nan .nan
  | infinities (s t : Bool) : IsProduct (.infinity s) (.infinity t) (.infinity (s ^^ t))
  | infinity_left (s t : Bool) {n : ℕ} (hn : f.Holds n) (nonzero : n ≠ 0) :
      IsProduct (.infinity s) (.finite t n hn) (.infinity (s ^^ t))
  | infinity_right (s t : Bool) {m : ℕ} (hm : f.Holds m) (nonzero : m ≠ 0) :
      IsProduct (.finite s m hm) (.infinity t) (.infinity (s ^^ t))
  | infinity_zero (s t : Bool) (h : f.Holds 0) : IsProduct (.infinity s) (.finite t 0 h) .nan
  | zero_infinity (s t : Bool) (h : f.Holds 0) : IsProduct (.finite s 0 h) (.infinity t) .nan
  | rounded {s t : Bool} {m n : ℕ} (hm : f.Holds m) (hn : f.Holds n) {z : Number f}
      (rounded : IsRounded (s ^^ t) |exact f s m * exact f t n| z) :
      IsProduct (.finite s m hm) (.finite t n hn) z

/-- The size of an exact value. -/
theorem abs_exact (s : Bool) (m : ℕ) : |exact f s m| = m / f.one := by
  rw [exact, abs_div, abs_of_pos f.cast_one_pos]
  cases s <;> simp

/-- The exact product is rounded, with the sign of the factors. -/
theorem isRounded_mul (s t : Bool) {m n : ℕ} (hm : f.Holds m) (hn : f.Holds n) :
    IsRounded (s ^^ t) |exact f s m * exact f t n|
      (finite s m hm * finite t n hn : Number f) := by
  have hproduct : |exact f s m * exact f t n| = (m * n : ℕ) / f.one / f.one := by
    rw [abs_mul, abs_exact, abs_exact, Nat.cast_mul, div_mul_div_comm, div_div]
  rw [hproduct]
  exact isRounded_ofSteps _ _ f.one_pos

/-- The operation gives a product. -/
theorem isProduct_mul (x y : Number f) : IsProduct x y (x * y) := by
  cases x with
  | nan => exact .nan_left y
  | infinity s =>
      cases y with
      | nan => exact .nan_right _
      | infinity t => exact .infinities s t
      | finite t n hn =>
          show IsProduct _ _ (if n = 0 then .nan else .infinity (s ^^ t))
          split
          case isTrue hzero =>
            subst hzero
            exact .infinity_zero s t hn
          case isFalse hne => exact .infinity_left s t hn hne
  | finite s m hm =>
      cases y with
      | nan => exact .nan_right _
      | infinity t =>
          show IsProduct _ _ (if m = 0 then .nan else .infinity (s ^^ t))
          split
          case isTrue hzero =>
            subst hzero
            exact .zero_infinity s t hm
          case isFalse hne => exact .infinity_right s t hm hne
      | finite t n hn => exact .rounded hm hn (isRounded_mul s t hm hn)

/-- A product is what the operation gives. -/
theorem IsProduct.eq_mul (h : IsProduct x y z) : x * y = z := by
  cases h with
  | nan_left => rfl
  | nan_right => cases x <;> rfl
  | infinities => rfl
  | infinity_left s t hn nonzero => exact if_neg nonzero
  | infinity_right s t hm nonzero => exact if_neg nonzero
  | infinity_zero => rfl
  | zero_infinity => rfl
  | rounded hm hn rounded => exact (isRounded_mul _ _ hm hn).unique (abs_nonneg _) rounded

/-- **Multiplication is correctly rounded.** -/
theorem isProduct_iff : IsProduct x y z ↔ x * y = z :=
  ⟨IsProduct.eq_mul, fun h => h ▸ isProduct_mul x y⟩

/-! ### Quotients -/

/-- The quotient of `x` and `y` is `z`. -/
inductive IsQuotient : Number f → Number f → Number f → Prop where
  | nan_left (y : Number f) : IsQuotient .nan y .nan
  | nan_right (x : Number f) : IsQuotient x .nan .nan
  | infinities (s t : Bool) : IsQuotient (.infinity s) (.infinity t) .nan
  | infinity_left (s t : Bool) {n : ℕ} (hn : f.Holds n) :
      IsQuotient (.infinity s) (.finite t n hn) (.infinity (s ^^ t))
  | infinity_right {s t : Bool} {m : ℕ} (hm : f.Holds m) {z : Number f}
      (rounded : IsRounded (s ^^ t) 0 z) : IsQuotient (.finite s m hm) (.infinity t) z
  | zeros (s t : Bool) (h h' : f.Holds 0) : IsQuotient (.finite s 0 h) (.finite t 0 h') .nan
  | by_zero (s t : Bool) {m : ℕ} (hm : f.Holds m) (h : f.Holds 0) (nonzero : m ≠ 0) :
      IsQuotient (.finite s m hm) (.finite t 0 h) (.infinity (s ^^ t))
  | rounded {s t : Bool} {m n : ℕ} (hm : f.Holds m) (hn : f.Holds n) {z : Number f}
      (nonzero : n ≠ 0) (rounded : IsRounded (s ^^ t) |exact f s m / exact f t n| z) :
      IsQuotient (.finite s m hm) (.finite t n hn) z

/-- A number over an infinity is a zero. -/
theorem isRounded_div_infinity (s t : Bool) {m : ℕ} (hm : f.Holds m) :
    IsRounded (s ^^ t) 0 (finite s m hm / infinity t : Number f) := by
  have hzero := isRounded_ofSteps (f := f) (s ^^ t) 0 Nat.one_pos
  rwa [Nat.cast_zero, zero_div, zero_div] at hzero

/-- The exact quotient is rounded, with the sign of its parts. -/
theorem isRounded_div (s t : Bool) {m n : ℕ} (hm : f.Holds m) (hn : f.Holds n) (hne : n ≠ 0) :
    IsRounded (s ^^ t) |exact f s m / exact f t n|
      (finite s m hm / finite t n hn : Number f) := by
  have hdiv : (finite s m hm / finite t n hn : Number f) = ofSteps (s ^^ t) (m * f.one) n :=
    if_neg hne
  have hquotient : |exact f s m / exact f t n| = (m * f.one : ℕ) / n / f.one := by
    have hone := f.cast_one_pos.ne'
    rw [abs_div, abs_exact, abs_exact, Nat.cast_mul, div_div_div_cancel_right₀ hone, div_right_comm,
      mul_div_cancel_right₀ _ hone]
  rw [hdiv, hquotient]
  exact isRounded_ofSteps _ _ (Nat.pos_of_ne_zero hne)

/-- The operation gives a quotient. -/
theorem isQuotient_div (x y : Number f) : IsQuotient x y (x / y) := by
  cases x with
  | nan => exact .nan_left y
  | infinity s =>
      cases y with
      | nan => exact .nan_right _
      | infinity t => exact .infinities s t
      | finite t n hn => exact .infinity_left s t hn
  | finite s m hm =>
      cases y with
      | nan => exact .nan_right _
      | infinity t => exact .infinity_right hm (isRounded_div_infinity s t hm)
      | finite t n hn =>
          by_cases hn0 : n = 0
          · subst hn0
            show IsQuotient _ _ (if m = 0 then .nan else .infinity (s ^^ t))
            split
            case isTrue hm0 =>
              subst hm0
              exact .zeros s t hm hn
            case isFalse hm0 => exact .by_zero s t hm hn hm0
          · exact .rounded hm hn hn0 (isRounded_div s t hm hn hn0)

/-- A quotient is what the operation gives. -/
theorem IsQuotient.eq_div (h : IsQuotient x y z) : x / y = z := by
  cases h with
  | nan_left => rfl
  | nan_right => cases x <;> rfl
  | infinities => rfl
  | infinity_left => rfl
  | infinity_right hm rounded => exact (isRounded_div_infinity _ _ hm).unique le_rfl rounded
  | zeros => rfl
  | by_zero s t hm h nonzero => exact if_neg nonzero
  | rounded hm hn nonzero rounded =>
      exact (isRounded_div _ _ hm hn nonzero).unique (abs_nonneg _) rounded

/-- **Division is correctly rounded.** -/
theorem isQuotient_iff : IsQuotient x y z ↔ x / y = z :=
  ⟨IsQuotient.eq_div, fun h => h ▸ isQuotient_div x y⟩

end Number

end PocketCalculator.Binary
