import PocketCalculator.Proofs.Binary.Correct
import PocketCalculator.Proofs.Decimal.Literal

/-!
# The values of literals

The exact magnitude that a literal writes is a rational number, its whole part plus its fraction
(`Numeral.toRat`), and the value of the literal is that number correctly rounded
(`Literal.isRounded_value`). `Token.Literally` says from this what a text of a literal is as a
token: a number with its rounded value if it has the shape of a numeral, and a malformed literal
otherwise.

* **`literally_ofLiteral`**: the tokens of literals are made so, and a text of a literal is no other
  token (`Literally.eq_ofLiteral`).
-/

namespace PocketCalculator

open Binary

/-! ### Digits -/

/-- The digits are read as in the library. -/
theorem digitsValue_eq_ofDigitChars (digits : List Char) :
    digitsValue digits = Nat.ofDigitChars 10 digits 0 := rfl

/-- Digits in front are worth a power of ten more for each digit behind them. -/
theorem digitsValue_append (a b : List Char) :
    digitsValue (a ++ b) = digitsValue a * 10 ^ b.length + digitsValue b := by
  rw [digitsValue_eq_ofDigitChars, Nat.ofDigitChars_append,
    Nat.ofDigitChars_eq_ofDigitChars_zero (l := b), Nat.mul_comm]
  rfl

/-! ### Exact values -/

namespace Decimal

/-- The exact value of a decimal. -/
def toRat (d : Decimal) : ℚ := d.digits * 10 ^ d.exponent

/-- A decimal as a quotient of whole numbers. -/
theorem toRat_eq_div (d : Decimal) :
    d.toRat = (d.digits * 10 ^ d.exponent.toNat : ℕ) / (10 ^ (-d.exponent).toNat : ℕ) := by
  rcases Int.le_total 0 d.exponent with h | h
  · rw [toRat, Int.toNat_eq_zero.mpr (Int.neg_nonpos_of_nonneg h)]
    conv_lhs => rw [← Int.toNat_of_nonneg h, zpow_natCast]
    push_cast
    ring
  · rw [toRat, Int.toNat_eq_zero.mpr h]
    conv_lhs => rw [← Int.neg_neg d.exponent, ← Int.toNat_of_nonneg (Int.neg_nonneg_of_nonpos h),
      zpow_neg, zpow_natCast]
    push_cast
    ring

/-- A decimal is rounded correctly. -/
theorem isRounded_toNumber {f : Format} (negative : Bool) (d : Decimal) :
    Number.IsRounded negative d.toRat (d.toNumber negative : Number f) := by
  rw [toRat_eq_div]
  exact Number.isRounded_ofRatio negative _ (Nat.pow_pos (by decide))

end Decimal

namespace Numeral

/-- The exact magnitude that a numeral writes: its whole part and its fraction. -/
def toRat (n : Numeral) : ℚ :=
  digitsValue n.whole + digitsValue n.fraction / 10 ^ n.fraction.length

/-- The decimal of a numeral is worth what the numeral writes, -/
theorem toRat_magnitude (n : Numeral) : n.magnitude.toRat = n.toRat := by
  rw [Decimal.toRat, magnitude, toRat, digitsValue_append, zpow_neg, zpow_natCast]
  push_cast
  field_simp

/-- which is the magnitude without the sign. -/
theorem toRat_nonneg (n : Numeral) : 0 ≤ n.toRat := by
  unfold toRat
  positivity

/-- The value of a numeral is what it writes, correctly rounded. -/
theorem isRounded_value (n : Numeral) : Number.IsRounded n.negative n.toRat n.value := by
  rw [← toRat_magnitude, value]
  exact Decimal.isRounded_toNumber n.negative n.magnitude

end Numeral

/-- What a text of a literal is as a token. -/
inductive Token.Literally : List Char → Token → Prop where
  /-- A text with the shape of a numeral is a number, with its value correctly rounded. -/
  | number (l : Literal) {value : Binary64} (rounded : Number.IsRounded l.negative l.toRat value) :
      Literally l.chars (.number (String.ofList l.chars) value)
  /-- Any other text is malformed. -/
  | malformed {text : List Char} (shapeless : ∀ l : Literal, l.chars ≠ text) :
      Literally text (.malformed (String.ofList text))

/-- The tokens of literals are made so. -/
theorem Token.literally_ofLiteral (text : List Char) :
    Token.Literally text (Token.ofLiteral text) := by
  unfold Token.ofLiteral
  cases hread : Numeral.read? text with
  | some n =>
      obtain ⟨l, rfl, rfl⟩ := Literal.exists_of_read? hread
      exact .number l l.isRounded_value
  | none =>
      refine .malformed fun l hl => ?_
      rw [← hl, l.read?_chars] at hread
      cases hread

/-- No other token is what a text is as a literal. -/
theorem Token.Literally.eq_ofLiteral {text : List Char} {token : Token}
    (h : Token.Literally text token) : token = Token.ofLiteral text := by
  cases h with
  | number l rounded =>
      have hvalue := rounded.unique l.toRat_nonneg l.isRounded_value
      rw [hvalue, l.ofLiteral_chars, Literal.operand, Operand.token]
  | malformed shapeless =>
      unfold Token.ofLiteral
      cases hread : Numeral.read? text with
      | some n =>
          obtain ⟨l, -, hl⟩ := Literal.exists_of_read? hread
          exact absurd hl (shapeless l)
      | none => rfl

end PocketCalculator
