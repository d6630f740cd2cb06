import Mathlib.Computability.RegularExpressions
import PocketCalculator.Proofs.Decimal.Leading
import PocketCalculator.Proofs.Token.Characters

/-!
# The shapes of numbers on the screen

A finite number is shown in one of two shapes, which are regular expressions here: written out in
full (`Shape.plain`), or with an exponent (`Shape.powered`). In either of them nothing can be left
out. There is no zero before the digits, except a single one before the point, and none after the
digits behind the point; and the exponent is not zero and has a sign.

This comes from the significant digits of a decimal, the first and the last of which are not zero
(`exists_significant_eq_cons`, `getLast?_significant`), wherever the point is put
(`full_mem_unsigned`).

* **`screen_mem_shape`**: the characters of a finite number have one of the two shapes.
-/

namespace PocketCalculator

open Binary Number
open RegularExpression (char star)

/-! ### Regular expressions -/

namespace Shape

/-- One of the characters. -/
def oneOf : List Char → RegularExpression Char
  | [] => 0
  | c :: cs => char c + oneOf cs

/-- The expression, or nothing. -/
def maybe (e : RegularExpression Char) : RegularExpression Char := 1 + e

/-- A digit other than zero. -/
def nonzero : RegularExpression Char := oneOf ['1', '2', '3', '4', '5', '6', '7', '8', '9']

/-- A digit. -/
def digit : RegularExpression Char := oneOf ['0', '1', '2', '3', '4', '5', '6', '7', '8', '9']

/-- The digits of a natural number. -/
def whole : RegularExpression Char := char '0' + nonzero * star digit

/-- A point and digits that do not end in zero, or nothing. -/
def fraction : RegularExpression Char := maybe (char '.' * star digit * nonzero)

/-- A number written out in full, without its sign. -/
def unsigned : RegularExpression Char := whole * fraction

/-- A number written out in full. -/
def plain : RegularExpression Char := maybe (char '-') * unsigned

/-- A number written with an exponent. -/
def powered : RegularExpression Char :=
  maybe (char '-') * (nonzero * fraction * (char 'e' * (oneOf ['+', '-'] * (nonzero * star digit))))

variable {text more : List Char} {c : Char}

/-- One of the characters, and no other text. -/
theorem mem_oneOf {cs : List Char} : text ∈ (oneOf cs).matches' ↔ ∃ c ∈ cs, text = [c] := by
  induction cs with
  | nil =>
      refine iff_of_false (Language.notMem_zero text) ?_
      rintro ⟨c, hc, -⟩
      exact absurd hc List.not_mem_nil
  | cons d cs ih =>
      rw [oneOf, RegularExpression.matches'_add, Language.mem_add, ih, List.exists_mem_cons_iff]
      rfl

/-- Every digit is one of the ten, -/
theorem mem_digit_of_isDigit (hc : c.isDigit = true) : [c] ∈ digit.matches' :=
  mem_oneOf.mpr ⟨c, mem_digits_of_isDigit hc, rfl⟩

/-- and every other digit than zero one of the nine. -/
theorem mem_nonzero_of_ne (hc : c.isDigit = true) (hne : c ≠ '0') : [c] ∈ nonzero.matches' := by
  refine mem_oneOf.mpr ⟨c, ?_, rfl⟩
  exact (List.mem_cons.mp (mem_digits_of_isDigit hc)).resolve_left hne

/-- Digits, of any number. -/
theorem mem_star_digit (htext : ∀ c ∈ text, c.isDigit = true) : text ∈ (star digit).matches' := by
  induction text with
  | nil => exact Language.nil_mem_kstar _
  | cons c text ih =>
      obtain ⟨hc, hmore⟩ := List.forall_mem_cons.mp htext
      obtain ⟨parts, hparts, hall⟩ := Language.mem_kstar.mp (ih hmore)
      refine Language.mem_kstar.mpr ⟨[c] :: parts, ?_, ?_⟩
      · rw [List.flatten_cons, ← hparts, List.singleton_append]
      · exact List.forall_mem_cons.mpr ⟨mem_digit_of_isDigit hc, hall⟩

/-- Digits of which the first is not zero. -/
theorem mem_nonzero_star (htext : ∀ d ∈ c :: more, d.isDigit = true) (hne : c ≠ '0') :
    c :: more ∈ (nonzero * star digit).matches' := by
  obtain ⟨hc, hmore⟩ := List.forall_mem_cons.mp htext
  exact Language.append_mem_mul (mem_nonzero_of_ne hc hne) (mem_star_digit hmore)

/-- They are the digits of a natural number. -/
theorem mem_whole (htext : ∀ d ∈ c :: more, d.isDigit = true) (hne : c ≠ '0') :
    c :: more ∈ whole.matches' := Or.inr (mem_nonzero_star htext hne)

/-- The fraction can be missing. -/
theorem nil_mem_fraction : [] ∈ fraction.matches' := Or.inl rfl

/-- A point and digits of which the last is not zero. -/
theorem mem_fraction (htext : ∀ c ∈ text, c.isDigit = true) (hne : text ≠ [])
    (hlast : text.getLast? ≠ some '0') : '.' :: text ∈ fraction.matches' := by
  obtain ⟨before, last, rfl⟩ := (List.eq_nil_or_concat' text).resolve_left hne
  rw [List.getLast?_concat, Ne, Option.some.injEq] at hlast
  refine Or.inr ?_
  rw [← List.cons_append]
  refine Language.append_mem_mul (Language.append_mem_mul (a := ['.']) rfl ?_) ?_
  · exact mem_star_digit fun c hc => htext c (List.mem_append_left _ hc)
  · exact mem_nonzero_of_ne (htext last List.mem_concat_self) hlast

/-- A sign, or none. -/
theorem sign_mem_maybe (s : Bool) :
    (if s then ['-'] else []) ∈ (maybe (char '-')).matches' := by
  cases s with
  | false => exact Or.inl rfl
  | true => exact Or.inr rfl

end Shape

open Shape

/-! ### The digits of a decimal -/

/-- The significant digits do not end in zero. -/
theorem Decimal.getLast?_significant (d : Decimal) : d.significant.getLast? ≠ some '0' := by
  rw [significant, List.getLast?_reverse]
  intro hzero
  have hnot := List.head?_dropWhile_not (· == '0') (decimalDigits d.digits).reverse
  rw [hzero] at hnot
  exact absurd hnot (by decide)

variable {digits : List Char}

/-- Digits that neither begin nor end with zero, written out in full. -/
theorem full_mem_unsigned (hdigits : ∀ c ∈ digits, c.isDigit = true)
    (hlead : ∃ lead more, digits = lead :: more ∧ lead ≠ '0')
    (hlast : digits.getLast? ≠ some '0') (point : ℤ) :
    Layout.full false digits point ∈ unsigned.matches' := by
  obtain ⟨lead, more, heq, hne⟩ := hlead
  have hplaced := Layout.placed_full false digits point
  generalize Layout.full false digits point = text at hplaced ⊢
  cases hplaced with
  | before zeros =>
      have hfraction : ∀ c ∈ List.replicate zeros '0' ++ digits, c.isDigit = true :=
        List.forall_mem_append.mpr ⟨fun _ => isDigit_of_mem_zeros, hdigits⟩
      have hnil : digits ≠ [] := heq ▸ List.cons_ne_nil lead more
      refine Language.append_mem_mul (a := ['0']) (Or.inl rfl) (mem_fraction hfraction ?_ ?_)
      · exact List.append_ne_nil_of_right_ne_nil _ hnil
      · rwa [List.getLast?_append_of_ne_nil _ hnil]
  | behind zeros =>
      have hwhole : ∀ c ∈ digits ++ List.replicate zeros '0', c.isDigit = true :=
        List.forall_mem_append.mpr ⟨hdigits, fun _ => isDigit_of_mem_zeros⟩
      rw [if_neg Bool.false_ne_true]
      refine Language.append_mem_mul ?_ nil_mem_fraction
      rw [heq, List.cons_append] at hwhole ⊢
      exact mem_whole hwhole hne
  | @between whole fraction hwhole hfraction =>
      obtain ⟨hwhole', hfraction'⟩ := List.forall_mem_append.mp hdigits
      rw [List.getLast?_append_of_ne_nil _ hfraction] at hlast
      refine Language.append_mem_mul ?_ (mem_fraction hfraction' hfraction hlast)
      obtain ⟨first, rest, rfl⟩ := List.exists_cons_of_ne_nil hwhole
      rw [List.cons_append, List.cons.injEq] at heq
      exact mem_whole hwhole' (heq.1 ▸ hne)

/-- With the point behind the first digit, the digits before it are that one. -/
theorem full_one_mem (hdigits : ∀ c ∈ digits, c.isDigit = true)
    (hlead : ∃ lead more, digits = lead :: more ∧ lead ≠ '0')
    (hlast : digits.getLast? ≠ some '0') :
    Layout.full false digits 1 ∈ (nonzero * fraction).matches' := by
  obtain ⟨lead, more, rfl, hne⟩ := hlead
  obtain ⟨hc, hmore⟩ := List.forall_mem_cons.mp hdigits
  cases more with
  | nil => exact Language.append_mem_mul (mem_nonzero_of_ne hc hne) nil_mem_fraction
  | cons next more =>
      refine Language.append_mem_mul (mem_nonzero_of_ne hc hne)
        (mem_fraction hmore (List.cons_ne_nil next more) ?_)
      rwa [List.getLast?_cons_cons] at hlast

/-- A power other than that of one, with its sign. -/
theorem exponent_mem (power : ℤ) (hpower : power ≠ 0) :
    (if power < 0 then Operator.minus else Operator.plus).symbol :: decimalDigits power.natAbs ∈
      (oneOf ['+', '-'] * (nonzero * star digit)).matches' := by
  have hne : decimalDigits power.natAbs ≠ [] := Nat.toDigits_ne_nil
  have hall : ∀ c ∈ decimalDigits power.natAbs, c.isDigit = true :=
    fun _ => isDigit_of_mem_decimalDigits
  have hhead := head?_decimalDigits_ne (Int.natAbs_pos.mpr hpower)
  obtain ⟨lead, more, heq⟩ := List.exists_cons_of_ne_nil hne
  rw [heq] at hall hhead ⊢
  rw [List.head?_cons, Ne, Option.some.injEq] at hhead
  refine Language.append_mem_mul (a := [_]) (mem_oneOf.mpr ⟨_, ?_, rfl⟩)
    (mem_nonzero_star hall hhead)
  split <;> decide

/-! ### The screen -/

/-- **A finite number is shown in one of the two shapes.** -/
theorem screen_mem_shape {x : Binary64} (hx : x.isFinite = true) :
    Layout.screen.chars x ∈ plain.matches' ∨ Layout.screen.chars x ∈ powered.matches' := by
  obtain ⟨s, m, hm, rfl⟩ := exists_finite_of_isFinite hx
  rcases Nat.eq_zero_or_pos m with rfl | hpos
  · rw [screen_chars_zero]
    exact Or.inl (by decide +kernel)
  have hpositive := Decimal.digits_shortest_pos hm.aligned hpos
  have hlead := Decimal.exists_significant_eq_cons hpositive
  have hlast := (Decimal.shortest .binary64 m).getLast?_significant
  have hdigits : ∀ c ∈ (Decimal.shortest .binary64 m).significant, c.isDigit = true :=
    fun _ => Decimal.isDigit_of_mem_significant _
  rw [screen_chars_finite s hm hpos]
  rcases screen_decimal_cases (Decimal.shortest .binary64 m) with hfull | ⟨hpower, hexponent⟩
  · rw [hfull]
    exact Or.inl (Language.append_mem_mul (sign_mem_maybe s)
      (full_mem_unsigned hdigits hlead hlast _))
  · rw [hexponent, withExponent_eq (Decimal.significant_ne_nil _ hpositive)]
    refine Or.inr (Language.append_mem_mul (sign_mem_maybe s)
      (Language.append_mem_mul (full_one_mem hdigits hlead hlast) ?_))
    exact Language.append_mem_mul (a := ['e']) rfl (exponent_mem _ hpower)

example : "-1.5e-7".toList ∈ powered.matches' ∧ "1.50".toList ∉ plain.matches' ∧
    "07".toList ∉ plain.matches' ∧ "1e0".toList ∉ powered.matches' := by
  decide +kernel

end PocketCalculator
