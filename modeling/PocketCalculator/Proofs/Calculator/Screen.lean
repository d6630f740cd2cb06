import PocketCalculator.Proofs.Calculator.Equals
import PocketCalculator.Proofs.Decimal.Leading

/-!
# What the screen denotes

A finite number is shown as a text that denotes it. Between `1e-6` and `1e21` (`InFull`) the text is
a literal, and the calculator reads it as a number of the same value. Elsewhere the text is a
mantissa and a power of ten (`Scientific`), and the number is the value of the two, correctly
rounded. Which of the two it is depends on the place of the leading digit of the shortest decimal;
that this is a question of size, also at the bounds themselves, is `inFull_iff`.

* **`screen_denotes`**: what the texts of finite numbers denote, and that numbers of different value
  have different texts.
-/

namespace PocketCalculator

open Binary Number

/-! ### Numbers that are shown in full -/

/-- The number nearest to a power of ten. -/
def tenTo (power : ℤ) : Binary64 := Decimal.toNumber false ⟨1, power⟩

/-- The number is zero, or its magnitude is at least `1e-6` and below `1e21`, both as numbers of the
format. -/
def InFull (x : Binary64) : Prop :=
  x.toRat = 0 ∨ (tenTo (-6)).toRat ≤ |x.toRat| ∧ |x.toRat| < (tenTo 21).toRat

instance (x : Binary64) : Decidable (InFull x) := inferInstanceAs (Decidable (_ ∨ _ ∧ _))

/-- The exact value is zero for zero steps only. -/
theorem toRat_eq_zero_iff {x : Binary64} : x.toRat = 0 ↔ x.toSteps = 0 := by
  rw [toRat, div_eq_zero_iff, Int.cast_eq_zero,
    or_iff_left (Nat.cast_ne_zero.mpr Format.binary64.one_pos.ne')]

/-- The size of a finite number is its magnitude in steps of one. -/
theorem abs_toRat_finite (s : Bool) {m : ℕ} (hm : Format.binary64.Holds m) :
    |(finite s m hm).toRat| = m / Format.binary64.one := by
  have hone : (0 : ℚ) ≤ Format.binary64.one := Nat.cast_nonneg _
  rw [toRat, toSteps_finite, abs_div, abs_of_nonneg hone, ← Int.cast_abs, Int.abs_eq_natAbs,
    natAbs_signed, Int.cast_natCast]

/-- The number nearest to a power of ten, if it is finite. -/
theorem exists_tenTo_eq {power : ℤ} (hfinite : (tenTo power).isFinite = true) :
    ∃ (least : ℕ) (h : Format.binary64.Holds least), tenTo power = finite false least h ∧
      Format.binary64.nearest (Decimal.toRat ⟨1, power⟩ * Format.binary64.one) = least := by
  have hrounded := Decimal.isRounded_toNumber (f := .binary64) false ⟨1, power⟩
  obtain ⟨s, least, h, heq⟩ := exists_finite_of_isFinite hfinite
  rw [tenTo] at heq ⊢
  rw [heq] at hrounded
  cases hrounded with
  | finite _ hnearest =>
      exact ⟨least, h, heq, (hnearest.eq_nearest
        (mul_nonneg (Decimal.toRat_nonneg _) (Nat.cast_nonneg _))).symm⟩

/-- A power of ten is at most a number exactly if it stands before the point of its shortest
decimal. This needs that the number nearest to the power is not shown as a smaller decimal. -/
theorem tenTo_le_iff (power : ℤ) (hfinite : (tenTo power).isFinite = true)
    (hborder : 10 ^ power ≤ (Decimal.shortest .binary64 (tenTo power).toSteps.natAbs).toRat)
    (s : Bool) {m : ℕ} (hm : Format.binary64.Holds m) (hpos : 0 < m) :
    (tenTo power).toRat ≤ |(finite s m hm).toRat| ↔
      power < (Decimal.shortest .binary64 m).point := by
  obtain ⟨least, h, heq, hread⟩ := exists_tenTo_eq hfinite
  have hten : Decimal.toRat ⟨1, power⟩ = 10 ^ power := by
    rw [Decimal.toRat, Nat.cast_one, one_mul]
  rw [heq, toSteps_finite, natAbs_signed, ← hten] at hborder
  have hsteps : (tenTo power).toRat ≤ |(finite s m hm).toRat| ↔ least ≤ m := by
    rw [heq, abs_toRat_finite, toRat, toSteps_finite, signed_false, Int.cast_natCast,
      div_le_div_iff_of_pos_right (Nat.cast_pos.mpr Format.binary64.one_pos), Nat.cast_le]
  rw [hsteps, ← Decimal.toRat_le_shortest_iff hm.aligned hread hborder, hten,
    Decimal.pow_le_toRat_iff (Decimal.digits_shortest_pos hm.aligned hpos)]

/-- The bounds are shown as the powers of ten that they stand for: one ten-millionth ten times, -/
theorem tenTo_le_shortest_low :
    10 ^ (-6 : ℤ) ≤ (Decimal.shortest .binary64 (tenTo (-6)).toSteps.natAbs).toRat := by
  have h : Decimal.shortest .binary64 (tenTo (-6)).toSteps.natAbs = ⟨10, -7⟩ := by decide +kernel
  rw [h, Decimal.toRat]
  norm_num

/-- and the power itself. -/
theorem tenTo_le_shortest_high :
    10 ^ (21 : ℤ) ≤ (Decimal.shortest .binary64 (tenTo 21).toSteps.natAbs).toRat := by
  have h : Decimal.shortest .binary64 (tenTo 21).toSteps.natAbs = ⟨1, 21⟩ := by decide +kernel
  rw [h, Decimal.toRat]
  norm_num

/-- The place of the leading digit says whether a number is shown in full. -/
theorem inFull_iff (s : Bool) {m : ℕ} (hm : Format.binary64.Holds m) (hpos : 0 < m) :
    InFull (finite s m hm) ↔ -6 ≤ (Decimal.shortest .binary64 m).point - 1 ∧
      (Decimal.shortest .binary64 m).point - 1 ≤ 20 := by
  have hlow := tenTo_le_iff (-6) (by decide +kernel) tenTo_le_shortest_low s hm hpos
  have hhigh := (tenTo_le_iff 21 (by decide +kernel) tenTo_le_shortest_high s hm hpos).not
  rw [not_le, not_lt] at hhigh
  have hzero : (finite s m hm).toRat ≠ 0 := by
    rw [Ne, toRat_eq_zero_iff, toSteps_finite, signed_eq_zero_iff]
    exact hpos.ne'
  rw [InFull, or_iff_right hzero, hlow, hhigh]
  omega

/-- A number that is shown in full is shown without a letter. -/
theorem letter_not_mem_of_inFull {x : Binary64} (hx : x.isFinite = true) (h : InFull x) :
    'e' ∉ Layout.screen.chars x := by
  obtain ⟨s, m, hm, rfl⟩ := exists_finite_of_isFinite hx
  rcases Nat.eq_zero_or_pos m with rfl | hpos
  · rw [screen_chars_zero s hm]
    decide
  · have hfull : Layout.screen.decimal (Decimal.shortest .binary64 m) =
        Layout.full false (Decimal.shortest .binary64 m).significant
          (Decimal.shortest .binary64 m).point :=
      if_pos ((inFull_iff s hm hpos).mp h)
    obtain ⟨l, hnegative, hunsigned, -⟩ := exists_literal_full false
      (Decimal.significant_ne_nil _ (Decimal.digits_shortest_pos hm.aligned hpos))
      (fun _ => Decimal.isDigit_of_mem_significant _) s (Decimal.shortest .binary64 m).point
    rw [screen_chars_finite s hm hpos, hfull, ← hunsigned, ← hnegative, ← Numeral.chars_eq_append]
    exact letter_not_mem_chars l

/-- A literal is read as one number. -/
theorem value_scan_literal (l : Literal) :
    (Token.scan (String.ofList l.chars)).value = [.number (String.ofList l.chars) l.value] := by
  have hspaced : l.spaced [] = l.chars := rfl
  have hread := Scanner.flush_foldl_spaced Scanner.ready_init l gap_nil
  rw [hspaced] at hread
  rw [Token.scan, Scanner.read, String.toList_ofList, hread, List.reverse_singleton,
    Literal.operand, Operand.token]

/-! ### Mantissa and power of ten -/

/-- The text is a mantissa, the letter, and a power of ten with an explicit sign. The mantissa has
one digit before its point, and it is not zero. -/
structure Scientific (text : List Char) (mantissa : Literal) (power : ℤ) : Prop where
  lead : ∃ c, mantissa.whole = [c] ∧ c ≠ '0'
  chars : text = mantissa.chars ++
    'e' :: (if power < 0 then '-' else '+') :: decimalDigits power.natAbs

/-- A text is a mantissa and a power of ten in one way only. -/
theorem Scientific.unique {text : List Char} {mantissa mantissa' : Literal} {power power' : ℤ}
    (h : Scientific text mantissa power) (h' : Scientific text mantissa' power') :
    mantissa.toNumeral = mantissa'.toNumeral ∧ power = power' := by
  have hletter : 'e' ∉ (if power < 0 then '-' else '+') :: decimalDigits power.natAbs := by
    rw [List.mem_cons, not_or]
    constructor
    · split <;> decide
    · exact fun hmem => absurd (isDigit_of_mem_decimalDigits hmem) (by decide)
  have hsplit := (List.append_cons_inj_of_notMem (letter_not_mem_chars mantissa) hletter).mp
    (h.chars.symm.trans h'.chars)
  obtain ⟨hmantissa, -, hpower⟩ := hsplit
  obtain ⟨hsign, hdigits⟩ := List.cons.inj hpower
  constructor
  · exact Literal.toNumeral_eq_of_chars_eq hmantissa
  · have habs : power.natAbs = power'.natAbs := by
      rw [← digitsValue_decimalDigits power.natAbs, hdigits, digitsValue_decimalDigits]
    have hneg : power < 0 ↔ power' < 0 := by
      by_cases hp : power < 0 <;> by_cases hp' : power' < 0 <;> simp [hp, hp'] at hsign ⊢
    omega

/-- Digits with the point behind the first of them are a literal. -/
theorem exists_mantissa {lead : Char} {more : List Char}
    (hdigits : ∀ c ∈ lead :: more, c.isDigit = true) (negative : Bool) :
    ∃ l : Literal, l.negative = negative ∧ l.whole = [lead] ∧
      l.unsigned = Layout.full false (lead :: more) 1 ∧
      l.toRat = digitsValue (lead :: more) * 10 ^ (1 - ((lead :: more).length : ℤ)) := by
  refine ⟨⟨⟨negative, [lead], more⟩, List.cons_ne_nil _ _,
    List.forall_mem_singleton.mpr (hdigits lead List.mem_cons_self),
    fun c hc => hdigits c (List.mem_cons_of_mem lead hc)⟩, rfl, rfl, ?_, ?_⟩
  · cases more <;> rfl
  · have hplace : 1 - ((lead :: more).length : ℤ) = -(more.length : ℤ) := by
      rw [List.length_cons]
      omega
    rw [← Numeral.toRat_magnitude, Decimal.toRat, hplace]
    rfl

/-- A number that is not shown in full is shown as a mantissa and a power of ten. -/
theorem exists_scientific {x : Binary64} (hx : x.isFinite = true) (h : ¬ InFull x) :
    ∃ mantissa power, Scientific (Layout.screen.chars x) mantissa power ∧
      IsRounded mantissa.negative (mantissa.toRat * 10 ^ power) x := by
  obtain ⟨s, m, hm, rfl⟩ := exists_finite_of_isFinite hx
  rcases Nat.eq_zero_or_pos m with rfl | hpos
  · refine absurd (.inl ?_) h
    rw [toRat_eq_zero_iff, toSteps_finite, signed_eq_zero_iff]
  have hpositive := Decimal.digits_shortest_pos hm.aligned hpos
  obtain ⟨lead, more, hdigits, hlead⟩ := Decimal.exists_significant_eq_cons hpositive
  obtain ⟨mantissa, hnegative, hwhole, hunsigned, hvalue⟩ :=
    exists_mantissa (fun c hc => Decimal.isDigit_of_mem_significant _ (hdigits ▸ hc)) s
  rw [← hdigits] at hunsigned hvalue
  refine ⟨mantissa, (Decimal.shortest .binary64 m).point - 1, ⟨⟨lead, hwhole, hlead⟩, ?_⟩, ?_⟩
  · have hdecimal : Layout.screen.decimal (Decimal.shortest .binary64 m) =
        Layout.withExponent true (Decimal.shortest .binary64 m).significant
          ((Decimal.shortest .binary64 m).point - 1) :=
      if_neg (mt (inFull_iff s hm hpos).mpr h)
    rw [screen_chars_finite s hm hpos, hdecimal,
      withExponent_eq (Decimal.significant_ne_nil _ hpositive), ← hunsigned, ← hnegative,
      ← List.append_assoc, ← Numeral.chars_eq_append, apply_ite Operator.symbol]
    rfl
  · have hexact : mantissa.toRat * 10 ^ ((Decimal.shortest .binary64 m).point - 1) =
        (Decimal.shortest .binary64 m).toRat := by
      rw [hvalue, mul_assoc, ← zpow_add₀ (by norm_num), Decimal.toRat_significant]
      congr 2
      ring
    rw [hexact, hnegative, ← Decimal.toNumber_shortest hm s]
    exact Decimal.isRounded_toNumber s _

/-! ### The text of a number -/

/-- Numbers with the same text have the same value. -/
theorem toRat_eq_of_screen_eq {x y : Binary64} (hx : x.isFinite = true) (hy : y.isFinite = true)
    (h : Layout.screen.text x = Layout.screen.text y) : x.toRat = y.toRat := by
  have hchars : Layout.screen.chars x = Layout.screen.chars y := String.ofList_injective h
  by_cases hletter : 'e' ∈ Layout.screen.chars x
  · obtain ⟨mantissa, power, hshown, hrounded⟩ :=
      exists_scientific hx fun h => letter_not_mem_of_inFull hx h hletter
    obtain ⟨mantissa', power', hshown', hrounded'⟩ :=
      exists_scientific hy fun h => letter_not_mem_of_inFull hy h (hchars ▸ hletter)
    rw [← hchars] at hshown'
    obtain ⟨hmantissa, rfl⟩ := hshown.unique hshown'
    rw [← hmantissa] at hrounded'
    have hpositive : 0 ≤ mantissa.toRat * 10 ^ power :=
      mul_nonneg mantissa.toRat_nonneg (zpow_nonneg (by norm_num) _)
    rw [hrounded.unique hpositive hrounded']
  · obtain ⟨l, hl, hvalue⟩ := exists_literal_screen hx hletter
    obtain ⟨l', hl', hvalue'⟩ := exists_literal_screen hy (hchars ▸ hletter)
    have hnumeral := Literal.toNumeral_eq_of_chars_eq (hl.trans (hchars.trans hl'.symm))
    rw [Number.toRat, Number.toRat, ← hvalue.toSteps_eq, hnumeral, hvalue'.toSteps_eq]

/-- Zero has a magnitude of zero and no sign. -/
theorem zero_eq_finite {f : Format} (h : f.Holds 0) : (0 : Number f) = finite false 0 h := by
  have hsteps : (0 : Number f) = ofSteps false (0 * f.one) 1 := rfl
  rw [hsteps, Nat.zero_mul, ofSteps_one false h]

/-- The text of a zero is an expression for the positive zero. -/
theorem value_evaluate_zero : (evaluate "0").value = 0 := by
  have hholds : Format.binary64.Holds 0 := ⟨Nat.dvd_zero _, Nat.two_pow_pos _⟩
  let zero : Literal := ⟨⟨false, ['0'], []⟩, List.cons_ne_nil _ _,
    List.forall_mem_singleton.mpr rfl, List.forall_mem_nil _⟩
  have hreads : zero.magnitude.readsAs .binary64 0 = true := by decide +kernel
  rw [zero_eq_finite hholds]
  exact (value_evaluate_literal zero).trans (Decimal.toNumber_of_readsAs hholds hreads false)

/-- A number that is shown in full is its value as an expression, but for the sign of a zero. -/
theorem value_evaluate_screen {x : Binary64} (hx : x.isFinite = true) (h : InFull x) :
    (evaluate (Layout.screen.text x)).value = if x.toRat = 0 then 0 else x := by
  split
  case isTrue hzero =>
    obtain ⟨s, m, hm, rfl⟩ := exists_finite_of_isFinite hx
    rw [toRat_eq_zero_iff, toSteps_finite, signed_eq_zero_iff] at hzero
    subst hzero
    rw [Layout.text, screen_chars_zero]
    exact value_evaluate_zero
  case isFalse hne =>
    obtain ⟨l, hl, hvalue⟩ := exists_literal_screen hx (letter_not_mem_of_inFull hx h)
    rw [Layout.text, ← hl, value_evaluate_literal]
    exact hvalue.eq_of_ne_zero (.of_isFinite hx) (mt toRat_eq_zero_iff.mpr hne)

/-- **The text of a finite number denotes it.** Shown in full, it is read as one number of the same
value, and its value as an expression is the number, without the sign of a zero. Otherwise it is a
mantissa and a power of ten whose value, correctly rounded, is the number. Numbers of different
value have different texts. -/
theorem screen_denotes {x : Binary64} (hx : x.isFinite = true) :
    (InFull x →
      (∃ value, (Token.scan (Layout.screen.text x)).value
          = [.number (Layout.screen.text x) value] ∧
        value.isFinite = true ∧ value.toRat = x.toRat) ∧
      (evaluate (Layout.screen.text x)).value = if x.toRat = 0 then 0 else x) ∧
    (¬ InFull x → ∃ mantissa power, Scientific (Layout.screen.text x).toList mantissa power ∧
      IsRounded mantissa.negative (mantissa.toRat * 10 ^ power) x) ∧
    ∀ y : Binary64, y.isFinite = true → y.toRat ≠ x.toRat →
      Layout.screen.text y ≠ Layout.screen.text x := by
  refine ⟨fun hfull => ⟨?_, ?_⟩, fun hfull => ?_, fun y hy hne h => ?_⟩
  · obtain ⟨l, hl, hvalue⟩ := exists_literal_screen hx (letter_not_mem_of_inFull hx hfull)
    refine ⟨l.value, ?_, hvalue.isFinite, ?_⟩
    · rw [Layout.text, ← hl, value_scan_literal]
    · rw [Number.toRat, Number.toRat, hvalue.toSteps_eq]
  · exact value_evaluate_screen hx hfull
  · rw [Layout.text, String.toList_ofList]
    exact exists_scientific hx hfull
  · exact hne (toRat_eq_of_screen_eq hy hx h)

/-- Two and a half is shown in full, and a quarter of a millionth with a power of ten. -/
theorem screen_denotes_two_and_a_half :
    (InFull (evaluate "10/4").value ∧
      (evaluate (Layout.screen.text (evaluate "10/4").value)).value = (evaluate "10/4").value) ∧
    ¬ InFull (evaluate "1/4000000").value ∧ ∃ mantissa power,
      Scientific (Layout.screen.text (evaluate "1/4000000").value).toList mantissa power ∧
        IsRounded mantissa.negative (mantissa.toRat * 10 ^ power) (evaluate "1/4000000").value := by
  have hfull : InFull (evaluate "10/4").value := by decide +kernel
  have hne : (evaluate "10/4").value.toRat ≠ 0 := by decide +kernel
  have hsmall : ¬ InFull (evaluate "1/4000000").value := by decide +kernel
  have hread := ((screen_denotes (by decide +kernel)).1 hfull).2
  rw [if_neg hne] at hread
  exact ⟨⟨hfull, hread⟩, hsmall, (screen_denotes (by decide +kernel)).2.1 hsmall⟩

end PocketCalculator
