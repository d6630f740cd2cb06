import PocketCalculator.Proofs.Calculator.Equals
import PocketCalculator.Proofs.Decimal.Distinct
import PocketCalculator.Proofs.Decimal.Fewest
import PocketCalculator.Proofs.Decimal.Shape
import PocketCalculator.Proofs.Rounding.Units

/-!
# What the equals key can show

The equals key shows the rounded value, so its texts are those of rounded numbers. Two things can be
said of all of them.

* **`shown_classes`**: for any number of places, also for those that overflow or wrap, the text says
  of which class the value is. Rounding keeps the classes (`roundToPlaces_eq_iff`), and only finite
  numbers have the shape of a number (`screen_mem_shape_iff`).
* **`shown_places`**: for up to ten places, a finite value is shown as a whole number of units of
  the last place. The number shown is nearest to such a number of units (`readsAs_ofUnits`), and the
  shortest decimal that reads back is not finer than any other that does.
-/

namespace PocketCalculator

open Binary Number
open Shape (plain powered)

variable {screen : String} {places : UInt32} {x y : Binary64}

/-! ### Classes of numbers -/

/-- The finite numbers are those with the shape of a number. -/
theorem screen_mem_shape_iff :
    Layout.screen.chars x ∈ plain.matches' ∨ Layout.screen.chars x ∈ powered.matches' ↔
      x.isFinite = true := by
  cases x with
  | nan => exact iff_of_false (by decide +kernel) Bool.false_ne_true
  | infinity s => exact iff_of_false (by cases s <;> decide +kernel) Bool.false_ne_true
  | finite s m hm => exact iff_of_true (screen_mem_shape rfl) rfl

/-- A number that is not finite is determined by its text. -/
theorem screen_text_eq_iff (hy : y.isFinite ≠ true) :
    Layout.screen.text x = Layout.screen.text y ↔ x = y := by
  refine ⟨fun h => ?_, fun h => h ▸ rfl⟩
  have hchars : Layout.screen.chars x = Layout.screen.chars y := String.ofList_injective h
  have hx : x.isFinite ≠ true := by rwa [Ne, ← screen_mem_shape_iff, hchars, screen_mem_shape_iff]
  cases x with
  | finite s m hm => exact absurd rfl hx
  | nan =>
      cases y with
      | nan => rfl
      | infinity t => cases t <;> exact absurd hchars (by decide)
      | finite t n hn => exact absurd rfl hy
  | infinity s =>
      cases y with
      | nan => cases s <;> exact absurd hchars (by decide)
      | infinity t =>
          cases s <;> cases t <;> first | rfl | exact absurd hchars (by decide)
      | finite t n hn => exact absurd rfl hy

/-- No number is shown as a zero with a sign. -/
theorem screen_text_ne_neg_zero (x : Binary64) : Layout.screen.text x ≠ "-0" := by
  intro h
  have hchars : Layout.screen.chars x = ['-', '0'] := String.ofList_injective h
  have hx : x.isFinite = true := by
    rw [← screen_mem_shape_iff, hchars]
    decide +kernel
  obtain ⟨s, m, hm, rfl⟩ := exists_finite_of_isFinite hx
  rcases Nat.eq_zero_or_pos m with rfl | hpos
  · rw [screen_chars_zero] at hchars
    exact absurd hchars (by decide)
  · -- The text writes zero, and the decimal of the magnitude is not zero.
    have hpositive := Decimal.digits_shortest_pos hm.aligned hpos
    have hwrites := Layout.screen.writes_decimal hpositive s
    have hzero : Layout.Writes true ['-', '0'] true 0 := Layout.screen.writes_zero .binary64 true
    rw [← screen_chars_finite s hm hpos, hchars] at hwrites
    have hne : (Decimal.shortest .binary64 m).toRat ≠ 0 :=
      mul_ne_zero (Nat.cast_ne_zero.mpr hpositive.ne') (zpow_ne_zero _ (by norm_num))
    exact hne (hwrites.unique hzero).2

/-- **The screen tells the classes of values apart.** It shows `NaN` and the two infinities exactly
for the values that are, and every other text has the shape of a number and is not `-0`. -/
theorem shown_classes (screen : String) (places : UInt32) :
    let value := (evaluate screen).value
    let shown := (Key.equals.apply screen places).value
    (shown = "NaN" ↔ value = .nan) ∧
      (shown = "Infinity" ↔ value = .infinity false) ∧
      (shown = "-Infinity" ↔ value = .infinity true) ∧
      (shown.toList ∈ plain.matches' ∨ shown.toList ∈ powered.matches' ↔ value.isFinite = true) ∧
      shown ≠ "-0" := by
  intro value shown
  have hshown : shown = Layout.screen.text (roundToPlaces places value) :=
    value_apply_equals screen places
  have hspecial : ∀ y : Binary64, y.isFinite ≠ true →
      (shown = Layout.screen.text y ↔ value = y) := by
    intro y hy
    rw [hshown, screen_text_eq_iff hy, roundToPlaces_eq_iff hy]
  refine ⟨hspecial .nan Bool.false_ne_true, hspecial (.infinity false) Bool.false_ne_true,
    hspecial (.infinity true) Bool.false_ne_true, ?_, ?_⟩
  · rw [hshown, Layout.text, String.toList_ofList, screen_mem_shape_iff, isFinite_roundToPlaces_iff]
  · rw [hshown]
    exact screen_text_ne_neg_zero _

/-! ### Units of the last place -/

/-- A number of units is a decimal, and it is read as the number nearest to it. -/
theorem readsAs_ofUnits (f : Format) (n : ℤ) (d : ℕ) :
    (Decimal.mk n.natAbs (-d)).readsAs f (ofUnits f (10 ^ d) n).natAbs = true := by
  have hunits : Decimal.toRat ⟨n.natAbs, -d⟩ * f.one = |(n : ℚ) * f.one / (10 ^ d : ℕ)| := by
    rw [Decimal.toRat, zpow_neg, zpow_natCast, abs_div, abs_mul_one, Nat.abs_cast]
    push_cast
    ring
  rw [Decimal.readsAs_iff, hunits, ofUnits, Format.natAbs_round]

/-- A finite number rounded to places writes a whole number of units. -/
theorem exists_writes_roundToPlaces (hplaces : places ≤ 10) (hx : x.isFinite = true) :
    ∃ negative q, Layout.Writes true (Layout.screen.chars (roundToPlaces places x)) negative q ∧
      ∃ k : ℕ, q * 10 ^ places.toNat = k := by
  obtain ⟨n, hunits⟩ := exists_hasSteps_ofUnits hplaces hx
  obtain ⟨s, m, hm, heq, hsteps⟩ := hunits.exists_finite
  rw [heq]
  rcases Nat.eq_zero_or_pos m with rfl | hpos
  · rw [screen_chars_zero]
    exact ⟨false, 0, Layout.screen.writes_zero .binary64 false, 0, by simp⟩
  · rw [screen_chars_finite s hm hpos]
    refine ⟨s, _, Layout.screen.writes_decimal (Decimal.digits_shortest_pos hm.aligned hpos) s, ?_⟩
    have hread := readsAs_ofUnits .binary64 n places.toNat
    rw [← hsteps, natAbs_signed] at hread
    exact Decimal.exists_units_shortest (UInt32.le_iff_toNat_le.mp hplaces) hm.aligned hpos hread

/-! ### Digits behind the point -/

/-- What is written out in full with a point does not end in zero. -/
theorem getLast?_full {digits : List Char} (hdigits : ∀ c ∈ digits, c.isDigit = true)
    (hne : digits ≠ []) (hlast : digits.getLast? ≠ some '0') {point : ℤ}
    (hpoint : '.' ∈ Layout.full false digits point) :
    (Layout.full false digits point).getLast? ≠ some '0' := by
  have hplaced := Layout.placed_full false digits point
  generalize Layout.full false digits point = text at hpoint hplaced ⊢
  cases hplaced with
  | before zeros =>
      rw [← List.cons_append, ← List.cons_append, List.getLast?_append_of_ne_nil _ hne]
      exact hlast
  | behind zeros =>
      -- Here are only digits.
      rw [if_neg Bool.false_ne_true, List.append_nil, List.mem_append] at hpoint
      rcases hpoint with hdigit | hzero
      · exact absurd (hdigits '.' hdigit) (by decide)
      · exact absurd (isDigit_of_mem_zeros hzero) (by decide)
  | @between whole fraction hwhole hfraction =>
      rw [List.getLast?_append_of_ne_nil _ hfraction] at hlast
      rwa [List.getLast?_append_cons, List.getLast?_cons_of_ne_nil hfraction]

/-- The same on the screen, where a point may also stand before an exponent. -/
theorem getLast?_screen (hx : x.isFinite = true) (hpoint : '.' ∈ Layout.screen.chars x)
    (hletter : 'e' ∉ Layout.screen.chars x) : (Layout.screen.chars x).getLast? ≠ some '0' := by
  obtain ⟨s, m, hm, rfl⟩ := exists_finite_of_isFinite hx
  rcases Nat.eq_zero_or_pos m with rfl | hpos
  · rw [screen_chars_zero] at hpoint
    exact absurd hpoint (by decide)
  have hpositive := Decimal.digits_shortest_pos hm.aligned hpos
  rw [screen_chars_finite s hm hpos] at hpoint hletter ⊢
  rcases screen_decimal_cases (Decimal.shortest .binary64 m) with hfull | ⟨-, hexponent⟩
  · rw [hfull] at hpoint ⊢
    have hmem := (List.mem_append.mp hpoint).resolve_left (by cases s <;> decide)
    rw [List.getLast?_append_of_ne_nil _ (List.ne_nil_of_mem hmem)]
    exact getLast?_full (fun _ => Decimal.isDigit_of_mem_significant _)
      (Decimal.significant_ne_nil _ hpositive) (Decimal.getLast?_significant _) hmem
  · refine absurd ?_ hletter
    rw [hexponent, withExponent_eq (Decimal.significant_ne_nil _ hpositive)]
    simp

/-- A digit other than zero is not worth a multiple of ten. -/
theorem digitValue_mod_ten_ne {c : Char} (hc : c.isDigit = true) (hne : c ≠ '0') :
    digitValue c % 10 ≠ 0 := by
  have hmem := (List.mem_cons.mp (mem_digits_of_isDigit hc)).resolve_left hne
  simp only [List.mem_cons, List.not_mem_nil, or_false] at hmem
  rcases hmem with rfl | rfl | rfl | rfl | rfl | rfl | rfl | rfl | rfl <;> decide

namespace Literal

/-- What stands behind the point is the fraction. -/
theorem eq_fraction_of_chars_eq {l : Literal} {before after : List Char}
    (h : l.chars = before ++ '.' :: after) : after = l.fraction := by
  have hfraction : '.' ∉ l.fraction := fun hmem => absurd (l.fraction_digits _ hmem) (by decide)
  have hbefore : '.' ∉ (if l.negative then ['-'] else []) ++ l.whole := by
    rw [List.mem_append, not_or]
    refine ⟨by cases l.negative <;> decide, fun hmem => ?_⟩
    exact absurd (l.whole_digits _ hmem) (by decide)
  rw [Numeral.chars_eq_append, Numeral.unsigned] at h
  by_cases hnil : l.fraction = []
  · rw [if_pos hnil] at h
    rw [h] at hbefore
    exact absurd (List.mem_append_right _ List.mem_cons_self) hbefore
  · rw [if_neg hnil, ← List.append_assoc] at h
    exact ((List.append_cons_inj_of_notMem hbefore hfraction).mp h).2.2.symm

/-- A literal that writes a whole number of units has no more digits behind its point, if the last
of them is not zero. -/
theorem length_fraction_le {l : Literal} {d k : ℕ} (hlast : l.fraction.getLast? ≠ some '0')
    (h : l.toRat * 10 ^ d = k) : l.fraction.length ≤ d := by
  rcases List.eq_nil_or_concat' l.fraction with hnil | ⟨before, last, hfraction⟩
  · rw [hnil]
    exact Nat.zero_le d
  have hdigit : last ∈ l.fraction := hfraction ▸ List.mem_concat_self
  rw [hfraction, List.getLast?_concat, Ne, Option.some.injEq] at hlast
  -- The last digit is not zero, so the digits are not a multiple of ten.
  have hlast' := digitValue_mod_ten_ne (l.fraction_digits last hdigit) hlast
  have hdigits : digitsValue (l.whole ++ l.fraction) =
      digitsValue (l.whole ++ before) * 10 + digitValue last := by
    rw [hfraction, ← List.append_assoc, digitsValue_append]
    simp [digitsValue]
  by_contra hlong
  obtain ⟨more, hmore⟩ : ∃ more, l.fraction.length = d + (more + 1) :=
    ⟨l.fraction.length - d - 1, by omega⟩
  have hunits : digitsValue (l.whole ++ l.fraction) = k * 10 ^ more * 10 := by
    rw [← Numeral.toRat_magnitude, Decimal.toRat, Numeral.magnitude, hmore, zpow_neg,
      zpow_natCast] at h
    rw [← @Nat.cast_inj ℚ, Nat.cast_mul, Nat.cast_mul, ← h, Nat.cast_pow]
    push_cast
    field_simp
    ring
  omega

end Literal

/-- **The screen never shows more places than asked for.** For up to ten places the text of a finite
value, with or without an exponent, writes a whole number of units of the last place; and without an
exponent there are no more digits behind its point than places. -/
theorem shown_places (hplaces : places ≤ 10) (hfinite : (evaluate screen).value.isFinite = true) :
    let shown := (Key.equals.apply screen places).value
    (∃ negative q, Layout.Writes true shown.toList negative q ∧
        ∃ k : ℕ, q * 10 ^ places.toNat = k) ∧
      ∀ before after, shown.toList = before ++ '.' :: after → 'e' ∉ shown.toList →
        after.length ≤ places.toNat := by
  intro shown
  have hchars : shown.toList =
      Layout.screen.chars (roundToPlaces places (evaluate screen).value) := by
    rw [show shown = _ from value_apply_equals screen places, Layout.text, String.toList_ofList]
  have hresult := isFinite_roundToPlaces places hfinite
  obtain ⟨negative, q, hwrites, k, hk⟩ := exists_writes_roundToPlaces hplaces hfinite
  rw [hchars]
  refine ⟨⟨negative, q, hwrites, k, hk⟩, fun before after htext hletter => ?_⟩
  obtain ⟨l, hl, -⟩ := exists_literal_screen hresult hletter
  have hpoint : '.' ∈ Layout.screen.chars (roundToPlaces places (evaluate screen).value) := by
    rw [htext]
    exact List.mem_append_right _ List.mem_cons_self
  have hlast := getLast?_screen hresult hpoint hletter
  rw [← hl] at hwrites htext hlast
  obtain rfl := Literal.eq_fraction_of_chars_eq htext
  refine Literal.length_fraction_le ?_ (k := k) ?_
  · intro hzero
    rw [htext, List.getLast?_append_of_ne_nil _ (List.cons_ne_nil _ _), List.getLast?_cons,
      hzero] at hlast
    exact hlast rfl
  · rw [← (hwrites.unique (.literal l)).2]
    exact hk

/-- A third with two places is a whole number of hundredths, with two digits behind the point. -/
theorem shown_places_third :
    (2 : UInt32) ≤ 10 ∧ (evaluate "1/3").value.isFinite = true ∧
      (∃ negative q, Layout.Writes true "0.33".toList negative q ∧ ∃ k : ℕ, q * 10 ^ 2 = k) ∧
      ['3', '3'].length ≤ 2 := by
  have hfinite : (evaluate "1/3").value.isFinite = true := by decide +kernel
  have hshown : (Key.equals.apply "1/3" 2).value = "0.33" := by decide +kernel
  have hplaces := shown_places (by decide : (2 : UInt32) ≤ 10) hfinite
  rw [hshown] at hplaces
  exact ⟨by decide, hfinite, hplaces.1, hplaces.2 ['0'] ['3', '3'] rfl (by decide)⟩

end PocketCalculator
