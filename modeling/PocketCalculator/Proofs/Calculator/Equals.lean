import PocketCalculator.Calculator
import PocketCalculator.Proofs.Decimal.Layout
import PocketCalculator.Proofs.Expression.Written
import PocketCalculator.Proofs.Rounding.Again

/-!
# Pressing equals again

What the equals key leaves on the screen is a text, and the key may be pressed again. Whether the
text is an expression for the result is decided by the way the result is shown. Without an exponent
it is a literal with the exact value of the result, and the value of a literal alone is its own
(`value_evaluate_literal`), so only the rounding can still move it. With an exponent it is a sum or
a difference, because the letter means nothing in an expression (`hasValue_evaluate_lettered`).

* **`equals_again`**: what the second press computes.
* **`equals_not_stable`**: a result with an exponent, and a result whose last place is too fine for
  its size, that the second press changes.
-/

namespace PocketCalculator

open Binary Number

/-! ### Literals and sums of literals as expressions -/

/-- The value of a literal alone. -/
theorem value_evaluate_literal (l : Literal) :
    (evaluate (String.ofList l.chars)).value = l.value := by
  have hwritten : Written (.leaf l) (String.ofList l.chars) :=
    ⟨[], l.spaced [], [], gap_nil, .term (.single (.literal l gap_nil)), gap_nil, by
      rw [String.toList_ofList, List.nil_append, List.append_nil]
      rfl⟩
  rw [value_evaluate_of_phrase (phrase_scan_of_written hwritten), Tree.eval]

/-- A letter between a literal and an additive operator means nothing. -/
theorem hasValue_evaluate_lettered (a b : Literal) {op : Operator} (hop : op = .plus ∨ op = .minus)
    {text : String} (htext : text.toList = a.chars ++ 'e' :: op.symbol :: b.chars) :
    (Tree.node op (.leaf a) (.leaf b)).HasValue (evaluate text).value := by
  have hletter : Gap ['e'] := List.forall_mem_singleton.mpr (by decide)
  have hsum : Writes .sum (.node op (.leaf a) (.leaf b))
      (a.spaced [] ++ (['e'] ++ op.symbol :: ([] ++ b.spaced []))) :=
    .sum hop (.term (.single (.literal a gap_nil))) hletter gap_nil (.single (.literal b gap_nil))
  have hwritten : Written (.node op (.leaf a) (.leaf b)) text :=
    ⟨[], _, [], gap_nil, hsum, gap_nil, by
      rw [htext, List.nil_append, List.append_nil]
      rfl⟩
  rw [value_evaluate_of_phrase (phrase_scan_of_written hwritten)]
  exact Tree.hasValue_eval _

/-! ### The second press -/

variable {screen shown : String} {places : UInt32}

/-- What the equals key shows. -/
theorem value_apply_equals (screen : String) (places : UInt32) :
    (Key.equals.apply screen places).value =
      Layout.screen.text (roundToPlaces places (evaluate screen).value) := by
  rw [Key.apply, Key.result, Logged.value_bind, Logged.value_pure]

/-- **What a second press of equals computes.** Shown without an exponent, the result is an
expression for exactly itself, and the second press leaves the screen as it is if no places are kept
or the value had at most `2 ^ 51` units of the last place, or at least `2 ^ 52`. Shown with an
exponent, the result is an expression for the sum or the difference of its mantissa and its power of
ten. -/
theorem equals_again (hplaces : places ≤ 10) (hfinite : (evaluate screen).value.isFinite = true)
    (hshown : (Key.equals.apply screen places).value = shown) :
    ('e' ∉ shown.toList →
      (evaluate shown).value.HasSteps (roundToPlaces places (evaluate screen).value).toSteps ∧
        (places = 0 ∨ |(evaluate screen).value.toRat| * 10 ^ places.toNat ≤ 2 ^ 51 ∨
            2 ^ 52 ≤ |(evaluate screen).value.toRat| * 10 ^ places.toNat →
          (Key.equals.apply shown places).value = shown)) ∧
      ('e' ∈ shown.toList → ∃ (mantissa power : Literal) (op : Operator),
        (op = .plus ∨ op = .minus) ∧
          shown.toList = mantissa.chars ++ 'e' :: op.symbol :: power.chars ∧
          (Tree.node op (.leaf mantissa) (.leaf power)).HasValue (evaluate shown).value) := by
  rw [value_apply_equals] at hshown
  have hresult := isFinite_roundToPlaces places hfinite
  have hchars : shown.toList =
      Layout.screen.chars (roundToPlaces places (evaluate screen).value) := by
    rw [← hshown, Layout.text, String.toList_ofList]
  rw [hchars]
  constructor
  · intro hplain
    obtain ⟨l, hl, hvalue⟩ := exists_literal_screen hresult hplain
    have hread : (evaluate shown).value = l.value := by
      rw [← value_evaluate_literal, hl, ← hchars, String.ofList_toList]
    rw [hread]
    refine ⟨hvalue, fun hsize => ?_⟩
    have honce := HasSteps.of_isFinite hresult
    have hagain :=
      hasSteps_roundToPlaces_again hplaces (HasSteps.of_isFinite hfinite) honce hvalue hsize
    rw [value_apply_equals, hread, ← hshown]
    exact screen_text_congr hagain honce
  · intro hexponent
    obtain ⟨mantissa, power, op, hop, htext⟩ := exists_literals_screen hresult hexponent
    have hread := hasValue_evaluate_lettered mantissa power hop (hchars.trans htext)
    exact ⟨mantissa, power, op, hop, htext, hread⟩

/-- Ten quarters stay as they are shown. -/
theorem equals_again_ten_quarters :
    (evaluate "10/4").value.isFinite = true ∧ (Key.equals.apply "10/4" 2).value = "2.5" ∧
      |(evaluate "10/4").value.toRat| * 10 ^ (2 : UInt32).toNat ≤ 2 ^ 51 ∧
      (Key.equals.apply "2.5" 2).value = "2.5" := by
  have hfinite : (evaluate "10/4").value.isFinite = true := by decide +kernel
  have hshown : (Key.equals.apply "10/4" 2).value = "2.5" := by decide +kernel
  have hsize : |(evaluate "10/4").value.toRat| * 10 ^ (2 : UInt32).toNat ≤ 2 ^ 51 := by
    decide +kernel
  have hagain := equals_again (by decide) hfinite hshown
  exact ⟨hfinite, hshown, hsize, (hagain.1 (by decide)).2 (Or.inr (Or.inl hsize))⟩

/-- The second press changes a result that is shown with an exponent, and one that has between
`2 ^ 51` and `2 ^ 52` units of the last place. -/
theorem equals_not_stable :
    ((evaluate "1000000000000000000000").value.isFinite = true ∧
        (Key.equals.apply "1000000000000000000000" 0).value = "1e+21" ∧
        (Key.equals.apply "1e+21" 0).value = "22") ∧
      (evaluate "35184376485173.375").value.isFinite = true ∧
        (Key.equals.apply "35184376485173.375" 2).value = "35184376485173.38" ∧
        (Key.equals.apply "35184376485173.38" 2).value = "35184376485173.39" := by
  decide +kernel

end PocketCalculator
