import PocketCalculator.Proofs.Decimal.Layout

/-!
# Different numbers have different texts

A layout whose zeros keep their sign loses nothing: the sign and the exact decimal can be read off
the characters (`Layout.Writes`), and the number is the value of that decimal, correctly rounded.
The characters say first whether there is an exponent, then the literal before it, and then the
power, so they write one sign and one magnitude only (`Writes.unique`). Numbers that are not finite
are told by their letters.

* **`text_injective`**: a number is determined by its text.
-/

namespace PocketCalculator

open Binary Number

/-- A character of a number: a digit, a point, a sign, or the letter of an exponent. -/
def IsNumeric (c : Char) : Prop := c.isDigit = true ∨ c ∈ ['.', '-', '+', 'e']

instance (c : Char) : Decidable (IsNumeric c) := inferInstanceAs (Decidable (_ ∨ _))

/-- A literal is made of characters of a number. -/
theorem Literal.isNumeric_of_mem_chars (l : Literal) {c : Char} (h : c ∈ l.chars) :
    IsNumeric c := by
  rw [Numeral.chars_eq_append, List.mem_append] at h
  rcases h with h | h
  · split at h
    · rw [List.mem_singleton.mp h]
      decide
    · contradiction
  · rcases l.isDigit_or_point_of_mem_unsigned h with hdigit | rfl
    · exact .inl hdigit
    · decide

namespace Layout

/-! ### Exponents -/

/-- The digits of an exponent are those of its magnitude. -/
theorem filter_isDigit_exponent (plusSigned : Bool) (power : ℤ) :
    (exponent plusSigned power).filter Char.isDigit = decimalDigits power.natAbs := by
  have hsign : (if power < 0 then ['-'] else if plusSigned then ['+'] else []).filter
      Char.isDigit = [] := by
    split
    · rfl
    · cases plusSigned <;> rfl
  have hdigits : (decimalDigits power.natAbs).filter Char.isDigit = decimalDigits power.natAbs :=
    List.filter_eq_self.mpr fun _ => isDigit_of_mem_decimalDigits
  rw [exponent, List.filter_append, hsign, hdigits, List.nil_append]

/-- An exponent has a sign exactly if the power is negative, -/
theorem minus_mem_exponent_iff {plusSigned : Bool} {power : ℤ} :
    '-' ∈ exponent plusSigned power ↔ power < 0 := by
  have hdigits : '-' ∉ decimalDigits power.natAbs :=
    fun h => absurd (isDigit_of_mem_decimalDigits h) (by decide)
  rw [exponent, List.mem_append, or_iff_left hdigits]
  split
  case isTrue hneg => simp [hneg]
  case isFalse hneg => cases plusSigned <;> simp [hneg]

/-- so it determines the power. -/
theorem exponent_injective {plusSigned : Bool} {power power' : ℤ}
    (h : exponent plusSigned power = exponent plusSigned power') : power = power' := by
  have hsign : power < 0 ↔ power' < 0 := by
    rw [← minus_mem_exponent_iff, h, minus_mem_exponent_iff]
  have habs : power.natAbs = power'.natAbs := by
    rw [← digitsValue_decimalDigits power.natAbs, ← filter_isDigit_exponent plusSigned, h,
      filter_isDigit_exponent, digitsValue_decimalDigits]
  omega

/-- An exponent is made of characters of a number, without another letter. -/
theorem isNumeric_of_mem_exponent {plusSigned : Bool} {power : ℤ} {c : Char}
    (h : c ∈ exponent plusSigned power) : IsNumeric c ∧ c ≠ 'e' := by
  rcases List.mem_append.mp h with h | h
  · split at h
    · rw [List.mem_singleton.mp h]
      decide
    · cases plusSigned with
      | false => contradiction
      | true =>
          rw [List.mem_singleton.mp h]
          decide
  · have hdigit := isDigit_of_mem_decimalDigits h
    refine ⟨.inl hdigit, ?_⟩
    rintro rfl
    exact absurd hdigit (by decide)

/-! ### What characters write -/

/-- The characters write a sign and a magnitude: a literal, or a literal and a power of ten. -/
inductive Writes (plusSigned : Bool) : List Char → Bool → ℚ → Prop where
  | literal (l : Literal) : Writes plusSigned l.chars l.negative l.toRat
  | powered (l : Literal) (power : ℤ) :
      Writes plusSigned (l.chars ++ 'e' :: exponent plusSigned power) l.negative
        (l.toRat * 10 ^ power)

variable {plusSigned : Bool} {text : List Char} {negative negative' : Bool} {q q' : ℚ}

/-- What writes a number is made of characters of a number. -/
theorem Writes.isNumeric (h : Writes plusSigned text negative q) {c : Char} (hc : c ∈ text) :
    IsNumeric c := by
  cases h with
  | literal l => exact l.isNumeric_of_mem_chars hc
  | powered l power =>
      rcases List.mem_append.mp hc with hc | hc
      · exact l.isNumeric_of_mem_chars hc
      · rcases List.mem_cons.mp hc with rfl | hc
        · decide
        · exact (isNumeric_of_mem_exponent hc).1

/-- Characters write one sign and one magnitude only. -/
theorem Writes.unique (h : Writes plusSigned text negative q)
    (h' : Writes plusSigned text negative' q') : negative = negative' ∧ q = q' := by
  generalize htext : text = text' at h'
  cases h with
  | literal l =>
      cases h' with
      | literal l' =>
          have hnumeral := Literal.toNumeral_eq_of_chars_eq htext
          exact ⟨congrArg Numeral.negative hnumeral, congrArg Numeral.toRat hnumeral⟩
      | powered l' power' =>
          refine absurd ?_ (letter_not_mem_chars l)
          rw [htext]
          exact List.mem_append_right _ List.mem_cons_self
  | powered l power =>
      cases h' with
      | literal l' =>
          refine absurd ?_ (letter_not_mem_chars l')
          rw [← htext]
          exact List.mem_append_right _ List.mem_cons_self
      | powered l' power' =>
          have hletter : 'e' ∉ exponent plusSigned power :=
            fun hmem => (isNumeric_of_mem_exponent hmem).2 rfl
          obtain ⟨hchars, -, hexponent⟩ :=
            (List.append_cons_inj_of_notMem (letter_not_mem_chars l) hletter).mp htext
          have hnumeral := Literal.toNumeral_eq_of_chars_eq hchars
          rw [exponent_injective hexponent]
          exact ⟨congrArg Numeral.negative hnumeral,
            congrArg (fun n => n.toRat * 10 ^ power') hnumeral⟩

/-! ### What a layout writes -/

variable {f : Format} (l : Layout)

/-- Digits written out in full, -/
theorem writes_full {digits : List Char} (hne : digits ≠ [])
    (hdigits : ∀ c ∈ digits, c.isDigit = true) (pointed s : Bool) (point : ℤ) :
    Writes plusSigned ((if s then ['-'] else []) ++ full pointed digits point) s
      (digitsValue digits * 10 ^ (point - digits.length)) := by
  obtain ⟨literal, rfl, hunsigned, hvalue⟩ := exists_literal_full pointed hne hdigits s point
  rw [← hunsigned, ← hvalue, ← Numeral.chars_eq_append, Numeral.toRat_magnitude]
  exact .literal literal

/-- and with an exponent. -/
theorem writes_withExponent {digits : List Char} (hne : digits ≠ [])
    (hdigits : ∀ c ∈ digits, c.isDigit = true) (s : Bool) (power : ℤ) :
    Writes plusSigned ((if s then ['-'] else []) ++ withExponent plusSigned digits power) s
      (digitsValue digits * 10 ^ (power + 1 - digits.length)) := by
  obtain ⟨literal, rfl, hunsigned, hvalue⟩ := exists_literal_full false hne hdigits s 1
  rw [Numeral.toRat_magnitude] at hvalue
  have hexact : literal.toRat * 10 ^ power =
      digitsValue digits * 10 ^ (power + 1 - digits.length) := by
    rw [hvalue, mul_assoc, ← zpow_add₀ (by norm_num)]
    congr 2
    ring
  rw [withExponent_eq_append hne, ← hunsigned, ← hexact, ← List.append_assoc,
    ← Numeral.chars_eq_append]
  exact .powered literal power

/-- The characters of a decimal write it. -/
theorem writes_decimal {d : Decimal} (hd : 0 < d.digits) (s : Bool) :
    Writes l.plusSigned ((if s then ['-'] else []) ++ l.decimal d) s d.toRat := by
  have hne := d.significant_ne_nil hd
  have hdigits : ∀ c ∈ d.significant, c.isDigit = true := fun _ => d.isDigit_of_mem_significant
  rw [d.toRat_significant]
  rcases l.decimal_cases d with h | h
  · rw [h]
    exact writes_full hne hdigits l.pointed s d.point
  · have hwrites : Writes l.plusSigned _ s _ := writes_withExponent hne hdigits s (d.point - 1)
    rwa [sub_add_cancel, ← h] at hwrites

/-- The characters of a zero write it. -/
theorem writes_zero (f : Format) (s : Bool) :
    Writes l.plusSigned ((if s then ['-'] else []) ++ l.magnitude f 0) s 0 := by
  have hmagnitude : l.magnitude f 0 = full l.pointed ['0'] 1 := by
    unfold magnitude
    cases l.pointed <;> rfl
  have hzero : (digitsValue ['0'] : ℚ) * 10 ^ ((1 : ℤ) - ['0'].length) = 0 := by
    simp [digitsValue, digitValue]
  rw [hmagnitude, ← hzero]
  exact writes_full (List.cons_ne_nil '0' []) (List.forall_mem_singleton.mpr rfl) l.pointed s 1

/-- The characters of a finite number write its sign and a decimal that reads back as it, if a zero
shows its sign. -/
theorem exists_writes (hl : l.zeroSigned = true) (s : Bool) {m : ℕ} (hm : f.Holds m) :
    ∃ d : Decimal, Writes l.plusSigned (l.chars (finite s m hm)) s d.toRat ∧
      d.readsAs f m = true := by
  have hchars : l.chars (finite s m hm) = (if s then ['-'] else []) ++ l.magnitude f m := by
    simp [chars, hl]
  rw [hchars]
  rcases Nat.eq_zero_or_pos m with rfl | hpos
  · have hzero : Decimal.toRat ⟨0, 0⟩ = 0 := by simp [Decimal.toRat]
    refine ⟨⟨0, 0⟩, ?_, ?_⟩
    · rw [hzero]
      exact l.writes_zero f s
    · rw [Decimal.readsAs_iff, hzero, zero_mul, Format.nearest_zero]
  · refine ⟨Decimal.shortest f m, ?_, Decimal.readsAs_shortest hm.aligned⟩
    rw [magnitude, if_neg hpos.ne']
    exact l.writes_decimal (Decimal.digits_shortest_pos hm.aligned hpos) s

/-- The characters of an infinity, with its sign. -/
theorem chars_infinity (hinf : l.infinity = "inf") (s : Bool) :
    l.chars (Number.infinity s : Number f) = (if s then ['-'] else []) ++ ['i', 'n', 'f'] := by
  rw [chars, hinf]
  rfl

/-- A number is finite exactly if all its characters are numeric. -/
theorem isFinite_iff_forall_isNumeric (hl : l.zeroSigned = true) (hinf : l.infinity = "inf")
    {x : Number f} : x.isFinite = true ↔ ∀ c ∈ l.chars x, IsNumeric c := by
  cases x with
  | nan =>
      refine iff_of_false Bool.false_ne_true fun h => ?_
      exact absurd (h 'N' List.mem_cons_self) (by decide)
  | infinity s =>
      refine iff_of_false Bool.false_ne_true fun h => ?_
      rw [l.chars_infinity hinf] at h
      exact absurd (h 'i' (List.mem_append_right _ List.mem_cons_self)) (by decide)
  | finite s m hm =>
      obtain ⟨d, hwrites, -⟩ := l.exists_writes hl s hm
      exact iff_of_true rfl fun c => hwrites.isNumeric

/-- Finite numbers with the same characters are the same. -/
theorem finite_eq_of_chars_eq (hl : l.zeroSigned = true) {s t : Bool} {m n : ℕ}
    {hm : f.Holds m} {hn : f.Holds n}
    (h : l.chars (finite s m hm) = l.chars (finite t n hn)) : finite s m hm = finite t n hn := by
  obtain ⟨d, hwrites, hreads⟩ := l.exists_writes hl s hm
  obtain ⟨e, hwrites', hreads'⟩ := l.exists_writes hl t hn
  rw [← h] at hwrites'
  obtain ⟨rfl, hvalue⟩ := hwrites.unique hwrites'
  rw [← Decimal.toNumber_of_readsAs hm hreads, ← Decimal.toNumber_of_readsAs hn hreads',
    Decimal.toNumber_congr hvalue]

/-- **A number is determined by its text**, if a zero shows its sign and infinities are written
`inf`. -/
theorem text_injective (hl : l.zeroSigned = true) (hinf : l.infinity = "inf") :
    Function.Injective (l.text : Number f → String) := by
  intro x y h
  have hchars : l.chars x = l.chars y := String.ofList_injective h
  have hfinite : x.isFinite = true ↔ y.isFinite = true := by
    rw [l.isFinite_iff_forall_isNumeric hl hinf, hchars, l.isFinite_iff_forall_isNumeric hl hinf]
  cases x with
  | nan =>
      cases y with
      | nan => rfl
      | infinity t =>
          rw [l.chars_infinity hinf] at hchars
          cases t <;> simp [chars] at hchars
      | finite t n hn => exact absurd (hfinite.mpr rfl) Bool.false_ne_true
  | infinity s =>
      cases y with
      | nan =>
          rw [l.chars_infinity hinf] at hchars
          cases s <;> simp [chars] at hchars
      | infinity t =>
          rw [l.chars_infinity hinf, l.chars_infinity hinf] at hchars
          cases s <;> cases t <;> simp at hchars ⊢
      | finite t n hn => exact absurd (hfinite.mpr rfl) Bool.false_ne_true
  | finite s m hm =>
      cases y with
      | finite t n hn => exact l.finite_eq_of_chars_eq hl hchars
      | _ => exact absurd (hfinite.mp rfl) Bool.false_ne_true

/-- A text of a number has no characters but numeric ones and the letters of `NaN` and `inf`. -/
theorem isNumeric_or_letter_of_mem_text (hl : l.zeroSigned = true) (hinf : l.infinity = "inf")
    {x : Number f} {c : Char} (hc : c ∈ (l.text x).toList) :
    IsNumeric c ∨ c ∈ ['N', 'a', 'i', 'n', 'f'] := by
  rw [text, String.toList_ofList] at hc
  cases x with
  | nan =>
      simp only [chars, List.mem_cons, List.not_mem_nil, or_false] at hc
      rcases hc with rfl | rfl | rfl <;> decide
  | infinity s =>
      rw [l.chars_infinity hinf, List.mem_append] at hc
      simp only [List.mem_cons, List.not_mem_nil, or_false] at hc
      rcases hc with hsign | rfl | rfl | rfl
      · split at hsign
        · rw [List.mem_singleton.mp hsign]
          decide
        · contradiction
      all_goals decide
  | finite s m hm => exact .inl ((l.isFinite_iff_forall_isNumeric hl hinf).mp rfl c hc)

end Layout

end PocketCalculator
