import PocketCalculator.Decimal.Layout
import PocketCalculator.Proofs.Binary.Signed
import PocketCalculator.Proofs.Decimal.Shortest

/-!
# What is shown reads back

A decimal is its digits without trailing zeros, with the point at some place (`toRat_significant`).
Written out in full, wherever the point falls, the digits are the characters of a literal with that
exact value (`exists_literal_full`).

* **`exists_literal_screen`**: a number that the screen shows without an exponent is shown as a
  literal, and the literal has the value of the number.
-/

namespace PocketCalculator

open Binary Number

/-! ### Digits -/

/-- The digits of a natural number are worth it, -/
theorem digitsValue_decimalDigits (n : ℕ) : digitsValue (decimalDigits n) = n :=
  Nat.ofDigitChars_ten_toDigits

/-- and they are digits. -/
theorem isDigit_of_mem_decimalDigits {n : ℕ} {c : Char} (h : c ∈ decimalDigits n) :
    c.isDigit = true :=
  Nat.isDigit_of_mem_toDigits (by decide) (by decide) h

/-- Zeros are worth nothing. -/
theorem digitsValue_replicate_zero (k : ℕ) : digitsValue (List.replicate k '0') = 0 := by
  rw [digitsValue_eq_ofDigitChars, Nat.ofDigitChars_replicate_zero, Nat.mul_zero]

namespace Decimal

variable (d : Decimal)

/-- The digits are the significant ones and zeros. -/
theorem exists_decimalDigits_eq :
    ∃ k, decimalDigits d.digits = d.significant ++ List.replicate k '0' := by
  have hsplit := (decimalDigits d.digits).reverse.takeWhile_append_dropWhile (p := (· == '0'))
  have hzero : ∀ c ∈ (decimalDigits d.digits).reverse.takeWhile (· == '0'), c = '0' :=
    fun c hc => by simpa using List.mem_takeWhile_imp hc
  have hzeros := List.eq_replicate_of_mem hzero
  refine ⟨((decimalDigits d.digits).reverse.takeWhile (· == '0')).length, ?_⟩
  rw [significant, ← List.reverse_replicate, ← hzeros, ← List.reverse_append, hsplit,
    List.reverse_reverse]

/-- The significant digits, moved to their place. -/
theorem toRat_significant :
    d.toRat = digitsValue d.significant * 10 ^ (d.point - d.significant.length) := by
  obtain ⟨k, hk⟩ := d.exists_decimalDigits_eq
  have hdigits : (d.digits : ℚ) = digitsValue d.significant * 10 ^ k := by
    have h := congrArg digitsValue hk
    rw [digitsValue_decimalDigits, digitsValue_append, List.length_replicate,
      digitsValue_replicate_zero, Nat.add_zero] at h
    exact_mod_cast h
  have hplace : d.point - d.significant.length = k + d.exponent := by
    rw [point, hk, List.length_append, List.length_replicate]
    push_cast
    ring
  rw [toRat, hdigits, hplace, zpow_add₀ (by norm_num), zpow_natCast]
  ring

/-- The significant ones are digits. -/
theorem isDigit_of_mem_significant {c : Char} (h : c ∈ d.significant) : c.isDigit = true := by
  obtain ⟨k, hk⟩ := d.exists_decimalDigits_eq
  exact isDigit_of_mem_decimalDigits (hk ▸ List.mem_append_left _ h)

/-- A decimal other than zero has significant digits. -/
theorem significant_ne_nil (h : 0 < d.digits) : d.significant ≠ [] := by
  intro hnil
  obtain ⟨k, hk⟩ := d.exists_decimalDigits_eq
  rw [hnil, List.nil_append] at hk
  have hzero := congrArg digitsValue hk
  rw [digitsValue_decimalDigits, digitsValue_replicate_zero] at hzero
  omega

end Decimal

/-! ### Digits written out in full -/

/-- The characters of a numeral: its sign, and the characters after it. -/
theorem Numeral.chars_eq_append (n : Numeral) :
    n.chars = (if n.negative then ['-'] else []) ++ n.unsigned := by
  unfold Numeral.chars
  split <;> rfl

/-- Zeros before the digits count for nothing, -/
theorem digitsValue_replicate_append (k : ℕ) (digits : List Char) :
    digitsValue (List.replicate k '0' ++ digits) = digitsValue digits := by
  rw [digitsValue_append, digitsValue_replicate_zero, Nat.zero_mul, Nat.zero_add]

/-- and zeros after them are powers of ten. -/
theorem digitsValue_append_replicate (k : ℕ) (digits : List Char) :
    digitsValue (digits ++ List.replicate k '0') = digitsValue digits * 10 ^ k := by
  rw [digitsValue_append, digitsValue_replicate_zero, List.length_replicate, Nat.add_zero]

/-- Zeros are digits. -/
theorem isDigit_of_mem_zeros {k : ℕ} {c : Char} (h : c ∈ List.replicate k '0') :
    c.isDigit = true := by
  rw [List.eq_of_mem_replicate h]
  rfl

/-- Where the point stands in digits written out in full: `Placed pointed digits point text` says
that the text is the digits, with zeros and a point as the place `point` asks for. -/
inductive Layout.Placed (pointed : Bool) : List Char → ℤ → List Char → Prop where
  /-- Before the digits, and before zeros that lead up to them. -/
  | before {digits : List Char} (zeros : ℕ) :
      Placed pointed digits (-zeros) ('0' :: '.' :: (List.replicate zeros '0' ++ digits))
  /-- Behind the digits and zeros that follow them, if it is written at all. -/
  | behind {digits : List Char} (zeros : ℕ) :
      Placed pointed digits (digits.length + zeros)
        (digits ++ List.replicate zeros '0' ++ if pointed then ['.', '0'] else [])
  /-- Between two digits. -/
  | between {whole fraction : List Char} (whole_ne_nil : whole ≠ [])
      (fraction_ne_nil : fraction ≠ []) :
      Placed pointed (whole ++ fraction) whole.length (whole ++ '.' :: fraction)

/-- Digits written out in full have the point at its place. -/
theorem Layout.placed_full (pointed : Bool) (digits : List Char) (point : ℤ) :
    Placed pointed digits point (full pointed digits point) := by
  unfold full
  split
  case isTrue hpoint =>
    have hplace : -((-point).toNat : ℤ) = point := by omega
    have hplaced : Placed pointed digits (-((-point).toNat : ℤ)) _ := .before _
    rwa [hplace] at hplaced
  case isFalse hpoint =>
    split
    case isTrue hle =>
      have hplace : (digits.length + (point.toNat - digits.length : ℕ) : ℤ) = point := by omega
      have hplaced : Placed pointed digits (digits.length + (point.toNat - digits.length : ℕ)) _ :=
        .behind _
      rwa [hplace] at hplaced
    case isFalse hgt =>
      have hlength : (digits.take point.toNat).length = point.toNat := by
        rw [List.length_take]
        omega
      have hwhole : digits.take point.toNat ≠ [] := by
        rw [Ne, ← List.length_eq_zero_iff, hlength]
        omega
      have hfraction : digits.drop point.toNat ≠ [] := by
        rw [Ne, List.drop_eq_nil_iff]
        omega
      have hplaced : Placed pointed _ _ _ := .between hwhole hfraction
      rwa [List.take_append_drop, hlength, Int.toNat_of_nonneg (by omega)] at hplaced

/-- Digits written out in full are a literal. -/
theorem exists_literal_full (pointed : Bool) {digits : List Char} (hne : digits ≠ [])
    (hdigits : ∀ c ∈ digits, c.isDigit = true) (negative : Bool) (point : ℤ) :
    ∃ l : Literal, l.negative = negative ∧ l.unsigned = Layout.full pointed digits point ∧
      l.magnitude.toRat = digitsValue digits * 10 ^ (point - digits.length) := by
  have hplaced := Layout.placed_full pointed digits point
  generalize Layout.full pointed digits point = text at hplaced ⊢
  cases hplaced with
  | before zeros =>
      have hfraction : ∀ c ∈ List.replicate zeros '0' ++ digits, c.isDigit = true :=
        List.forall_mem_append.mpr ⟨fun _ => isDigit_of_mem_zeros, hdigits⟩
      refine ⟨⟨⟨negative, ['0'], List.replicate zeros '0' ++ digits⟩, List.cons_ne_nil _ _,
        List.forall_mem_singleton.mpr rfl, hfraction⟩, rfl, ?_, ?_⟩
      · simp [Numeral.unsigned, hne]
      · have hplace : -((List.replicate zeros '0' ++ digits).length : ℤ) =
            -zeros - digits.length := by
          rw [List.length_append, List.length_replicate]
          omega
        rw [Decimal.toRat, Numeral.magnitude, hplace, List.singleton_append, ← List.cons_append,
          ← List.replicate_succ, digitsValue_replicate_append]
  | behind zeros =>
      have hwhole : ∀ c ∈ digits ++ List.replicate zeros '0', c.isDigit = true :=
        List.forall_mem_append.mpr ⟨hdigits, fun _ => isDigit_of_mem_zeros⟩
      have hfraction : ∀ c ∈ if pointed then ['0'] else [], c.isDigit = true := by
        cases pointed with
        | false => exact List.forall_mem_nil _
        | true => exact List.forall_mem_singleton.mpr rfl
      refine ⟨⟨⟨negative, digits ++ List.replicate zeros '0', if pointed then ['0'] else []⟩,
        List.append_ne_nil_of_left_ne_nil hne _, hwhole, hfraction⟩, rfl, ?_, ?_⟩
      · cases pointed <;> simp [Numeral.unsigned]
      · have hzero : digitsValue (if pointed then ['0'] else []) = 0 := by
          cases pointed <;> rfl
        rw [Numeral.toRat_magnitude, Numeral.toRat, hzero, digitsValue_append_replicate,
          add_sub_cancel_left, zpow_natCast]
        simp
  | @between whole fraction hwhole hfraction =>
      obtain ⟨hwhole', hfraction'⟩ := List.forall_mem_append.mp hdigits
      refine ⟨⟨⟨negative, whole, fraction⟩, hwhole, hwhole', hfraction'⟩, rfl, ?_, ?_⟩
      · rw [Numeral.unsigned, if_neg hfraction]
      · have hplace : -(fraction.length : ℤ) = whole.length - (whole ++ fraction).length := by
          rw [List.length_append]
          omega
        rw [Decimal.toRat, Numeral.magnitude, hplace]

/-- The characters of an exponent. -/
def Layout.exponent (plusSigned : Bool) (power : ℤ) : List Char :=
  (if power < 0 then ['-'] else if plusSigned then ['+'] else []) ++ decimalDigits power.natAbs

/-- With an exponent, the digits before the `e` are written out in full behind the first of
them. -/
theorem withExponent_eq_append {digits : List Char} (hne : digits ≠ []) (plusSigned : Bool)
    (power : ℤ) :
    Layout.withExponent plusSigned digits power =
      Layout.full false digits 1 ++ 'e' :: Layout.exponent plusSigned power := by
  match digits, hne with
  | [lead], _ => rfl
  | lead :: next :: more, _ => rfl

/-- With an explicit sign the exponent follows an operator. -/
theorem withExponent_eq {digits : List Char} (hne : digits ≠ []) (power : ℤ) :
    Layout.withExponent true digits power = Layout.full false digits 1 ++
      'e' :: (if power < 0 then Operator.minus else Operator.plus).symbol ::
        decimalDigits power.natAbs := by
  rw [withExponent_eq_append hne, Layout.exponent]
  split <;> rfl

/-- The digits of a natural number are a literal. -/
theorem exists_literal_decimalDigits (n : ℕ) : ∃ l : Literal, l.chars = decimalDigits n :=
  ⟨⟨⟨false, decimalDigits n, []⟩, Nat.toDigits_ne_nil, fun _ => isDigit_of_mem_decimalDigits,
    List.forall_mem_nil _⟩, rfl⟩

/-- A decimal is written out in full or with an exponent. -/
theorem Layout.decimal_cases (l : Layout) (d : Decimal) :
    l.decimal d = full l.pointed d.significant d.point ∨
      l.decimal d = withExponent l.plusSigned d.significant (d.point - 1) := by
  unfold decimal
  dsimp only
  split
  · exact .inl rfl
  · split
    · exact .inl rfl
    · exact .inr rfl

/-! ### The screen -/

/-- The screen writes a decimal out in full, or with an exponent that is not zero. -/
theorem screen_decimal_cases (d : Decimal) :
    Layout.screen.decimal d = Layout.full false d.significant d.point ∨
      d.point - 1 ≠ 0 ∧
        Layout.screen.decimal d = Layout.withExponent true d.significant (d.point - 1) := by
  by_cases hrange : -6 ≤ d.point - 1 ∧ d.point - 1 ≤ 20
  · exact Or.inl (if_pos hrange)
  · exact Or.inr ⟨by omega, if_neg hrange⟩

/-- A number other than zero is shown as its sign and its shortest decimal. -/
theorem screen_chars_finite (s : Bool) {m : ℕ} (hm : Format.binary64.Holds m) (hpos : 0 < m) :
    Layout.screen.chars (finite s m hm) =
      (if s then ['-'] else []) ++ Layout.screen.decimal (Decimal.shortest .binary64 m) := by
  have hne : m ≠ 0 := hpos.ne'
  simp [Layout.chars, Layout.magnitude, hne]

/-- A zero is shown without its sign. -/
theorem screen_chars_zero (s : Bool) (h : Format.binary64.Holds 0) :
    Layout.screen.chars (finite s 0 h) = ['0'] := by
  cases s <;> rfl

/-- What is shown of a finite number depends on its value alone. -/
theorem screen_text_congr {x y : Binary64} {k : ℤ} (hx : x.HasSteps k) (hy : y.HasSteps k) :
    Layout.screen.text x = Layout.screen.text y := by
  by_cases hk : k = 0
  · have hzero : ∀ z : Binary64, z.HasSteps k → Layout.screen.chars z = ['0'] := by
      intro z hz
      obtain ⟨s, m, hm, rfl, hsteps⟩ := hz.exists_finite
      obtain rfl : m = 0 := signed_eq_zero_iff.mp (hsteps.trans hk)
      exact screen_chars_zero s hm
    rw [Layout.text, Layout.text, hzero x hx, hzero y hy]
  · rw [hx.eq_of_ne_zero hy hk]

/-- **A number that is shown without an exponent is shown as a literal with its value.** -/
theorem exists_literal_screen {x : Binary64} (hx : x.isFinite = true)
    (hplain : 'e' ∉ Layout.screen.chars x) :
    ∃ l : Literal, l.chars = Layout.screen.chars x ∧ l.value.HasSteps x.toSteps := by
  obtain ⟨s, m, hm, rfl⟩ := exists_finite_of_isFinite hx
  rcases Nat.eq_zero_or_pos m with rfl | hpos
  · let zero : Literal := ⟨⟨false, ['0'], []⟩, nofun, List.forall_mem_singleton.mpr rfl, nofun⟩
    have hreads : zero.magnitude.readsAs .binary64 0 = true := by decide +kernel
    refine ⟨zero, (screen_chars_zero s hm).symm, ?_⟩
    rw [Numeral.value, Decimal.toNumber_of_readsAs hm hreads, toSteps_finite,
      signed_eq_zero_iff.mpr rfl]
    exact hasSteps_finite false hm
  rw [screen_chars_finite s hm hpos] at hplain ⊢
  have hdigits := Decimal.significant_ne_nil _ (Decimal.digits_shortest_pos hm.aligned hpos)
  rcases screen_decimal_cases (Decimal.shortest .binary64 m) with hfull | ⟨-, hexponent⟩
  · obtain ⟨l, hnegative, hunsigned, hvalue⟩ := exists_literal_full false hdigits
      (fun _ => Decimal.isDigit_of_mem_significant _) s (Decimal.shortest .binary64 m).point
    rw [← Decimal.toRat_significant] at hvalue
    refine ⟨l, by rw [Numeral.chars_eq_append, hnegative, hunsigned, hfull], ?_⟩
    rw [Numeral.value, Decimal.toNumber_congr hvalue, hnegative, Decimal.toNumber_shortest hm]
    exact hasSteps_finite s hm
  · refine absurd (List.mem_append_right _ ?_) hplain
    rw [hexponent, withExponent_eq hdigits]
    exact List.mem_append_right _ List.mem_cons_self

/-- A literal has no letters. -/
theorem letter_not_mem_chars (l : Literal) : 'e' ∉ l.chars := by
  rw [Numeral.chars_eq_append, List.mem_append, not_or]
  constructor
  · split <;> decide
  · intro h
    rcases l.isDigit_or_point_of_mem_unsigned h with hdigit | hpoint
    · exact absurd hdigit (by decide)
    · exact absurd hpoint (by decide)

/-- A number that is shown with an exponent is shown as two literals with a letter and an additive
operator between them. -/
theorem exists_literals_screen {x : Binary64} (hx : x.isFinite = true)
    (hexponent : 'e' ∈ Layout.screen.chars x) :
    ∃ (mantissa power : Literal) (op : Operator), (op = .plus ∨ op = .minus) ∧
      Layout.screen.chars x = mantissa.chars ++ 'e' :: op.symbol :: power.chars := by
  obtain ⟨s, m, hm, rfl⟩ := exists_finite_of_isFinite hx
  rcases Nat.eq_zero_or_pos m with rfl | hpos
  · rw [screen_chars_zero s hm] at hexponent
    exact absurd hexponent (by decide)
  rw [screen_chars_finite s hm hpos] at hexponent ⊢
  have hdigits := Decimal.significant_ne_nil _ (Decimal.digits_shortest_pos hm.aligned hpos)
  have hall : ∀ c ∈ (Decimal.shortest .binary64 m).significant, c.isDigit = true :=
    fun _ => Decimal.isDigit_of_mem_significant _
  rcases screen_decimal_cases (Decimal.shortest .binary64 m) with hfull | ⟨-, hshown⟩
  · obtain ⟨l, hnegative, hunsigned, -⟩ := exists_literal_full false hdigits hall s
      (Decimal.shortest .binary64 m).point
    refine absurd ?_ (letter_not_mem_chars l)
    rwa [Numeral.chars_eq_append, hnegative, hunsigned, ← hfull]
  · obtain ⟨mantissa, hnegative, hunsigned, -⟩ := exists_literal_full false hdigits hall s 1
    obtain ⟨power, hpower⟩ :=
      exists_literal_decimalDigits ((Decimal.shortest .binary64 m).point - 1).natAbs
    refine ⟨mantissa, power,
      if (Decimal.shortest .binary64 m).point - 1 < 0 then .minus else .plus, ?_, ?_⟩
    · split
      · exact Or.inr rfl
      · exact Or.inl rfl
    · rw [hshown, withExponent_eq hdigits, Numeral.chars_eq_append mantissa.toNumeral, hnegative,
        hunsigned, hpower, List.append_assoc]

end PocketCalculator
