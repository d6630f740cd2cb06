import Mathlib.Data.List.TakeWhile
import PocketCalculator.Proofs.Expression.Tree

/-!
# Literals

A `Literal` is a numeral that carries the proof that it is one: at least one digit before the point,
and digits only. Its characters are an optional minus sign, the digits before the point and, if
there are any, a point and the digits after it (`Numeral.chars`).

* **`read?_chars`**: the characters of a literal are read as that literal, so they become a token
  with its value (`ofLiteral_chars`).
-/

namespace PocketCalculator

open Binary

namespace Numeral

/-- The characters of a numeral after its sign. -/
def unsigned (n : Numeral) : List Char :=
  if n.fraction = [] then n.whole else n.whole ++ '.' :: n.fraction

/-- The characters of a numeral. -/
def chars (n : Numeral) : List Char := if n.negative then '-' :: n.unsigned else n.unsigned

end Numeral

/-- A numeral as the calculator reads it: digits, and possibly a point followed by digits. -/
structure Literal extends Numeral where
  whole_ne_nil : whole ≠ []
  whole_digits : ∀ c ∈ whole, c.isDigit = true
  fraction_digits : ∀ c ∈ fraction, c.isDigit = true

namespace Literal

/-- The operand that a literal stands for. -/
def operand (l : Literal) : Operand := ⟨String.ofList l.chars, l.value⟩

/-- The characters of a literal with a gap after its sign, if it has one. -/
def spaced (l : Literal) (gap : List Char) : List Char :=
  if l.negative then '-' :: (gap ++ l.unsigned) else l.unsigned

/-- The characters after the sign are digits and points. -/
theorem isDigit_or_point_of_mem_unsigned (l : Literal) {c : Char} (h : c ∈ l.unsigned) :
    c.isDigit = true ∨ c = '.' := by
  unfold Numeral.unsigned at h
  split at h
  · exact Or.inl (l.whole_digits c h)
  · rcases List.mem_append.mp h with hw | hf
    · exact Or.inl (l.whole_digits c hw)
    · rcases List.mem_cons.mp hf with rfl | hf
      · exact Or.inr rfl
      · exact Or.inl (l.fraction_digits c hf)

/-- There is at least one character after the sign. -/
theorem unsigned_ne_nil (l : Literal) : l.unsigned ≠ [] := by
  unfold Numeral.unsigned
  split
  · exact l.whole_ne_nil
  · simp

/-- The characters after the sign are read as the numeral. -/
theorem readUnsigned?_unsigned (l : Literal) :
    Numeral.readUnsigned? l.negative l.unsigned = some l.toNumeral := by
  have hempty : l.whole.isEmpty = false := by simpa using l.whole_ne_nil
  unfold Numeral.unsigned
  split
  case isTrue hf =>
    have htake : l.whole.takeWhile Char.isDigit = l.whole :=
      List.takeWhile_eq_self_iff.mpr l.whole_digits
    have hdrop : l.whole.dropWhile Char.isDigit = [] :=
      List.dropWhile_eq_nil_iff.mpr l.whole_digits
    have hself : l.toNumeral = ⟨l.negative, l.whole, []⟩ := by rw [← hf]
    simp only [Numeral.readUnsigned?, htake, hdrop, hempty, Bool.false_eq_true, if_false]
    exact congrArg some hself.symm
  case isFalse hf =>
    have htake : (l.whole ++ '.' :: l.fraction).takeWhile Char.isDigit = l.whole := by
      rw [List.takeWhile_append_of_pos l.whole_digits, List.takeWhile_cons_of_neg (by decide),
        List.append_nil]
    have hdrop : (l.whole ++ '.' :: l.fraction).dropWhile Char.isDigit = '.' :: l.fraction := by
      rw [List.dropWhile_append_of_pos l.whole_digits, List.dropWhile_cons_of_neg (by decide)]
    have hall : l.fraction.all Char.isDigit = true := List.all_eq_true.mpr l.fraction_digits
    simp [Numeral.readUnsigned?, htake, hdrop, hempty, hf, hall]

/-- The characters after the sign do not begin with a sign. -/
theorem head?_unsigned_ne (l : Literal) (text : List Char) : l.unsigned ≠ '-' :: text := by
  intro h
  rcases l.isDigit_or_point_of_mem_unsigned (c := '-') (by simp [h]) with hc | hc <;>
    exact absurd hc (by decide)

/-- The characters of a literal are read as that literal. -/
theorem read?_chars (l : Literal) : Numeral.read? l.chars = some l.toNumeral := by
  have h := l.readUnsigned?_unsigned
  unfold Numeral.chars
  cases hneg : l.negative with
  | true => rwa [hneg] at h
  | false =>
      rw [hneg] at h
      simp only [Bool.false_eq_true, if_false]
      rw [← h, Numeral.read?.eq_2 _ fun text htext => l.head?_unsigned_ne text htext]

/-- Literals with the same characters are the same numeral. -/
theorem toNumeral_eq_of_chars_eq {l l' : Literal} (h : l.chars = l'.chars) :
    l.toNumeral = l'.toNumeral := by
  refine Option.some.inj ?_
  rw [← l.read?_chars, ← l'.read?_chars, h]

/-- Whatever is read after a sign is a literal. -/
theorem exists_of_readUnsigned? {negative : Bool} {text : List Char} {n : Numeral}
    (h : Numeral.readUnsigned? negative text = some n) :
    ∃ l : Literal, l.toNumeral = n ∧ l.negative = negative ∧ l.unsigned = text := by
  have hdigits : ∀ c ∈ text.takeWhile Char.isDigit, c.isDigit = true :=
    fun c hc => List.mem_takeWhile_imp hc
  have hsplit := text.takeWhile_append_dropWhile (p := Char.isDigit)
  unfold Numeral.readUnsigned? at h
  by_cases hempty : (text.takeWhile Char.isDigit).isEmpty = true
  · simp [hempty] at h
  have hwhole : text.takeWhile Char.isDigit ≠ [] := by simpa using hempty
  rw [if_neg hempty] at h
  cases hrest : text.dropWhile Char.isDigit with
  | nil =>
      rw [hrest, Option.some.injEq] at h
      rw [hrest, List.append_nil] at hsplit
      subst h
      exact ⟨⟨_, hwhole, hdigits, by simp⟩, rfl, rfl, by simpa [Numeral.unsigned] using hsplit⟩
  | cons point fraction =>
      rw [hrest] at h hsplit
      dsimp only at h
      by_cases hfraction : point = '.' ∧ fraction ≠ [] ∧ fraction.all Char.isDigit = true
      · rw [if_pos hfraction, Option.some.injEq] at h
        obtain ⟨rfl, hne, hall⟩ := hfraction
        subst h
        exact ⟨⟨_, hwhole, hdigits, List.all_eq_true.mp hall⟩, rfl, rfl,
          by simpa [Numeral.unsigned, hne] using hsplit⟩
      · rw [if_neg hfraction] at h
        cases h

/-- Whatever is read as a numeral is a literal. -/
theorem exists_of_read? {text : List Char} {n : Numeral} (h : Numeral.read? text = some n) :
    ∃ l : Literal, l.toNumeral = n ∧ l.chars = text := by
  unfold Numeral.read? at h
  split at h
  case h_1 text =>
    obtain ⟨l, hl, hneg, hunsigned⟩ := exists_of_readUnsigned? h
    exact ⟨l, hl, by rw [Numeral.chars, if_pos hneg, hunsigned]⟩
  case h_2 text _ =>
    obtain ⟨l, hl, hneg, hunsigned⟩ := exists_of_readUnsigned? h
    exact ⟨l, hl, by rw [Numeral.chars, if_neg (by simp [hneg]), hunsigned]⟩

/-- The characters of a literal become the token of its operand. -/
theorem ofLiteral_chars (l : Literal) : Token.ofLiteral l.chars = l.operand.token := by
  simp only [Token.ofLiteral, l.read?_chars, operand, Operand.token]

end Literal

end PocketCalculator
