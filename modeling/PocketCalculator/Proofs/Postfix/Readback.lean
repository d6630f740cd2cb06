import PocketCalculator.Proofs.Postfix.Stack

/-!
# Reading a postfix list from its right end

The value of a postfix list is computed from the left on a stack. It can also be read from the
right: the last token of an expression says whether operands stand before it, the right one next to
it and the left one before that. `readBack` reads so, and it is total: where the list ends too early
the operand is NaN, and tokens that no reading reaches stay in the list.

The stack of a list holds the readings of that list, one after another, and this is the invariant of
the evaluation (`Stacked`). A missing operand keeps it, because NaN is read from the empty list and
nothing is taken away, just as NaN is taken from an empty stack.

* **`value_eq_readBack`**: the value of a list is its first reading, on every list of tokens.
-/

namespace PocketCalculator

open Binary

/-- What a token makes of its operands: a sum, a difference, a quotient, and otherwise a product. -/
def Token.joining : Token → Binary64 → Binary64 → Binary64
  | .operation .plus, left, right => left + right
  | .operation .minus, left, right => left - right
  | .operation .divide, left, right => left / right
  | _, left, right => left * right

/-- The evaluation joins operands alike. -/
theorem Token.combine_eq_joining (token : Token) : token.combine = token.joining := by
  cases token with
  | operation op => cases op <;> rfl
  | _ => rfl

namespace Postfix

/-! ### Readings -/

/-- What is read from the right end of a list: a value, and the tokens that remain. -/
structure Reading (tokens : List Token) where
  value : Binary64
  rest : List Token
  /-- A reading adds no tokens. -/
  length_le : rest.length ≤ tokens.length

/-- Reads a list from its right end; the list is given with its last token first. The right operand
is read before the left one, and the left one from what then remains. -/
def readBack : (tokens : List Token) → Reading tokens
  | [] => ⟨.nan, [], Nat.le_refl 0⟩
  | .number _ value :: rest => ⟨value, rest, Nat.le_succ _⟩
  | token :: rest =>
      let right := readBack rest
      let left := readBack right.rest
      ⟨token.joining left.value right.value, left.rest,
        Nat.le_succ_of_le (Nat.le_trans left.length_le right.length_le)⟩
termination_by tokens => tokens.length
decreasing_by
  · exact Nat.lt_succ_self _
  · exact Nat.lt_succ_of_le right.length_le

/-- Where nothing is left to read, the operand is missing: it is NaN. -/
@[simp] theorem readBack_nil : readBack [] = ⟨.nan, [], Nat.le_refl 0⟩ := by rw [readBack]

/-- A number is read as itself. -/
@[simp] theorem readBack_number (text : String) (value : Binary64) (rest : List Token) :
    readBack (.number text value :: rest) = ⟨value, rest, Nat.le_succ _⟩ := by rw [readBack]

variable {token : Token} {tokens : List Token} {values : List Binary64}

/-- A token that is not a number joins its operands, -/
theorem value_readBack_cons (h : token.isNumber = false) (rest : List Token) :
    (readBack (token :: rest)).value =
      token.joining (readBack (readBack rest).rest).value (readBack rest).value := by
  rw [readBack]
  rintro text value rfl
  contradiction

/-- and leaves what they leave. -/
theorem rest_readBack_cons (h : token.isNumber = false) (rest : List Token) :
    (readBack (token :: rest)).rest = (readBack (readBack rest).rest).rest := by
  rw [readBack]
  rintro text value rfl
  contradiction

/-! ### The stack holds readings -/

/-- The values are the readings of a list, one after another, until nothing is left of it. -/
inductive Stacked : List Token → List Binary64 → Prop
  | nil : Stacked [] []
  | cons {tokens : List Token} {values : List Binary64}
      (rest : Stacked (readBack tokens).rest values) :
      Stacked tokens ((readBack tokens).value :: values)

/-- The top of the stack is the first reading, also if the stack is empty, -/
theorem Stacked.head_eq (h : Stacked tokens values) :
    values.headD .nan = (readBack tokens).value := by
  cases h with
  | nil => rw [readBack_nil, List.headD_nil]
  | cons rest => rfl

/-- and below it the stack holds the readings of what remains. -/
theorem Stacked.tail (h : Stacked tokens values) : Stacked (readBack tokens).rest values.tail := by
  cases h with
  | nil =>
      rw [readBack_nil]
      exact .nil
  | cons rest => exact rest

/-- A step of the evaluation keeps the stack in line with the readings of the tokens seen. -/
theorem Stacked.step {s : ValueStack} (h : Stacked tokens s.values) (token : Token) :
    Stacked (token :: tokens) (s.step token).values := by
  cases hnumber : token.isNumber with
  | true =>
      obtain ⟨text, value, rfl⟩ := Token.exists_of_isNumber hnumber
      have hrest : Stacked (readBack (.number text value :: tokens)).rest s.values := by
        rw [readBack_number]
        exact h
      have hread := Stacked.cons hrest
      rwa [readBack_number] at hread
  | false =>
      have hvalue := value_readBack_cons hnumber tokens
      have hrest := rest_readBack_cons hnumber tokens
      rw [ValueStack.values_step s hnumber, h.head_eq, h.tail.head_eq, token.combine_eq_joining,
        ← hvalue]
      refine .cons ?_
      rw [hrest]
      exact h.tail.tail

/-- So does a whole run. -/
theorem Stacked.foldl {seen : List Token} {s : ValueStack} (h : Stacked seen s.values)
    (tokens : List Token) :
    Stacked (tokens.reverse ++ seen) (tokens.foldl ValueStack.step s).values := by
  induction tokens generalizing seen s with
  | nil => exact h
  | cons token tokens ih =>
      rw [List.reverse_cons, List.append_assoc]
      exact ih (h.step token)

/-- **The value of a list is read from its right end.** This holds of every list of tokens, also
where operands are missing or left over, and where brackets or malformed literals stand in it. -/
theorem value_eq_readBack (tokens : List Token) :
    (Postfix.value tokens).value = (readBack tokens.reverse).value := by
  have hstacked := Stacked.nil.foldl (s := {}) tokens
  rw [List.append_nil] at hstacked
  exact hstacked.head_eq

end Postfix

end PocketCalculator
