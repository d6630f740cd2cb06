import Mathlib.Data.Finset.Lattice.Fold
import Mathlib.Data.List.Infix
import Mathlib.Order.Lattice.Nat
import PocketCalculator.Proofs.Postfix.Stack

/-!
# Missing operands

How many operands a postfix list lacks can be read off the list without evaluating it. A number adds
a value to the stack and any other token takes two and adds one, so a token finds on the stack the
numbers before it less the other tokens before it, if nothing has been missing so far
(`Token.surplus`). What it lacks is made up for by NaN, and what was made up for stays on the stack
and serves the tokens that follow. So the shortages do not add up: the shortage of a list is the
largest shortage at any of its tokens (`Token.shortage`).

* **`length_values_foldl`**: the stack is as high as the surplus and the shortage together;
* **`journal_foldl`**: there is one report for each missing operand, and no other;
* **`shortage_eq_zero_iff`**: nothing is missing exactly if every token finds its two operands.
-/

namespace PocketCalculator

namespace Token

/-! ### Counting tokens -/

/-- The numbers of a list less its other tokens. -/
def surplus (tokens : List Token) : ℤ :=
  tokens.countP (·.isNumber) - tokens.countP (!·.isNumber)

/-- Whether a position of a list holds a token that takes operands. -/
def takesOperands (tokens : List Token) (i : ℕ) : Bool := tokens[i]?.any (!·.isNumber)

/-- The number of operands that a list lacks: two less the surplus of the tokens before, at the
position of a token that takes operands where this is most; none if it is positive nowhere. -/
def shortage (tokens : List Token) : ℕ :=
  ((Finset.range tokens.length).filter fun i => takesOperands tokens i).sup fun i =>
    (2 - surplus (tokens.take i)).toNat

/-- A number adds one to the surplus, and any other token takes one away. -/
theorem surplus_concat (tokens : List Token) (token : Token) :
    surplus (tokens ++ [token]) = surplus tokens + if token.isNumber then 1 else -1 := by
  cases h : token.isNumber <;> simp [surplus, List.countP_append, h] <;> omega

/-- One token more asks for its own operands, if it takes any. -/
theorem shortage_concat (tokens : List Token) (token : Token) :
    shortage (tokens ++ [token]) =
      if token.isNumber then shortage tokens
      else max (2 - surplus tokens).toNat (shortage tokens) := by
  have hearlier :
      ((Finset.range tokens.length).filter fun i => takesOperands (tokens ++ [token]) i).sup
        (fun i => (2 - surplus ((tokens ++ [token]).take i)).toNat) = shortage tokens := by
    refine Finset.sup_congr (Finset.filter_congr fun i hi => ?_) fun i hi => ?_
    · rw [takesOperands, takesOperands, List.getElem?_append_left (Finset.mem_range.mp hi)]
    · have hlt := Finset.mem_range.mp (Finset.mem_filter.mp hi).1
      rw [List.take_append_of_le_length hlt.le]
  have hlast : takesOperands (tokens ++ [token]) tokens.length = !token.isNumber := by
    simp [takesOperands]
  rw [shortage, List.length_append, List.length_singleton, Finset.range_add_one,
    Finset.filter_insert, hlast]
  cases token.isNumber with
  | true => simpa using hearlier
  | false => simpa using congrArg (max (2 - surplus tokens).toNat) hearlier

end Token

namespace ValueStack

open Token

/-! ### The evaluation -/

/-- The stack is as high as the surplus and the shortage of the tokens together. -/
theorem length_values_foldl (tokens : List Token) :
    ((tokens.foldl step {}).values.length : ℤ) = surplus tokens + shortage tokens := by
  induction tokens using List.reverseRecOn with
  | nil => rfl
  | append_singleton tokens token ih =>
      rw [List.foldl_append, List.foldl_cons, List.foldl_nil, surplus_concat, shortage_concat]
      cases hnumber : token.isNumber with
      | true =>
          obtain ⟨text, value, rfl⟩ := exists_of_isNumber hnumber
          rw [values_step_number, List.length_cons]
          simp only [if_true]
          omega
      | false =>
          rw [values_step _ hnumber, List.length_cons, List.length_tail, List.length_tail]
          simp only [Bool.false_eq_true, if_false]
          omega

/-- The reports are those of the missing operands. -/
theorem journal_foldl (tokens : List Token) :
    (tokens.foldl step {}).journal = List.replicate (shortage tokens) .missingOperand := by
  induction tokens using List.reverseRecOn with
  | nil => rfl
  | append_singleton tokens token ih =>
      have hlength := length_values_foldl tokens
      rw [List.foldl_append, List.foldl_cons, List.foldl_nil, shortage_concat]
      cases hnumber : token.isNumber with
      | true =>
          obtain ⟨text, value, rfl⟩ := exists_of_isNumber hnumber
          rw [journal_step_number]
          exact ih
      | false =>
          rw [journal_step _ hnumber, ih, List.replicate_append_replicate]
          simp only [Bool.false_eq_true, if_false]
          congr 1
          omega

/-- The first operator lacks two operands, the second one more: what the first has made is there. -/
example : shortage [.operation .plus, .operation .plus] = 3 := by decide

/-- Nothing is missing exactly if every token that takes operands finds two values. -/
theorem shortage_eq_zero_iff (tokens : List Token) :
    shortage tokens = 0 ↔ ∀ before token after, tokens = before ++ token :: after →
      token.isNumber = false → 2 ≤ (before.foldl step {}).values.length := by
  constructor
  · rintro hzero before token after rfl hnumber
    have hlength := length_values_foldl before
    have hposition : before.length ∈ (Finset.range (before ++ token :: after).length).filter
        fun i => takesOperands (before ++ token :: after) i := by
      simp [takesOperands, hnumber]
    have hle := Finset.le_sup (f := fun i =>
      (2 - surplus ((before ++ token :: after).take i)).toNat) hposition
    rw [← shortage, hzero, List.take_left] at hle
    omega
  · intro hfound
    induction tokens using List.reverseRecOn with
    | nil => rfl
    | append_singleton tokens token ih =>
        have hzero := ih fun before next after hsplit =>
          hfound before next (after ++ [token]) (by rw [hsplit]; simp)
        rw [shortage_concat, hzero]
        cases hnumber : token.isNumber with
        | true => rfl
        | false =>
            have htwo := hfound tokens token [] rfl hnumber
            have hlength := length_values_foldl tokens
            simp only [Bool.false_eq_true, if_false]
            omega

end ValueStack

end PocketCalculator
