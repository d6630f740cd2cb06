import PocketCalculator.Proofs.Postfix.Frame
import PocketCalculator.Proofs.Postfix.Stack

/-!
# What a conversion keeps

The conversion moves tokens, and it drops some: malformed literals, closing brackets, and opening
brackets together with their partners. Everything else is in the postfix order exactly once.

What a state would put out if no token followed, its `result`, is what each token acts upon. A token
is taken in at some place of it, or changes nothing, or takes a bracket out (`result_step`). This
decides the operators and the length; numbers are put out at once and so keep their order
(`numbers_step`); and brackets that are put out at all have been waiting to the end, because
`Converter.Settled` holds of all that has been put out earlier.

* **`ofTokens_conserves`**: the numbers, the operators and the brackets of the postfix order.
-/

namespace PocketCalculator

open Brackets (unclosed)

namespace Token

/-- The operator that a token is. -/
def operator? : Token → Option Operator
  | .operation op => some op
  | _ => none

/-- The operators of a list of tokens, in their order. -/
def operators (tokens : List Token) : List Operator := tokens.filterMap operator?

/-- The numbers of a list of tokens, in their order. -/
def numbers (tokens : List Token) : List Token := tokens.filter isNumber

/-- The operator of a token, if it is one, and those of the rest. -/
@[simp] theorem operators_cons (token : Token) (tokens : List Token) :
    operators (token :: tokens) = token.operator?.toList ++ operators tokens := by
  cases token <;> rfl

/-- The numbers of two lists are put together like the lists, -/
@[simp] theorem numbers_append (first second : List Token) :
    numbers (first ++ second) = numbers first ++ numbers second := List.filter_append _ _

/-- and reversed like a list. -/
@[simp] theorem numbers_reverse (tokens : List Token) :
    numbers tokens.reverse = (numbers tokens).reverse := List.filter_reverse

/-- What waits on the stack is not a number. -/
@[simp] theorem numbers_map_token (stack : List Pending) :
    numbers (stack.map Pending.token) = [] := by
  rw [numbers, List.filter_eq_nil_iff]
  intro token htoken
  obtain ⟨entry, -, rfl⟩ := List.mem_map.mp htoken
  cases entry <;> exact Bool.false_ne_true

/-- The brackets of a stack are those that wait in it. -/
theorem count_brackets_map_token (stack : List Pending) :
    (brackets (stack.map Pending.token)).count .opening = stack.count .bracket := by
  induction stack with
  | nil => rfl
  | cons entry stack ih => cases entry <;> simpa [Pending.token, bracket?] using ih

end Token

namespace Converter

open Token (numbers operators brackets)

variable {c : Converter}

/-! ### The result, token by token -/

/-- What leaves the stack is put out in the same order, now or later. -/
theorem result_unwind (c : Converter) (leaves : Pending → Bool) :
    (c.unwind leaves).result = c.result := by
  simp only [result, unwind, List.reverse_append, List.reverse_reverse, List.append_assoc]
  rw [← List.map_append, List.takeWhile_append_dropWhile]

/-- What enters the stack is one token more. -/
theorem result_push (c : Converter) (entry : Pending) :
    (c.push entry).result.Perm (entry.token :: c.result) := List.perm_middle

/-- A token is taken in, or changes nothing, or takes a bracket out; an operator is taken in. -/
theorem result_step (c : Converter) (token : Token) :
    (c.step token).result.Perm (token :: c.result) ∨
      token.operator? = none ∧ ((c.step token).result = c.result ∨
        c.result.Perm (.openBracket :: (c.step token).result)) := by
  cases token with
  | number text value =>
      left
      simp [step, result]
  | malformed text => exact .inr ⟨rfl, .inl rfl⟩
  | operation op =>
      left
      have hpush := (c.unwind (Pending.yieldsTo op)).result_push (.operation op)
      rwa [result_unwind] at hpush
  | openBracket => exact .inl (c.result_push .bracket)
  | closeBracket =>
      refine .inr ⟨rfl, ?_⟩
      rw [← c.result_unwind (· != .bracket)]
      rcases c.stack_unwind_bracket with ⟨hstack, -⟩ | ⟨below, hstack⟩
      · left
        simp [step, drop, result, hstack]
      · right
        simp only [step, drop, result, hstack, List.tail_cons, List.map_cons]
        exact List.perm_middle

/-- A step takes in the operator that the token is, and loses none. -/
theorem operators_step (c : Converter) (token : Token) :
    (operators (c.step token).result).Perm (token.operator?.toList ++ operators c.result) := by
  rcases c.result_step token with htaken | ⟨hnone, hsame | hlost⟩
  · rw [← Token.operators_cons]
    exact htaken.filterMap Token.operator?
  · rw [hsame, hnone]
    exact .refl _
  · rw [hnone]
    exact (hlost.filterMap Token.operator?).symm

/-- A step takes in one token at most. -/
theorem length_result_step (c : Converter) (token : Token) :
    (c.step token).result.length ≤ c.result.length + 1 := by
  rcases c.result_step token with htaken | ⟨-, hsame | hlost⟩
  · exact Nat.le_of_eq htaken.length_eq
  · rw [hsame]
    exact Nat.le_succ _
  · rw [hlost.length_eq, List.length_cons]
    omega

/-- A number is put out at once. -/
theorem numbers_step (c : Converter) (token : Token) :
    numbers (c.step token).output = numbers [token] ++ numbers c.output := by
  have hunwind : ∀ leaves, numbers (c.unwind leaves).output = numbers c.output := by
    intro leaves
    simp [unwind]
  cases token with
  | number text value => rfl
  | malformed text => rfl
  | operation op => exact hunwind _
  | openBracket => rfl
  | closeBracket => exact hunwind _

/-! ### What has been put out -/

/-- Only numbers and operators have been put out. -/
def Settled (c : Converter) : Prop :=
  ∀ token ∈ c.output, token.isNumber = true ∨ token.isOperator = true

/-- Nothing has been put out at the beginning. -/
theorem settled_init : Settled {} := fun _ h => absurd h List.not_mem_nil

/-- What leaves the stack without its brackets are operators. -/
theorem Settled.unwind (h : c.Settled) (leaves : Pending → Bool)
    (hstays : leaves .bracket = false) : (c.unwind leaves).Settled := by
  intro token htoken
  simp only [Converter.unwind, List.mem_append, List.mem_reverse, List.mem_map] at htoken
  rcases htoken with ⟨entry, hentry, rfl⟩ | hout
  · cases entry with
    | operation op => exact .inr rfl
    | bracket =>
        have hleaves := List.mem_takeWhile_imp hentry
        rw [hstays] at hleaves
        cases hleaves
  · exact h token hout

/-- No step puts out anything but numbers and operators. -/
theorem Settled.step (h : c.Settled) (token : Token) : (c.step token).Settled := by
  cases token with
  | number text value =>
      intro other hother
      rcases List.mem_cons.mp hother with rfl | hother
      · exact .inl rfl
      · exact h other hother
  | malformed text => exact h
  | operation op => exact h.unwind (Pending.yieldsTo op) rfl
  | openBracket => exact h
  | closeBracket => exact h.unwind (· != .bracket) rfl

/-- The brackets of the result are those that wait. -/
theorem Settled.count_brackets_result (h : c.Settled) :
    (brackets c.result).count .opening = c.openBrackets := by
  have hnone : brackets c.output.reverse = [] := by
    rw [brackets, List.filterMap_eq_nil_iff]
    intro token htoken
    have hkind := h token (List.mem_reverse.mp htoken)
    cases token <;> first | rfl | simp [Token.isNumber, Token.isOperator] at hkind
  rw [result, Token.brackets_append, hnone, List.nil_append, Token.count_brackets_map_token,
    openBrackets]

/-- The result has numbers, operators and opening brackets. -/
theorem Settled.kind_of_mem_result (h : c.Settled) {token : Token} (hmem : token ∈ c.result) :
    token.isNumber = true ∨ token.isOperator = true ∨ token = .openBracket := by
  rcases List.mem_append.mp hmem with hout | hwaits
  · exact (h token (List.mem_reverse.mp hout)).imp_right .inl
  · obtain ⟨entry, -, rfl⟩ := List.mem_map.mp hwaits
    cases entry with
    | operation op => exact .inr (.inl rfl)
    | bracket => exact .inr (.inr rfl)

/-! ### Whole runs -/

/-- A run takes in the operators of its tokens, and loses none. -/
theorem operators_foldl (c : Converter) (tokens : List Token) :
    (operators (tokens.foldl Converter.step c).result).Perm
      (operators tokens ++ operators c.result) := by
  induction tokens generalizing c with
  | nil => exact .refl _
  | cons token tokens ih =>
      refine (ih (c.step token)).trans ?_
      rw [Token.operators_cons, List.append_assoc]
      exact ((c.operators_step token).append_left _).trans (List.perm_append_comm_assoc _ _ _)

/-- A run puts out its numbers in their order. -/
theorem numbers_foldl (c : Converter) (tokens : List Token) :
    numbers (tokens.foldl Converter.step c).output =
      (numbers tokens).reverse ++ numbers c.output := by
  induction tokens generalizing c with
  | nil => rfl
  | cons token tokens ih =>
      rw [List.foldl_cons, ih, numbers_step, ← List.append_assoc]
      congr 1
      cases htoken : token.isNumber <;> simp [numbers, htoken]

/-- A run takes in no more tokens than it has. -/
theorem length_result_foldl (c : Converter) (tokens : List Token) :
    (tokens.foldl Converter.step c).result.length ≤ c.result.length + tokens.length := by
  induction tokens generalizing c with
  | nil => exact Nat.le_refl _
  | cons token tokens ih =>
      have hstep := c.length_result_step token
      have hrest := ih (c.step token)
      rw [List.foldl_cons, List.length_cons]
      omega

/-- No run puts out anything but numbers and operators. -/
theorem Settled.foldl (h : c.Settled) (tokens : List Token) :
    (tokens.foldl Converter.step c).Settled := by
  induction tokens generalizing c with
  | nil => exact h
  | cons token tokens ih => exact ih (h.step token)

/-- The numbers of a result are those that have been put out. -/
theorem numbers_result (c : Converter) : numbers c.result = (numbers c.output).reverse := by
  simp [result]

end Converter

/-- **The conversion loses and doubles nothing.** On every list of tokens the postfix order has the
same numbers in the same order, every operator as often, no closing bracket and no malformed
literal, and as many opening brackets as have no partner. So it is no longer than the list. -/
theorem ofTokens_conserves (tokens : List Token) :
    let rpn := (Postfix.ofTokens tokens).value
    Token.numbers rpn = Token.numbers tokens ∧
      (∀ op, (Token.operators rpn).count op = (Token.operators tokens).count op) ∧
      .closeBracket ∉ rpn ∧ (∀ text, .malformed text ∉ rpn) ∧
      (Token.brackets rpn).count .opening = unclosed (Token.brackets tokens) ∧
      rpn.length ≤ tokens.length := by
  intro rpn
  have hrpn : rpn = (tokens.foldl Converter.step {}).result := value_ofTokens tokens
  have hsettled := Converter.settled_init.foldl tokens
  rw [hrpn]
  refine ⟨?_, fun op => ?_, fun hmem => ?_, fun text hmem => ?_, ?_, ?_⟩
  · rw [Converter.numbers_result, Converter.numbers_foldl]
    simp [Token.numbers]
  · simpa [Converter.result, Token.operators] using
      (Converter.operators_foldl {} tokens).count_eq op
  · simpa [Token.isNumber, Token.isOperator] using hsettled.kind_of_mem_result hmem
  · simpa [Token.isNumber, Token.isOperator] using hsettled.kind_of_mem_result hmem
  · rw [hsettled.count_brackets_result, Converter.openBrackets_expression]
  · simpa [Converter.result] using Converter.length_result_foldl {} tokens

end PocketCalculator
