import Mathlib.Data.List.Chain
import PocketCalculator.Proofs.Postfix.Frame

/-!
# How high the stack gets

An operator enters the stack after all that do not bind less have left it. So between two brackets,
and above and below all of them, every operator binds tighter than the one it waits on
(`Converter.Ranked`). This is kept by each token (`Ranked.step`), with no condition on the
expression.

Operators have two priorities, so at most two of them wait at each level of brackets, and how high
the stack gets is a matter of the open brackets alone, not of the length of the expression
(`length_lt_of_isChain`).

* **`stack_foldl`**: the entries of the stack, their order, their number at each level and in all.
* `exists_stack_length_eq`: the bound is reached, with any number of open brackets.
-/

namespace PocketCalculator

open Brackets (unclosed)

namespace Operator

/-- Every operator has a priority of at least one, -/
theorem priority_pos (op : Operator) : 0 < op.priority := by cases op <;> decide

/-- and of at most two. -/
theorem priority_le_two (op : Operator) : op.priority ≤ 2 := by cases op <;> decide

/-- The first operator binds tighter than the second. -/
def BindsTighter (upper lower : Operator) : Prop := lower.priority < upper.priority

instance : Trans BindsTighter BindsTighter BindsTighter where
  trans hupper hlower := Nat.lt_trans hlower hupper

/-- Only a multiplicative operator binds tighter than another one, and that one is additive. -/
theorem BindsTighter.kinds {upper lower : Operator} (h : upper.BindsTighter lower) :
    (upper = .times ∨ upper = .divide) ∧ (lower = .plus ∨ lower = .minus) := by
  cases upper <;> cases lower <;> simp [BindsTighter, priority] at h ⊢

/-- Operators each of which binds tighter than those after it are at most two. -/
theorem length_le_two_of_pairwise {level : List Operator} (h : level.Pairwise BindsTighter) :
    level.length ≤ 2 := by
  match level, h with
  | [], _ | [_], _ | [_, _], _ => simp
  | first :: second :: third :: rest, h =>
      exfalso
      obtain ⟨hfirst, hrest⟩ := List.pairwise_cons.mp h
      have hupper : second.priority < first.priority := hfirst second (by simp)
      have hlower : third.priority < second.priority :=
        (List.pairwise_cons.mp hrest).1 third (by simp)
      have hmost := first.priority_le_two
      have hleast := third.priority_pos
      omega

end Operator

/-- An entry may wait directly on another one: of two operators, the upper one binds tighter. -/
def Pending.Outranks : Pending → Pending → Prop
  | .operation upper, .operation lower => upper.BindsTighter lower
  | _, _ => True

namespace Converter

open Pending (Outranks)

variable {c : Converter} {op : Operator} {stack : List Pending}

/-! ### The order on the stack -/

/-- Every operator binds tighter than the one that it waits on, if it waits on an operator. -/
def Ranked (c : Converter) : Prop := c.stack.IsChain Outranks

/-- The empty stack is in order. -/
theorem ranked_init : Ranked {} := List.isChain_nil

/-- An operator may wait on a stack in order that is clear for it, -/
theorem isChain_operation_cons :
    (Pending.operation op :: stack).IsChain Outranks ↔
      Clear op.priority stack ∧ stack.IsChain Outranks := by
  rw [List.isChain_cons]
  refine and_congr_left fun _ => ⟨fun h top htop => h _ htop, fun h entry hentry => ?_⟩
  cases entry with
  | operation top => exact h top hentry
  | bracket => trivial

/-- and a bracket on any stack in order. -/
theorem isChain_bracket_cons :
    (Pending.bracket :: stack).IsChain Outranks ↔ stack.IsChain Outranks := by
  rw [List.isChain_cons]
  exact and_iff_right fun _ _ => trivial

/-- What an operator leaves on the stack is clear for it. -/
theorem clear_dropWhile (op : Operator) (stack : List Pending) :
    Clear op.priority (stack.dropWhile (Pending.yieldsTo op)) := by
  intro top htop
  have hstays := List.head?_dropWhile_not (Pending.yieldsTo op) stack
  rw [htop] at hstays
  simpa [Pending.yieldsTo] using hstays

/-- A step keeps the order: an operator only stays below one that binds tighter. -/
theorem Ranked.step (h : c.Ranked) (token : Token) : (c.step token).Ranked := by
  cases token with
  | number text value => exact h
  | malformed text => exact h
  | operation op =>
      exact isChain_operation_cons.mpr
        ⟨clear_dropWhile op c.stack, h.suffix (List.dropWhile_suffix _)⟩
  | openBracket => exact isChain_bracket_cons.mpr h
  | closeBracket => exact (h.suffix (List.dropWhile_suffix _)).tail

/-- A run keeps the order. -/
theorem Ranked.foldl (h : c.Ranked) (tokens : List Token) :
    (tokens.foldl Converter.step c).Ranked := by
  induction tokens generalizing c with
  | nil => exact h
  | cons token tokens ih => exact ih (h.step token)

/-- Of operators that wait one on the other, the upper ones bind tighter. -/
theorem Ranked.pairwise (h : c.Ranked) {level : List Operator}
    (hlevel : level.map Pending.operation <:+: c.stack) :
    level.Pairwise Operator.BindsTighter := by
  have hrun := List.IsChain.infix h hlevel
  have hchain : level.IsChain Operator.BindsTighter := (List.isChain_map Pending.operation).mp hrun
  exact hchain.pairwise

/-! ### The height of the stack -/

/-- A stack with no operator of this priority on top is less than that much higher than its brackets
allow: each of them has at most two operators directly below it. -/
theorem length_lt_of_isChain (h : stack.IsChain Outranks) {priority : ℕ} (hpos : 0 < priority)
    (hclear : Clear priority stack) :
    stack.length < 3 * stack.count .bracket + priority := by
  induction stack generalizing priority with
  | nil => simpa using hpos
  | cons top below ih =>
      cases top with
      | bracket =>
          have hthree : Clear 3 below := fun op _ => Nat.lt_succ_of_le op.priority_le_two
          have hbelow := ih (isChain_bracket_cons.mp h) (by decide) hthree
          rw [List.length_cons, List.count_cons_self]
          omega
      | operation op =>
          obtain ⟨hop, hchain⟩ := isChain_operation_cons.mp h
          have hbelow := ih hchain op.priority_pos hop
          have htop := hclear op rfl
          rw [List.length_cons, List.count_cons_of_ne (by simp)]
          omega

/-- At most two operators wait directly on each open bracket, and two below all brackets. -/
theorem Ranked.length_le (h : c.Ranked) : c.stack.length ≤ 3 * c.openBrackets + 2 :=
  Nat.le_of_lt_succ
    (length_lt_of_isChain h (by decide) fun op _ => Nat.lt_succ_of_le op.priority_le_two)

/-- On a clear stack an operator only enters. -/
theorem stack_step_of_clear (h : Clear op.priority c.stack) :
    (c.step (.operation op)).stack = .operation op :: c.stack := by
  have hunwind := @unwind_operations (Pending.yieldsTo op) [] c.stack (by simp)
    (takeWhile_of_clear h) c.output c.journal
  exact congrArg (fun d => .operation op :: d.stack) hunwind

/-- A sum with a product in it waits in full. -/
theorem stack_step_times_step_plus (h : Clear 1 c.stack) :
    ((c.step (.operation .plus)).step (.operation .times)).stack =
      .operation .times :: .operation .plus :: c.stack := by
  have hplus : (c.step (.operation .plus)).stack = .operation .plus :: c.stack :=
    stack_step_of_clear h
  have hclear : Clear Operator.times.priority (c.step (.operation .plus)).stack := by
    rw [hplus]
    exact clear_operation (by decide) _
  rw [stack_step_of_clear hclear, hplus]

end Converter

/-- **The stack of a conversion**, after any number of tokens of any expression. Operators and
opening brackets wait, the operators between two brackets with their priorities rising from the
bottom to the top, so at most two of them, a multiplicative one on an additive one. There are as
many brackets as have been opened and not closed, and the stack is at most two entries higher than
three times their number. -/
theorem stack_foldl (tokens : List Token) :
    let stack := (tokens.foldl Converter.step {}).stack
    let opened := unclosed (Token.brackets tokens)
    (∀ entry ∈ stack, entry.token.isOperator = true ∨ entry.token = .openBracket) ∧
      (∀ level : List Operator, level.map Pending.operation <:+: stack →
        level.Pairwise Operator.BindsTighter ∧ level.length ≤ 2 ∧
          ∀ upper lower, level = [upper, lower] →
            (upper = .times ∨ upper = .divide) ∧ (lower = .plus ∨ lower = .minus)) ∧
      stack.count .bracket = opened ∧
      stack.length ≤ 3 * opened + 2 := by
  intro stack opened
  have hranked := Converter.ranked_init.foldl tokens
  have hopened : stack.count .bracket = opened := Converter.openBrackets_expression tokens
  have hlength : stack.length ≤ 3 * stack.count .bracket + 2 := hranked.length_le
  refine ⟨fun entry _ => ?_, fun level hlevel => ?_, hopened, hopened ▸ hlength⟩
  · cases entry with
    | operation op => exact .inl rfl
    | bracket => exact .inr rfl
  · have hpairwise := hranked.pairwise hlevel
    refine ⟨hpairwise, Operator.length_le_two_of_pairwise hpairwise, ?_⟩
    rintro upper lower rfl
    exact Operator.BindsTighter.kinds (List.rel_of_pairwise_cons hpairwise (by simp))

/-- Inside the open bracket a quotient waits on a sum, and outside a product on a difference. -/
theorem stack_foldl_five :
    let one : Token := .number "1" 1
    let outside := [one, .operation .minus, one, .operation .times]
    let inside := [one, .operation .plus, one, .operation .divide]
    let tokens := outside ++ .openBracket :: inside
    let stack := (tokens.foldl Converter.step {}).stack
    [Operator.divide, .plus].map Pending.operation <:+: stack ∧
      [Operator.divide, .plus].Pairwise Operator.BindsTighter ∧
      stack.count .bracket = 1 ∧ stack.length = 5 ∧ stack.length ≤ 3 * 1 + 2 := by
  intro one outside inside tokens stack
  have hlevel : [Operator.divide, .plus].map Pending.operation <:+: stack :=
    ⟨[], [.bracket, .operation .times, .operation .minus], rfl⟩
  obtain ⟨-, hlevels, hcount, hlength⟩ := stack_foldl tokens
  exact ⟨hlevel, (hlevels _ hlevel).1, hcount, rfl, hlength⟩

/-- The bound is reached, with any number of open brackets. -/
theorem exists_stack_length_eq (depth : ℕ) :
    ∃ tokens, unclosed (Token.brackets tokens) = depth ∧
      (tokens.foldl Converter.step {}).stack.length = 3 * depth + 2 := by
  -- Before the last two operators the top of the stack is a bracket, so that it is clear for them.
  have hbefore : ∃ tokens, unclosed (Token.brackets tokens) = depth ∧
      (tokens.foldl Converter.step {}).stack.length = 3 * depth ∧
      Converter.Clear 1 (tokens.foldl Converter.step {}).stack := by
    induction depth with
    | zero => exact ⟨[], rfl, rfl, Converter.clear_nil 1⟩
    | succ depth ih =>
        obtain ⟨tokens, hopened, hlength, hclear⟩ := ih
        let longer := tokens ++ [.operation .plus, .operation .times, .openBracket]
        have hstack : (longer.foldl Converter.step {}).stack =
            .bracket :: .operation .times :: .operation .plus ::
              (tokens.foldl Converter.step {}).stack := by
          rw [List.foldl_append]
          exact congrArg (.bracket :: ·) (Converter.stack_step_times_step_plus hclear)
        refine ⟨longer, ?_, ?_, hstack ▸ Converter.clear_bracket 1 _⟩
        · simp [longer, Brackets.unclosed_append, Token.bracket?, hopened, Nat.add_comm]
        · rw [hstack, Nat.mul_succ, ← hlength]
          rfl
  obtain ⟨tokens, hopened, hlength, hclear⟩ := hbefore
  refine ⟨tokens ++ [.operation .plus, .operation .times], ?_, ?_⟩
  · simp [Token.bracket?, hopened]
  · rw [List.foldl_append, ← hlength]
    exact congrArg List.length (Converter.stack_step_times_step_plus hclear)

end PocketCalculator
