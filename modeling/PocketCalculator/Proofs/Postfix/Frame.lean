import Mathlib.Data.List.TakeWhile
import PocketCalculator.Proofs.Expression.Brackets
import PocketCalculator.Proofs.Expression.Grammar

/-!
# What a conversion leaves alone

The output of a conversion only grows, and what waits below an open bracket is not looked at until
that bracket is closed. Both are one statement: a conversion that is carried on above another state
(`Converter.above`) does what it would have done from the beginning. It must not reach that state.
It cannot if nothing waits there (`foldl_above_of_stack_nil`), and otherwise it does not as long as
it reads no closing bracket without a partner of its own (`foldl_above_of_stray_le`).

How many brackets wait is a matter of the brackets that have been read, and it is the number of
those without a partner (`openBrackets_foldl`).
-/

namespace PocketCalculator

open Brackets (stray unclosed)

namespace Token

/-- No tokens have no brackets. -/
@[simp] theorem brackets_nil : brackets [] = [] := rfl

/-- The bracket that a token is, if it is one, and those of the rest. -/
@[simp] theorem brackets_cons (token : Token) (tokens : List Token) :
    brackets (token :: tokens) = token.bracket?.toList ++ brackets tokens := by
  cases token <;> rfl

/-- The brackets of two lists are put together like the lists. -/
@[simp] theorem brackets_append (first second : List Token) :
    brackets (first ++ second) = brackets first ++ brackets second := List.filterMap_append

end Token

namespace Converter

variable {c base : Converter} {leaves : Pending → Bool}

/-! ### The brackets that wait -/

/-- The number of brackets on the stack. -/
def openBrackets (c : Converter) : ℕ := c.stack.count .bracket

/-- What leaves the stack without its brackets leaves their number as it is. -/
theorem openBrackets_unwind (c : Converter) (leaves : Pending → Bool)
    (h : leaves .bracket = false) : (c.unwind leaves).openBrackets = c.openBrackets := by
  obtain ⟨output, stack, journal⟩ := c
  simp only [openBrackets, unwind]
  induction stack with
  | nil => rfl
  | cons top stack ih =>
      by_cases htop : leaves top = true
      · have hne : top ≠ .bracket := by
          rintro rfl
          rw [h] at htop
          cases htop
        rw [List.dropWhile_cons_of_pos htop, ih, List.count_cons_of_ne hne]
      · rw [List.dropWhile_cons_of_neg htop]

/-- After the operators on top have left, the top of the stack is a bracket, if there is one. -/
theorem stack_unwind_bracket (c : Converter) :
    (c.unwind (· != .bracket)).stack = [] ∧ c.openBrackets = 0 ∨
      ∃ below, (c.unwind (· != .bracket)).stack = .bracket :: below := by
  obtain ⟨output, stack, journal⟩ := c
  simp only [openBrackets, unwind]
  induction stack with
  | nil => exact .inl ⟨rfl, rfl⟩
  | cons top stack ih =>
      cases top with
      | bracket => exact .inr ⟨stack, rfl⟩
      | operation op => simpa using ih

/-- A token changes the number of brackets that wait by what it is itself; where none waits, a
closing bracket changes nothing. -/
theorem openBrackets_step (c : Converter) (token : Token) :
    (c.step token).openBrackets =
      match token.bracket? with
      | none => c.openBrackets
      | some .opening => c.openBrackets + 1
      | some .closing => c.openBrackets - 1 := by
  cases token with
  | number text value => rfl
  | malformed text => rfl
  | operation op =>
      have hunwind := c.openBrackets_unwind (Pending.yieldsTo op) rfl
      simpa [step, push, openBrackets, Token.bracket?] using hunwind
  | openBracket => simp [step, push, openBrackets, Token.bracket?]
  | closeBracket =>
      have hunwind := c.openBrackets_unwind (· != .bracket) rfl
      rcases c.stack_unwind_bracket with ⟨hstack, hzero⟩ | ⟨below, hstack⟩
      · simp only [step, drop, openBrackets, hstack, List.tail_nil, Token.bracket?] at hzero ⊢
        rw [hzero]
        rfl
      · simp only [openBrackets, hstack, List.count_cons_self] at hunwind
        simp only [step, drop, openBrackets, hstack, List.tail_cons, Token.bracket?]
        omega

/-- The brackets that wait after a run: those it has opened and not closed, and those that waited
before and that it has not closed either. -/
theorem openBrackets_foldl (c : Converter) (tokens : List Token) :
    (tokens.foldl step c).openBrackets =
      unclosed (Token.brackets tokens) + (c.openBrackets - stray (Token.brackets tokens)) := by
  induction tokens generalizing c with
  | nil => simp
  | cons token tokens ih =>
      rw [List.foldl_cons, ih, openBrackets_step, Token.brackets_cons]
      cases token.bracket? with
      | none => rfl
      | some bracket => cases bracket <;> simp <;> omega

/-- After the tokens of an expression, the brackets that wait are those without a partner. -/
theorem openBrackets_expression (tokens : List Token) :
    (tokens.foldl step {}).openBrackets = unclosed (Token.brackets tokens) := by
  rw [openBrackets_foldl]
  simp [openBrackets]

/-! ### Above another state -/

/-- The state `c` with the state `base` below it: what `c` has put out comes later, and what waits
in `c` waits on top. -/
def above (c base : Converter) : Converter :=
  ⟨c.output ++ base.output, c.stack ++ base.stack, c.journal ++ base.journal⟩

/-- Every state has its stack above what it has put out. -/
theorem above_eq (c : Converter) :
    ({ stack := c.stack } : Converter).above { c with stack := [] } = c := by
  simp [above]

/-- What a state puts out in all if no token follows. -/
def result (c : Converter) : List Token := c.output.reverse ++ c.stack.map Pending.token

/-- What the state below has put out comes first, and what waits there comes last. -/
theorem result_above (c base : Converter) :
    (c.above base).result = base.output.reverse ++ c.result ++ base.stack.map Pending.token := by
  simp [result, above]

/-- Taking from the front of two lists takes from the first one only, if it stops there. -/
theorem takeWhile_append_dropWhile_append {α : Type} {p : α → Bool} {first second : List α}
    (h : second.takeWhile p = [] ∨ ∃ a ∈ first, p a = false) :
    (first ++ second).takeWhile p = first.takeWhile p ∧
      (first ++ second).dropWhile p = first.dropWhile p ++ second := by
  induction first with
  | nil =>
      have htake : second.takeWhile p = [] := h.resolve_right (by simp)
      have hsplit := List.takeWhile_append_dropWhile (p := p) (l := second)
      rw [htake] at hsplit
      exact ⟨htake, hsplit⟩
  | cons a first ih =>
      by_cases ha : p a = true
      · have hrest := ih (h.imp_right fun ⟨b, hb, hpb⟩ =>
          ⟨b, (List.mem_cons.mp hb).resolve_left fun heq => by simp [heq, ha] at hpb, hpb⟩)
        simpa [ha] using hrest
      · simp [ha]

/-- Entries leave the upper stack only, if they stop there or none would leave the lower one. -/
theorem unwind_above
    (h : base.stack.takeWhile leaves = [] ∨ ∃ entry ∈ c.stack, leaves entry = false) :
    (c.above base).unwind leaves = (c.unwind leaves).above base := by
  obtain ⟨htake, hdrop⟩ := takeWhile_append_dropWhile_append h
  simp [unwind, above, htake, hdrop]

/-- A token is read without regard to the state below, if a closing bracket finds one above or
nothing below. -/
theorem step_above (hclear : Clear 0 base.stack) (token : Token)
    (h : token = .closeBracket → base.stack = [] ∨ .bracket ∈ c.stack) :
    (c.above base).step token = (c.step token).above base := by
  cases token with
  | number text value => rfl
  | malformed text => rfl
  | operation op =>
      have hunwind : (c.above base).unwind (Pending.yieldsTo op) =
          (c.unwind (Pending.yieldsTo op)).above base :=
        unwind_above (.inl (takeWhile_of_clear (hclear.mono (Nat.zero_le _))))
      rw [step, hunwind]
      rfl
  | openBracket => rfl
  | closeBracket =>
      have hwaits := h rfl
      have hunwind : (c.above base).unwind (· != .bracket) =
          (c.unwind (· != .bracket)).above base := by
        apply unwind_above
        rcases hwaits with hnil | hmem
        · exact .inl (by rw [hnil]; rfl)
        · exact .inr ⟨.bracket, hmem, rfl⟩
      rw [step, hunwind, step]
      rcases c.stack_unwind_bracket with ⟨hstack, hzero⟩ | ⟨below, hstack⟩
      · have hnil := hwaits.resolve_right (List.count_eq_zero.mp hzero)
        simp [drop, above, hstack, hnil]
      · simp [drop, above, hstack]

/-- Where nothing waits below, no token reaches it. -/
theorem foldl_above_of_stack_nil (h : base.stack = []) (c : Converter) (tokens : List Token) :
    tokens.foldl step (c.above base) = (tokens.foldl step c).above base := by
  induction tokens generalizing c with
  | nil => rfl
  | cons token tokens ih =>
      have hclear : Clear 0 base.stack := by
        rw [h]
        exact clear_nil 0
      rw [List.foldl_cons, step_above hclear token fun _ => .inl h, ih, List.foldl_cons]

/-- A run above an open bracket does not reach it, if it closes no more brackets than it opens and
than have been open above. -/
theorem foldl_above_of_stray_le (hclear : Clear 0 base.stack) {c : Converter} {tokens : List Token}
    (h : stray (Token.brackets tokens) ≤ c.openBrackets) :
    tokens.foldl step (c.above base) = (tokens.foldl step c).above base := by
  induction tokens generalizing c with
  | nil => rfl
  | cons token tokens ih =>
      rw [Token.brackets_cons] at h
      have hwaits : token = .closeBracket → base.stack = [] ∨ .bracket ∈ c.stack := by
        rintro rfl
        have hpos : 0 < c.openBrackets := Nat.lt_of_lt_of_le (Nat.succ_pos _) h
        exact .inr (List.count_pos_iff.mp hpos)
      have hrest : stray (Token.brackets tokens) ≤ (c.step token).openBrackets := by
        rw [openBrackets_step]
        cases hbracket : token.bracket? with
        | none => simpa [hbracket] using h
        | some bracket => cases bracket <;> simp [hbracket] at h ⊢ <;> omega
      rw [List.foldl_cons, step_above hclear token hwaits, ih hrest, List.foldl_cons]

end Converter

/-- The postfix order is the result of the run. -/
theorem value_ofTokens (tokens : List Token) :
    (Postfix.ofTokens tokens).value = (tokens.foldl Converter.step {}).result := by
  simp [Postfix.ofTokens, Converter.read, Converter.unwind, Converter.result,
    List.takeWhile_eq_self_iff.mpr]

end PocketCalculator
