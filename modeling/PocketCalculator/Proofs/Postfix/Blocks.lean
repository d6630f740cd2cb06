import PocketCalculator.Proofs.Postfix.Frame
import PocketCalculator.Proofs.Postfix.Members
import PocketCalculator.Proofs.Postfix.Stack

/-!
# Bracketed blocks and stray brackets

A block in brackets is converted as if nothing stood around it, and the rest as if one number stood
in place of the block. What an opening bracket does to the tokens after it does not depend on
whether it is ever closed, so the same holds with a bracket that has no partner, except that the
bracket itself is then put out behind the block. A closing bracket without a partner ends the
expression before it, and the tokens after it are another expression.

Each of the three follows from what a conversion leaves alone: above an open bracket the tokens of
the block are read as from the beginning (`Converter.foldl_openBracket`), and a closing bracket puts
out the result of what stands above the bracket that it closes
(`Converter.step_closeBracket_above`).

* **`replaced_ofTokens_block`**: a block whose brackets are in pairs, anywhere in a list of tokens;
* **`ofTokens_stray_brackets`**: a closing and an opening bracket without a partner.
-/

namespace PocketCalculator

open Brackets (AllClosed Balanced NoneStray stray)

/-- `x.Replaced block tokens result`: the token `x` stands at one place of the tokens, and with the
block in its place they are the result. -/
def Token.Replaced (x : Token) (block tokens result : List Token) : Prop :=
  ∃ before after, tokens = before ++ x :: after ∧ x ∉ before ∧ x ∉ after ∧
    result = before ++ block ++ after

namespace Converter

variable {c base : Converter} {tokens : List Token} {x : Token}

/-! ### One bracket -/

/-- After an opening bracket a conversion begins anew, above what waits. -/
theorem foldl_openBracket (h : NoneStray (Token.brackets tokens)) (c : Converter) :
    tokens.foldl step (c.step .openBracket) = (tokens.foldl step {}).above (c.push .bracket) := by
  have hnew : c.step .openBracket = ({} : Converter).above (c.push .bracket) := rfl
  have hstray : stray (Token.brackets tokens) ≤ ({} : Converter).openBrackets := by
    rw [Brackets.noneStray_iff.mp h]
    exact Nat.zero_le _
  rw [hnew, foldl_above_of_stray_le (clear_bracket 0 c.stack) hstray]

/-- A closing bracket puts out the result of what stands above the bracket that it closes, or above
nothing. -/
theorem step_closeBracket_above (h : c.openBrackets = 0) (hclear : Clear 0 base.stack) :
    (c.above base).step .closeBracket =
      ⟨c.result.reverse ++ base.output, base.stack.tail, c.journal ++ base.journal⟩ := by
  have hleave : ∀ entry ∈ c.stack, (entry != .bracket) = true := by
    intro entry hentry
    have hne : entry ≠ .bracket := by
      rintro rfl
      exact List.count_eq_zero.mp h hentry
    simpa using hne
  have hstay : base.stack.takeWhile (· != .bracket) = [] := by
    cases hbase : base.stack with
    | nil => rfl
    | cons top below =>
        cases top with
        | bracket => rfl
        | operation op => exact absurd (hclear op (by rw [hbase]; rfl)) (Nat.not_lt_zero _)
  have hkept : base.stack.dropWhile (· != .bracket) = base.stack := by
    have hsplit := List.takeWhile_append_dropWhile (p := (· != .bracket)) (l := base.stack)
    rwa [hstay] at hsplit
  simp only [step, unwind, drop, above, List.takeWhile_append_of_pos hleave, hstay,
    List.dropWhile_append_of_pos hleave, hkept, result]
  simp

/-! ### Runs around a block -/

/-- What a run puts out and leaves waiting is decided by the stack that it finds. -/
theorem foldl_eq_above (c : Converter) (tokens : List Token) :
    tokens.foldl step c =
      (tokens.foldl step { stack := c.stack }).above { c with stack := [] } := by
  rw [← foldl_above_of_stack_nil rfl, above_eq]

/-- A block in brackets puts out its own postfix order and changes nothing else. -/
theorem foldl_block (h : Balanced (Token.brackets tokens)) (c : Converter) :
    ([Token.openBracket] ++ tokens ++ [Token.closeBracket]).foldl step c =
      ⟨(Postfix.ofTokens tokens).value.reverse ++ c.output, c.stack,
        (tokens.foldl step {}).journal ++ c.journal⟩ := by
  have hopen : (tokens.foldl step {}).openBrackets = 0 := by
    rw [openBrackets_expression, h.unclosed_eq_zero]
  have hclear : Clear 0 (c.push .bracket).stack := clear_bracket 0 c.stack
  simp only [List.foldl_append, List.foldl_cons, List.foldl_nil]
  rw [foldl_openBracket (Brackets.balanced_iff.mp h).2, step_closeBracket_above hopen hclear,
    value_ofTokens]
  rfl

/-! ### Where a number is put out -/

/-- What waits is not a number. -/
theorem not_mem_map_token (hx : x.isNumber = true) (stack : List Pending) :
    x ∉ stack.map Pending.token := by
  intro hmem
  obtain ⟨entry, -, rfl⟩ := List.mem_map.mp hmem
  cases entry <;> cases hx

/-- A number that is put out has been read. -/
theorem not_mem_held_foldl (hx : x.isNumber = true) (hnot : x ∉ tokens) (stack : List Pending) :
    x ∉ (tokens.foldl step { stack := stack }).held := by
  intro hmem
  rcases mem_held_foldl hmem with hwaits | hread
  · exact not_mem_map_token hx stack hwaits
  · exact hnot hread

/-- A number is put out at once. -/
theorem step_of_isNumber (hx : x.isNumber = true) (c : Converter) :
    c.step x = { c with output := x :: c.output } := by
  obtain ⟨text, value, rfl⟩ := Token.exists_of_isNumber hx
  rfl

end Converter

open Converter (step)

variable {before after block tokens rest : List Token} {x : Token}

/-- **A bracketed block is converted on its own.** Whatever stands before and after it, it is put
out in its own postfix order at the place where a number would be. -/
theorem replaced_ofTokens_block (h : Balanced (Token.brackets block)) (hx : x.isNumber = true)
    (hbefore : x ∉ before) (hafter : x ∉ after) :
    x.Replaced (Postfix.ofTokens block).value
      (Postfix.ofTokens (before ++ [x] ++ after)).value
      (Postfix.ofTokens
        (before ++ ([.openBracket] ++ block ++ [.closeBracket]) ++ after)).value := by
  set c := before.foldl step {} with hc
  set d := after.foldl step { stack := c.stack } with hd
  have hput := Converter.not_mem_held_foldl hx hbefore []
  have hlater := Converter.not_mem_held_foldl hx hafter c.stack
  refine ⟨c.output.reverse, d.result, ?_, ?_, ?_, ?_⟩
  · rw [value_ofTokens, List.foldl_append, List.foldl_append, ← hc, List.foldl_cons,
      List.foldl_nil, Converter.step_of_isNumber hx, Converter.foldl_eq_above,
      Converter.result_above]
    simp [hd]
  · exact fun hmem => hput (List.mem_append_left _ (List.mem_reverse.mp hmem))
  · exact fun hmem => hlater (by simpa [Converter.result, Converter.held] using hmem)
  · rw [value_ofTokens, List.foldl_append, List.foldl_append, ← hc, Converter.foldl_block h,
      Converter.foldl_eq_above, Converter.result_above]
    simp [hd]

/-- Where every opening bracket is closed, a further closing bracket ends the expression. -/
theorem value_ofTokens_cut (h : AllClosed (Token.brackets tokens)) (rest : List Token) :
    (Postfix.ofTokens (tokens ++ [.closeBracket] ++ rest)).value =
      (Postfix.ofTokens tokens).value ++ (Postfix.ofTokens rest).value := by
  set c := tokens.foldl step {} with hc
  have hopen : c.openBrackets = 0 := by
    rw [hc, Converter.openBrackets_expression, Brackets.allClosed_iff.mp h]
  have hclose : c.step .closeBracket = ⟨c.result.reverse, [], c.journal⟩ := by
    have hbottom : Converter.Clear 0 ({} : Converter).stack := Converter.clear_nil 0
    simpa [Converter.above] using Converter.step_closeBracket_above hopen hbottom
  rw [value_ofTokens, value_ofTokens, value_ofTokens, List.foldl_append, List.foldl_append, ← hc,
    List.foldl_cons, List.foldl_nil, hclose, Converter.foldl_eq_above, Converter.result_above]
  simp

/-- An opening bracket makes a block of the tokens after it, closed or not; if it is not, it is put
out behind them. -/
theorem replaced_ofTokens_open (h : NoneStray (Token.brackets rest)) (hx : x.isNumber = true)
    (hnot : x ∉ tokens) :
    x.Replaced ((Postfix.ofTokens rest).value ++ [.openBracket])
      (Postfix.ofTokens (tokens ++ [x])).value
      (Postfix.ofTokens (tokens ++ [.openBracket] ++ rest)).value := by
  set c := tokens.foldl step {} with hc
  have hput := Converter.not_mem_held_foldl hx hnot []
  refine ⟨c.output.reverse, c.stack.map Pending.token, ?_, ?_, ?_, ?_⟩
  · rw [value_ofTokens, List.foldl_append, ← hc, List.foldl_cons, List.foldl_nil,
      Converter.step_of_isNumber hx]
    simp [Converter.result]
  · exact fun hmem => hput (List.mem_append_left _ (List.mem_reverse.mp hmem))
  · exact Converter.not_mem_map_token hx c.stack
  · rw [value_ofTokens, value_ofTokens, List.foldl_append, List.foldl_append, ← hc,
      List.foldl_cons, List.foldl_nil, Converter.foldl_openBracket h, Converter.result_above]
    simp [Converter.push, Pending.token]

/-- **Stray brackets.** A closing bracket without a partner, all opening brackets before it being
closed, cuts the list in two that are converted on their own. An opening bracket, no closing bracket
after it being without a partner, makes a block of the tokens after it and is put out behind the
block. -/
theorem ofTokens_stray_brackets (a b : List Token) :
    (AllClosed (Token.brackets a) →
      (Postfix.ofTokens (a ++ [.closeBracket] ++ b)).value =
        (Postfix.ofTokens a).value ++ (Postfix.ofTokens b).value) ∧
      (NoneStray (Token.brackets b) → ∀ x : Token, x.isNumber = true → x ∉ a →
        x.Replaced ((Postfix.ofTokens b).value ++ [.openBracket])
          (Postfix.ofTokens (a ++ [x])).value
          (Postfix.ofTokens (a ++ [.openBracket] ++ b)).value) :=
  ⟨fun h => value_ofTokens_cut h b, fun h _ hx hnot => replaced_ofTokens_open h hx hnot⟩

/-- A product and a difference, each with a pair of brackets of its own. -/
theorem ofTokens_stray_brackets_pairs :
    let one : Token := .number "1" 1
    let two : Token := .number "2" 2
    let x : Token := .number "x" .nan
    let a := [.openBracket, one, .closeBracket, .operation .times, two]
    let b := [two, .operation .minus, .openBracket, one, .closeBracket]
    AllClosed (Token.brackets a) ∧
      (Postfix.ofTokens (a ++ [.closeBracket] ++ b)).value =
        (Postfix.ofTokens a).value ++ (Postfix.ofTokens b).value ∧
      NoneStray (Token.brackets b) ∧ x.isNumber = true ∧ x ∉ a ∧
      x.Replaced ((Postfix.ofTokens b).value ++ [.openBracket])
        (Postfix.ofTokens (a ++ [x])).value
        (Postfix.ofTokens (a ++ [.openBracket] ++ b)).value := by
  intro one two x a b
  have ha : AllClosed (Token.brackets a) := by decide
  have hb : NoneStray (Token.brackets b) := by decide
  have hx : x ∉ a := by simp [x, a, one, two]
  exact ⟨ha, (ofTokens_stray_brackets a b).1 ha, hb, rfl, hx,
    (ofTokens_stray_brackets a b).2 hb x rfl hx⟩

end PocketCalculator
