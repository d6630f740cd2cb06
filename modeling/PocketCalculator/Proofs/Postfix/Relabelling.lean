import PocketCalculator.Proofs.Postfix.Frame
import PocketCalculator.Proofs.Postfix.Stack

/-!
# Numbers are moved as they are

A literal is looked at once, when its token is made. From then on a number has a text and a value,
which need not agree, and each later stage uses at most one of the two. The conversion to postfix
order uses neither: it does the same to a list in which the numbers have been exchanged for others
(`Token.Relabels`), because a step of it commutes with the exchange (`Converter.step_map`). The
evaluation reads values only (`value_map_withoutText`), and the printed list shows texts only
(`joined_map_withoutValue`).

* **`ofTokens_relabelled`**: a conversion of exchanged numbers, and what the values and the texts of
  numbers can have an influence on.
-/

namespace PocketCalculator

/-! ### Exchanging numbers -/

namespace Token

/-- The function exchanges numbers for numbers, in any way, and leaves all other tokens alone. -/
structure Relabels (f : Token → Token) : Prop where
  isNumber_apply : ∀ token, token.isNumber = true → (f token).isNumber = true
  apply_eq_self : ∀ token, token.isNumber = false → f token = token

/-- The token without the text that a number has. -/
def withoutText : Token → Token
  | .number _ value => .number "" value
  | token => token

/-- The token without the value that a number has. -/
def withoutValue : Token → Token
  | .number text _ => .number text .nan
  | token => token

/-- Taking the texts from the numbers exchanges them, -/
theorem relabels_withoutText : Relabels withoutText where
  isNumber_apply token h := by
    cases token with
    | number text value => rfl
    | _ => contradiction
  apply_eq_self token h := by
    cases token with
    | number text value => contradiction
    | _ => rfl

/-- and so does taking their values. -/
theorem relabels_withoutValue : Relabels withoutValue where
  isNumber_apply token h := by
    cases token with
    | number text value => rfl
    | _ => contradiction
  apply_eq_self token h := by
    cases token with
    | number text value => contradiction
    | _ => rfl

variable {f : Token → Token}

/-- What waits on a stack is not a number, so it is left alone. -/
theorem Relabels.map_map_token (h : Relabels f) (stack : List Pending) :
    (stack.map Pending.token).map f = stack.map Pending.token := by
  rw [List.map_map]
  refine List.map_congr_left fun entry _ => ?_
  apply h.apply_eq_self
  cases entry <;> rfl

end Token

open Token (Relabels withoutText withoutValue)

variable {f : Token → Token}

/-! ### The conversion -/

namespace Converter

/-- The state with the tokens exchanged that have been put out. -/
def map (f : Token → Token) (c : Converter) : Converter := { c with output := c.output.map f }

/-- The result of a state with exchanged numbers has them exchanged. -/
theorem result_map (h : Relabels f) (c : Converter) : (c.map f).result = c.result.map f := by
  simp only [result, map, List.map_append, List.map_reverse, h.map_map_token]

/-- What leaves the stack are no numbers, so that it leaves alike. -/
theorem unwind_map (h : Relabels f) (c : Converter) (leaves : Pending → Bool) :
    (c.map f).unwind leaves = (c.unwind leaves).map f := by
  simp only [unwind, map, List.map_append, List.map_reverse, h.map_map_token]

/-- A step does the same to exchanged numbers. -/
theorem step_map (h : Relabels f) (c : Converter) (token : Token) :
    (c.map f).step (f token) = (c.step token).map f := by
  cases token with
  | number text value =>
      obtain ⟨text', value', happly⟩ :=
        Token.exists_of_isNumber (h.isNumber_apply (.number text value) rfl)
      rw [happly]
      simp only [step, map, List.map_cons, happly]
  | malformed text =>
      rw [h.apply_eq_self _ rfl]
      rfl
  | operation op =>
      rw [h.apply_eq_self _ rfl, step, unwind_map h]
      rfl
  | openBracket =>
      rw [h.apply_eq_self _ rfl]
      rfl
  | closeBracket =>
      rw [h.apply_eq_self _ rfl, step, unwind_map h]
      rfl

/-- So does a whole run. -/
theorem foldl_map (h : Relabels f) (c : Converter) (tokens : List Token) :
    (tokens.map f).foldl step (c.map f) = (tokens.foldl step c).map f := by
  induction tokens generalizing c with
  | nil => rfl
  | cons token tokens ih => rw [List.map_cons, List.foldl_cons, List.foldl_cons, step_map h, ih]

end Converter

/-- The postfix order of exchanged numbers. -/
theorem value_ofTokens_map (h : Relabels f) (tokens : List Token) :
    (Postfix.ofTokens (tokens.map f)).value = (Postfix.ofTokens tokens).value.map f := by
  have hinit : ({} : Converter) = Converter.map f {} := rfl
  rw [value_ofTokens, value_ofTokens, hinit, Converter.foldl_map h, Converter.result_map h, ← hinit]

/-- Lists that an exchange makes equal have postfix orders that it makes equal. -/
theorem map_ofTokens_eq_of_map_eq (h : Relabels f) {first second : List Token}
    (heq : first.map f = second.map f) :
    (Postfix.ofTokens first).value.map f = (Postfix.ofTokens second).value.map f := by
  rw [← value_ofTokens_map h, heq, value_ofTokens_map h]

/-! ### The evaluation and the printed list -/

/-- A step of the evaluation reads the value of a number and not its text. -/
theorem ValueStack.step_withoutText (s : ValueStack) (token : Token) :
    s.step token.withoutText = s.step token := by
  cases token <;> rfl

/-- The evaluation does not read the texts of numbers. -/
theorem value_map_withoutText (tokens : List Token) :
    Postfix.value (tokens.map withoutText) = Postfix.value tokens := by
  simp only [Postfix.value, List.foldl_map, ValueStack.step_withoutText]

/-- A token without its value has the text that it had. -/
theorem Token.text_withoutValue (token : Token) : token.withoutValue.text = token.text := by
  cases token <;> rfl

/-- The printed list does not show the values of numbers. -/
theorem joined_map_withoutValue (tokens : List Token) :
    Token.joined (tokens.map withoutValue) = Token.joined tokens := by
  induction tokens with
  | nil => rfl
  | cons token tokens ih =>
      cases tokens with
      | nil => exact token.text_withoutValue
      | cons next tokens =>
          rw [List.map_cons, List.map_cons, Token.joined_cons_cons, ← List.map_cons, ih,
            token.text_withoutValue, Token.joined_cons_cons]

/-- **No stage looks at what is not its own.** Exchanging the numbers of any list of tokens, in any
way, exchanges them in its postfix order and changes nothing else. So the texts of numbers have no
influence on the value of a list, nor on what the evaluation reports, and the values of numbers have
none on the postfix order as it is printed. -/
theorem ofTokens_relabelled :
    (∀ f, Relabels f → ∀ tokens : List Token,
      (Postfix.ofTokens (tokens.map f)).value = (Postfix.ofTokens tokens).value.map f) ∧
    (∀ first second : List Token, first.map withoutText = second.map withoutText →
      Postfix.value (Postfix.ofTokens first).value =
        Postfix.value (Postfix.ofTokens second).value) ∧
    ∀ first second : List Token, first.map withoutValue = second.map withoutValue →
      Token.joined (Postfix.ofTokens first).value =
        Token.joined (Postfix.ofTokens second).value := by
  refine ⟨fun f h tokens => value_ofTokens_map h tokens, fun first second heq => ?_,
    fun first second heq => ?_⟩
  · rw [← value_map_withoutText, map_ofTokens_eq_of_map_eq Token.relabels_withoutText heq,
      value_map_withoutText]
  · rw [← joined_map_withoutValue, map_ofTokens_eq_of_map_eq Token.relabels_withoutValue heq,
      joined_map_withoutValue]

/-- A quotient with a malformed literal and a bracket too many, its numbers exchanged for others
whose texts and values disagree. -/
theorem ofTokens_relabelled_quotient :
    let doubled : Token → Token
      | .number text value => .number (text ++ text) (-value)
      | token => token
    let tokens := [.number "1" 1, .operation .divide, .malformed "2.", .number "4" 4, .closeBracket]
    let retyped := [.number "one" 1, .operation .divide, .malformed "2.", .number "8" 4,
      .closeBracket]
    let revalued := [.number "1" .nan, .operation .divide, .malformed "2.",
      .number "4" (.infinity true), .closeBracket]
    (Relabels doubled ∧ (Postfix.ofTokens (tokens.map doubled)).value =
        (Postfix.ofTokens tokens).value.map doubled) ∧
      (tokens.map withoutText = retyped.map withoutText ∧
        Postfix.value (Postfix.ofTokens tokens).value =
          Postfix.value (Postfix.ofTokens retyped).value) ∧
      tokens.map withoutValue = revalued.map withoutValue ∧
        Token.joined (Postfix.ofTokens tokens).value =
          Token.joined (Postfix.ofTokens revalued).value := by
  intro doubled tokens retyped revalued
  have hdoubled : Relabels doubled := by
    constructor
    · intro token h
      cases token with
      | number text value => rfl
      | _ => contradiction
    · intro token h
      cases token with
      | number text value => contradiction
      | _ => rfl
  have hretyped : tokens.map withoutText = retyped.map withoutText := by
    simp [tokens, retyped, withoutText]
  have hrevalued : tokens.map withoutValue = revalued.map withoutValue := by
    simp [tokens, revalued, withoutValue]
  obtain ⟨hmap, hvalue, hprinted⟩ := ofTokens_relabelled
  exact ⟨⟨hdoubled, hmap doubled hdoubled tokens⟩, ⟨hretyped, hvalue _ _ hretyped⟩, hrevalued,
    hprinted _ _ hrevalued⟩

end PocketCalculator
