import PocketCalculator.Postfix.Value

/-!
# What a token does to the stack

One equation for each part of `ValueStack.step`. A number is pushed and leaves no report. Any other
token takes two values, each of them NaN if the stack is empty by then, pushes what it makes of
them, and leaves a report for each operand that was missing.
-/

namespace PocketCalculator

/-- Whether a token is a number. -/
def Token.isNumber : Token → Bool
  | .number _ _ => true
  | _ => false

/-- A number has a text and a value. -/
theorem Token.exists_of_isNumber {token : Token} (h : token.isNumber = true) :
    ∃ text value, token = .number text value := by
  cases token with
  | number text value => exact ⟨text, value, rfl⟩
  | _ => contradiction

namespace ValueStack

variable (s : ValueStack)

/-- A number puts its value on the stack, -/
@[simp] theorem values_step_number (text : String) (value : Binary.Binary64) :
    (s.step (.number text value)).values = value :: s.values := rfl

/-- and has nothing to report. -/
@[simp] theorem journal_step_number (text : String) (value : Binary.Binary64) :
    (s.step (.number text value)).journal = s.journal := rfl

/-- A value pushed is on top of the stack, -/
theorem values_push (value : Binary.Binary64) : (s.push value).values = value :: s.values := rfl

/-- and has nothing to report. -/
theorem journal_push (value : Binary.Binary64) : (s.push value).journal = s.journal := rfl

/-- The number taken from the stack is its top, or NaN. -/
theorem value_pop : s.pop.1 = s.values.headD .nan := by
  obtain ⟨_ | ⟨value, values⟩, journal⟩ := s <;> rfl

/-- The rest of the stack remains, -/
theorem values_pop : s.pop.2.values = s.values.tail := by
  obtain ⟨_ | ⟨value, values⟩, journal⟩ := s <;> rfl

/-- and the operand is reported as missing if there was none. -/
theorem journal_pop :
    s.pop.2.journal = List.replicate (1 - s.values.length) .missingOperand ++ s.journal := by
  obtain ⟨_ | ⟨value, values⟩, journal⟩ := s
  · rfl
  · rw [List.length_cons, Nat.sub_eq_zero_of_le (Nat.le_add_left 1 _)]
    rfl

/-- A token that is not a number takes the right operand and then the left one. -/
theorem step_of_not_isNumber {token : Token} (h : token.isNumber = false) :
    s.step token = s.pop.2.pop.2.push (token.combine s.pop.2.pop.1 s.pop.1) := by
  cases token with
  | number text value => contradiction
  | _ => rfl

/-- It puts the number that they combine to in their place. -/
theorem values_step {token : Token} (h : token.isNumber = false) :
    (s.step token).values =
      token.combine (s.values.tail.headD .nan) (s.values.headD .nan) :: s.values.tail.tail := by
  rw [step_of_not_isNumber s h, values_push, values_pop, value_pop, value_pop, values_pop]

/-- There is one report for each operand that was missing. -/
theorem journal_step {token : Token} (h : token.isNumber = false) :
    (s.step token).journal =
      List.replicate (2 - s.values.length) .missingOperand ++ s.journal := by
  rw [step_of_not_isNumber s h, journal_push, journal_pop, values_pop, journal_pop,
    List.length_tail, ← List.append_assoc, List.replicate_append_replicate]
  congr 2
  omega

end ValueStack

end PocketCalculator
