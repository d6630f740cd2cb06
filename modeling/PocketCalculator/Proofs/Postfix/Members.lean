import Mathlib.Tactic.Tauto
import PocketCalculator.Postfix.Conversion

/-!
# Where the tokens of the postfix order come from

A conversion moves tokens from its input to its stack and from there, or at once, to its output, and
makes none of its own (`mem_of_mem_ofTokens`).
-/

namespace PocketCalculator

namespace Converter

/-- The tokens that a state holds, put out or waiting. -/
def held (c : Converter) : List Token := c.output ++ c.stack.map Pending.token

/-- Entries that leave the stack are put out, so nothing new is held, -/
theorem mem_held_unwind {c : Converter} {leaves : Pending → Bool} {token : Token}
    (h : token ∈ (c.unwind leaves).held) : token ∈ c.held := by
  have hstack : c.stack.map Pending.token =
      (c.stack.takeWhile leaves).map Pending.token ++
        (c.stack.dropWhile leaves).map Pending.token := by
    rw [← List.map_append, List.takeWhile_append_dropWhile]
  rw [held, hstack]
  simp only [held, unwind, List.mem_append, List.mem_reverse] at h ⊢
  tauto

/-- an entry that is pushed is the only new one, -/
theorem mem_held_push {c : Converter} {entry : Pending} {token : Token}
    (h : token ∈ (c.push entry).held) : token ∈ c.held ∨ token = entry.token := by
  simp only [held, push, List.map_cons, List.mem_append, List.mem_cons] at h ⊢
  tauto

/-- and dropping one adds nothing. -/
theorem mem_held_drop {c : Converter} {token : Token} (h : token ∈ c.drop.held) :
    token ∈ c.held := by
  simp only [held, drop, List.map_tail, List.mem_append] at h ⊢
  exact h.imp_right List.mem_of_mem_tail

/-- A step holds on to tokens and takes in the one that it reads. -/
theorem mem_held_step {c : Converter} {read token : Token} (h : token ∈ (c.step read).held) :
    token ∈ c.held ∨ token = read := by
  cases read with
  | number text value =>
      simp only [held, step, List.mem_append, List.mem_cons] at h ⊢
      tauto
  | malformed text => exact .inl h
  | operation op => exact (mem_held_push h).imp_left mem_held_unwind
  | openBracket => exact mem_held_push h
  | closeBracket => exact .inl (mem_held_unwind (mem_held_drop h))

/-- A run holds on to tokens and takes in those that it reads. -/
theorem mem_held_foldl {c : Converter} {tokens : List Token} {token : Token}
    (h : token ∈ (tokens.foldl step c).held) : token ∈ c.held ∨ token ∈ tokens := by
  induction tokens generalizing c with
  | nil => exact .inl h
  | cons read tokens ih =>
      rcases ih h with hstep | hmem
      · exact (mem_held_step hstep).imp_right fun heq => List.mem_cons.mpr (.inl heq)
      · exact .inr (List.mem_cons_of_mem read hmem)

end Converter

/-- The postfix order has no tokens but those it is given. -/
theorem mem_of_mem_ofTokens {tokens : List Token} {token : Token}
    (h : token ∈ (Postfix.ofTokens tokens).value) : token ∈ tokens := by
  have hread : token ∈ (Converter.read tokens).held :=
    List.mem_append_left _ (List.mem_reverse.mp h)
  exact (Converter.mem_held_foldl (Converter.mem_held_unwind hread)).resolve_left
    (by simp [Converter.held])

end PocketCalculator
