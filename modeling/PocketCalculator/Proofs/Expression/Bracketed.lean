import PocketCalculator.Proofs.Postfix.Blocks
import PocketCalculator.Proofs.Token.Cuts

/-!
# Expressions in brackets

Brackets around an expression do not change what it means. For the conversion this is a matter of
blocks of tokens; here it is shown of texts. A scan that begins after an opening bracket finds what
it would have found from the beginning, because in both places an operand is due
(`Scanner.foldl_above`), and the brackets among the tokens of a text are those among its characters
(`brackets_scan`).

* **`block_apart_from_context`**: a bracketed block among any tokens, and a text in brackets.
-/

namespace PocketCalculator

open Brackets (Balanced Side)
open Scanner (isLiteralChar)

/-! ### The brackets of a text -/

namespace Token

variable {c : Char} {token : Token}

/-- The token of a bracket is that bracket, and no other symbol has the token of a bracket. -/
theorem bracket?_of_ofSymbol? (h : ofSymbol? c = some token) :
    token.bracket? = Side.ofChar? c := by
  cases ofSymbol?_eq_some_iff.mp h with
  | operation op => cases op <;> rfl
  | openBracket => rfl
  | closeBracket => rfl

/-- Brackets are symbols. -/
theorem ofChar?_of_ofSymbol? (h : ofSymbol? c = none) : Side.ofChar? c = none := by
  unfold Side.ofChar?
  split
  · cases h
  · cases h
  · rfl

/-- A literal is not a bracket. -/
theorem bracket?_ofLiteral (text : List Char) : (ofLiteral text).bracket? = none := by
  unfold ofLiteral
  cases Numeral.read? text <;> rfl

end Token

namespace Scanner

open Token (brackets)

variable (s : Scanner)

/-- Ending a literal adds no bracket, -/
theorem brackets_flush : brackets s.flush.tokens = brackets s.tokens := by
  by_cases h : s.run = []
  · rw [flush_of_run_nil h]
  · rw [(flush_of_run h).1, Token.brackets_cons, Token.bracket?_ofLiteral]
    rfl

/-- and a separator adds the one that it is, if it is one. -/
theorem brackets_separate (c : Char) :
    brackets (s.separate c).tokens = (Side.ofChar? c).toList ++ brackets s.tokens := by
  unfold separate
  split
  case isTrue h =>
    obtain ⟨rfl, -⟩ := h
    rfl
  case isFalse h =>
    cases hsymbol : Token.ofSymbol? c with
    | none => rw [Token.ofChar?_of_ofSymbol? hsymbol]; rfl
    | some token =>
        rw [← Token.bracket?_of_ofSymbol? hsymbol]
        exact Token.brackets_cons token s.tokens

/-- A character adds the bracket that it is. -/
theorem brackets_step (c : Char) :
    brackets (s.step c).tokens = (Side.ofChar? c).toList ++ brackets s.tokens := by
  unfold step
  split
  case isTrue h =>
    have hnone : Side.ofChar? c = none := by
      unfold Side.ofChar?
      split
      · exact absurd h (by decide)
      · exact absurd h (by decide)
      · rfl
    rw [hnone]
    rfl
  case isFalse h => rw [brackets_separate, brackets_flush]

/-- A text adds its own brackets, whatever has been read before. -/
theorem brackets_foldl (text : List Char) :
    brackets (text.foldl step s).tokens =
      (text.filterMap Side.ofChar?).reverse ++ brackets s.tokens := by
  induction text generalizing s with
  | nil => rfl
  | cons c text ih =>
      rw [List.foldl_cons, ih, brackets_step, List.filterMap_cons]
      cases Side.ofChar? c <;> simp

end Scanner

/-- The brackets among the tokens of a text are those of the text. -/
theorem brackets_scan (text : String) :
    Token.brackets (Token.scan text).value = Brackets.ofText text := by
  have hread := (text.toList.foldl Scanner.step {}).brackets_flush
  rw [Scanner.brackets_foldl, Token.brackets_nil, List.append_nil] at hread
  rw [Token.scan, Token.brackets, List.filterMap_reverse]
  exact (congrArg List.reverse hread).trans (List.reverse_reverse _)

/-! ### The scan of a text in brackets -/

namespace Scanner

/-- The state with tokens found earlier. -/
def above (s : Scanner) (earlier : List Token) : Scanner :=
  { s with tokens := s.tokens ++ earlier }

variable {earlier : List Token} (h : earlier.head?.all Token.awaitsOperand = true)
include h

/-- Where an operand is due after the earlier tokens, it is due as at the beginning. -/
theorem awaitsOperand_above (s : Scanner) : (s.above earlier).awaitsOperand = s.awaitsOperand := by
  obtain ⟨tokens, run, signed, journal⟩ := s
  cases tokens with
  | nil => cases earlier with
    | nil => rfl
    | cons last earlier => exact h
  | cons last tokens => rfl

omit h in
/-- The earlier tokens do not matter for the literal that ends, -/
theorem flush_above (s : Scanner) : (s.above earlier).flush = s.flush.above earlier := by
  obtain ⟨tokens, run, signed, journal⟩ := s
  cases run with
  | nil => rfl
  | cons c run =>
      cases hliteral : Token.ofLiteral
        (if signed then '-' :: (run.reverse ++ [c]) else run.reverse ++ [c]) <;>
        simp [flush, above, hliteral]

/-- nor for a separator, -/
theorem separate_above (s : Scanner) (c : Char) :
    (s.above earlier).separate c = (s.separate c).above earlier := by
  unfold separate
  rw [awaitsOperand_above h]
  split
  · rfl
  · cases Token.ofSymbol? c <;> rfl

/-- nor for any character. -/
theorem step_above (s : Scanner) (c : Char) :
    (s.above earlier).step c = (s.step c).above earlier := by
  unfold step
  split
  · rfl
  · rw [flush_above, separate_above h]

/-- What is read after the earlier tokens is what would be read from the beginning. -/
theorem foldl_above (s : Scanner) (text : List Char) :
    text.foldl step (s.above earlier) = (text.foldl step s).above earlier := by
  induction text generalizing s with
  | nil => rfl
  | cons c text ih => rw [List.foldl_cons, step_above h, ih, List.foldl_cons]

end Scanner

/-- The tokens of a text in brackets are those of the text, in brackets. -/
theorem value_scan_bracketed (text : String) :
    (Token.scan ("(" ++ text ++ ")")).value =
      [.openBracket] ++ (Token.scan text).value ++ [.closeBracket] := by
  have hopen : Scanner.step {} '(' = Scanner.above {} [.openBracket] := rfl
  set s := text.toList.foldl Scanner.step {} with hs
  have hsymbol : Token.ofSymbol? ')' = some .closeBracket := rfl
  have hclose : ((s.above [.openBracket]).step ')').tokens =
      .closeBracket :: (s.flush.above [.openBracket]).tokens := by
    rw [Scanner.step_of_symbol _ hsymbol fun hminus => absurd hminus (by decide),
      Scanner.flush_above]
  have hread : Scanner.read ("(" ++ text ++ ")").toList = (s.above [.openBracket]).step ')' := by
    have hchars : ("(" ++ text ++ ")").toList = '(' :: (text.toList ++ [')']) := by simp
    rw [Scanner.read, hchars, List.foldl_cons, List.foldl_concat, hopen, Scanner.foldl_above rfl,
      ← hs, Scanner.flush_of_run_nil (Scanner.run_step _ (by decide))]
  rw [Token.scan, Token.scan, hread, hclose]
  simp [Scanner.above, Scanner.read, hs]

/-- A block in brackets, with nothing around it. -/
theorem value_ofTokens_bracketed {tokens : List Token} (h : Balanced (Token.brackets tokens)) :
    (Postfix.ofTokens ([.openBracket] ++ tokens ++ [.closeBracket])).value =
      (Postfix.ofTokens tokens).value := by
  rw [value_ofTokens, Converter.foldl_block h]
  simp [Converter.result]

/-- **A bracketed block is compiled apart from its context.** Among any tokens, a block whose
brackets are in pairs is put in its own postfix order at the place where a number would be put; and
a text whose brackets are in pairs has the same postfix order with brackets around it. -/
theorem block_apart_from_context :
    (∀ (pre post block : List Token) (x : Token), Balanced (Token.brackets block) →
      x.isNumber = true → x ∉ pre → x ∉ post →
      x.Replaced (Postfix.ofTokens block).value (Postfix.ofTokens (pre ++ [x] ++ post)).value
        (Postfix.ofTokens (pre ++ ([.openBracket] ++ block ++ [.closeBracket]) ++ post)).value) ∧
      ∀ text : String, Balanced (Brackets.ofText text) →
        (toRpn ("(" ++ text ++ ")")).value = (toRpn text).value := by
  constructor
  · intro pre post block x hblock hx hpre hpost
    exact replaced_ofTokens_block hblock hx hpre hpost
  · intro text htext
    rw [← brackets_scan] at htext
    simp only [toRpn, Logged.value_bind, Logged.value_pure]
    rw [value_scan_bracketed, value_ofTokens_bracketed htext]

/-- A block after a closing bracket without a partner and inside an opening one without, and a text
with a pair of its own. -/
theorem block_apart_from_context_stray :
    let one : Token := .number "1" 1
    let two : Token := .number "2" 2
    let x : Token := .number "x" .nan
    let pre := [.closeBracket, one, .operation .times, .openBracket]
    let post := [.operation .minus, .malformed "."]
    let block := [.openBracket, two, .operation .plus, .closeBracket, two]
    Balanced (Token.brackets block) ∧ x.isNumber = true ∧ x ∉ pre ∧ x ∉ post ∧
      x.Replaced (Postfix.ofTokens block).value (Postfix.ofTokens (pre ++ [x] ++ post)).value
        (Postfix.ofTokens (pre ++ ([.openBracket] ++ block ++ [.closeBracket]) ++ post)).value ∧
      Balanced (Brackets.ofText "-(1)-2") ∧
      (toRpn ("(" ++ "-(1)-2" ++ ")")).value = (toRpn "-(1)-2").value := by
  intro one two x pre post block
  have hblock : Balanced (Token.brackets block) := by decide
  have hpre : x ∉ pre := by simp [x, pre, one]
  have hpost : x ∉ post := by simp [x, post]
  have htext : Balanced (Brackets.ofText "-(1)-2") := by decide
  exact ⟨hblock, rfl, hpre, hpost,
    block_apart_from_context.1 pre post block x hblock rfl hpre hpost, htext,
    block_apart_from_context.2 "-(1)-2" htext⟩

end PocketCalculator
