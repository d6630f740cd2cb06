import PocketCalculator.Postfix.Conversion
import PocketCalculator.Postfix.Value
import PocketCalculator.Token.Scanner

/-!
# Evaluating an expression

The path of an expression from its text to its value: tokens, postfix order, value. `evaluate` gives
the value, `toRpn` the postfix order as a text, and `explain` the value together with the texts of
both intermediate lists. No expression is refused; a malformed one has the value NaN or the value of
what remains.
-/

namespace PocketCalculator

open Binary

/-- The intermediate lists of a computation, as texts. -/
structure Working where
  /-- The tokens of the expression. -/
  tokens : String := ""
  /-- The tokens in postfix order. -/
  rpn : String := ""
deriving DecidableEq, Repr

/-- The value of an expression. -/
def evaluate (expression : String) : Logged Event Binary64 := do
  let tokens ← Token.scan expression
  let ordered ← Postfix.ofTokens tokens
  Postfix.value ordered

/-- The postfix order of an expression, as a text. -/
def toRpn (expression : String) : Logged Event String := do
  let tokens ← Token.scan expression
  let ordered ← Postfix.ofTokens tokens
  return Token.joined ordered

/-- The value of an expression and the working that led to it. -/
def explain (expression : String) : Logged Event (Binary64 × Working) := do
  let tokens ← Token.scan expression
  let ordered ← Postfix.ofTokens tokens
  let value ← Postfix.value ordered
  return (value, ⟨Token.joined tokens, Token.joined ordered⟩)

end PocketCalculator
