import PocketCalculator.Decimal.Layout
import PocketCalculator.Journal
import PocketCalculator.Text.Quoted
import PocketCalculator.Token.Basic

/-!
# Events of a computation

What a computation can report while it runs, with the level and the wording of each report.
-/

namespace PocketCalculator

open Binary

/-- A report of the computation of an expression. -/
inductive Event where
  /-- A literal of the expression is not a numeral. -/
  | malformedLiteral (text : String)
  /-- The expression has been split into tokens. -/
  | scanned (tokens : List Token)
  /-- A malformed literal is left out of the postfix form. -/
  | ignoredLiteral (text : String)
  /-- The tokens have been put into postfix order. -/
  | reordered (tokens : List Token)
  /-- An operator found the value stack empty. -/
  | missingOperand
  /-- The value of an expression, and its postfix form as a text. -/
  | computed (expression : String) (value : Binary64) (rpn : String)

namespace Event

/-- The level of a report. -/
def level : Event → Level
  | .scanned _ | .reordered _ => .trace
  | _ => .debug

/-- The wording of a report. -/
def message : Event → String
  | .malformedLiteral text => "littéral mal formé: " ++ Text.quoted text
  | .scanned tokens => "jetons: " ++ Token.joined tokens
  | .ignoredLiteral text => "rpn: littéral ignoré " ++ Text.quoted text
  | .reordered tokens => "rpn: " ++ Token.joined tokens
  | .missingOperand => "pile de valeurs vide: opérande manquant"
  | .computed expression value rpn =>
      Text.quoted expression ++ " = " ++ Layout.plain.text value ++ " (rpn: " ++ rpn ++ ")"

end Event

end PocketCalculator
