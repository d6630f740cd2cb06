import PocketCalculator.Decimal.Numeral

/-!
# Tokens

The words of an expression: literals, the four operators, and brackets. A literal is read once, when
the token is made: a numeral becomes a `number` with its value, any other run of digits and points
is kept as `malformed`. The list of tokens is shown with single spaces between them.
-/

namespace PocketCalculator

open Binary

/-! ## Operators -/

/-- The four binary operators. -/
inductive Operator where
  | plus
  | minus
  | times
  | divide
deriving DecidableEq, Repr

namespace Operator

/-- Multiplication and division bind tighter. -/
def priority : Operator → Nat
  | .plus | .minus => 1
  | .times | .divide => 2

/-- The symbol of an operator. -/
def symbol : Operator → Char
  | .plus => '+'
  | .minus => '-'
  | .times => '*'
  | .divide => '/'

/-- The operation on two numbers, the left operand first. -/
def apply : Operator → Binary64 → Binary64 → Binary64
  | .plus, x, y => x + y
  | .minus, x, y => x - y
  | .times, x, y => x * y
  | .divide, x, y => x / y

end Operator

/-! ## Tokens -/

/-- A word of an expression. -/
inductive Token where
  /-- A numeral as typed, its sign included, and its value. -/
  | number (text : String) (value : Binary64)
  /-- A run of digits and points that is not a numeral. -/
  | malformed (text : String)
  | operation (op : Operator)
  | openBracket
  | closeBracket
deriving BEq

namespace Token

/-- The token of a literal. -/
def ofLiteral (text : List Char) : Token :=
  match Numeral.read? text with
  | some numeral => .number (String.ofList text) numeral.value
  | none => .malformed (String.ofList text)

/-- The token of an operator or a bracket, if the character is one. -/
def ofSymbol? : Char → Option Token
  | '+' => some (.operation .plus)
  | '-' => some (.operation .minus)
  | '*' => some (.operation .times)
  | '/' => some (.operation .divide)
  | '(' => some .openBracket
  | ')' => some .closeBracket
  | _ => none

/-- The characters of operators and brackets, with their tokens. -/
inductive Symbol : Char → Token → Prop where
  | operation (op : Operator) : Symbol op.symbol (.operation op)
  | openBracket : Symbol '(' .openBracket
  | closeBracket : Symbol ')' .closeBracket

/-- The scanner knows these symbols, with these tokens. -/
theorem ofSymbol?_eq_some_iff {c : Char} {token : Token} :
    ofSymbol? c = some token ↔ Symbol c token := by
  constructor
  · intro h
    unfold ofSymbol? at h
    split at h <;> cases h
    · exact .operation .plus
    · exact .operation .minus
    · exact .operation .times
    · exact .operation .divide
    · exact .openBracket
    · exact .closeBracket
  · rintro (op | _ | _)
    · cases op <;> rfl
    · rfl
    · rfl

/-- Whether a token is an operator. -/
def isOperator : Token → Bool
  | .operation _ => true
  | _ => false

/-- Whether an operand is due after the token: it is an operator or an opening bracket. -/
def awaitsOperand : Token → Bool
  | .operation _ | .openBracket => true
  | _ => false

/-- The text of a token. -/
def text : Token → String
  | .number text _ => text
  | .malformed text => text
  | .operation op => op.symbol.toString
  | .openBracket => "("
  | .closeBracket => ")"

/-- The texts of the tokens with single spaces between them. -/
def joined : List Token → String
  | [] => ""
  | [token] => token.text
  | token :: tokens => token.text ++ " " ++ joined tokens

/-- One token has its own text, -/
@[simp] theorem joined_singleton (token : Token) : joined [token] = token.text := rfl

/-- and a space stands between the first and the others. -/
@[simp] theorem joined_cons_cons (token next : Token) (tokens : List Token) :
    joined (token :: next :: tokens) = token.text ++ " " ++ joined (next :: tokens) := rfl

end Token

end PocketCalculator
