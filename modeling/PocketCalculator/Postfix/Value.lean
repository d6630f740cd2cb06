import PocketCalculator.Event

/-!
# The value of a postfix list

A list of tokens in postfix order is reduced on a stack of numbers: a number is pushed, any other
token takes two numbers and pushes the result. The right operand is on top. A missing operand is
NaN, and a token that is not an operator multiplies. The value is the top of the stack at the end,
or NaN.
-/

namespace PocketCalculator

open Binary

/-- The operation of a token on two numbers: that of an operator, and multiplication otherwise. -/
def Token.combine : Token → Binary64 → Binary64 → Binary64
  | .operation op => op.apply
  | _ => Operator.times.apply

/-- The state of an evaluation. -/
structure ValueStack where
  /-- The numbers, the top first. -/
  values : List Binary64 := []
  /-- The reports so far, the latest first. -/
  journal : List Event := []

namespace ValueStack

/-- Takes the top number, or NaN from an empty stack. -/
def pop (s : ValueStack) : Binary64 × ValueStack :=
  match s.values with
  | value :: values => (value, { s with values := values })
  | [] => (.nan, { s with journal := .missingOperand :: s.journal })

/-- Puts a number on the stack. -/
def push (s : ValueStack) (value : Binary64) : ValueStack :=
  { s with values := value :: s.values }

/-- Reads one token. -/
def step (s : ValueStack) : Token → ValueStack
  | .number _ value => s.push value
  | token =>
      let (right, s) := s.pop
      let (left, s) := s.pop
      s.push (token.combine left right)

/-- The top of the stack. -/
def top (s : ValueStack) : Binary64 := s.values.headD .nan

end ValueStack

/-- The value of a list of tokens in postfix order. -/
def Postfix.value (tokens : List Token) : Logged Event Binary64 :=
  let s := tokens.foldl ValueStack.step {}
  ⟨s.top, s.journal.reverse⟩

end PocketCalculator
