import PocketCalculator.Event

/-!
# Postfix order

The tokens of an expression are put into postfix order, where an operator follows its two operands
and brackets are not needed. Operators wait on a stack until an operator that does not bind tighter
arrives, so operators of equal priority associate to the left. Nothing is refused: a closing bracket
without a partner empties the stack, and an opening bracket without a partner ends up in the output.

`Converter` is the state between two tokens, `Converter.step` reads one, and `Postfix.ofTokens` puts
a whole list in order.
-/

namespace PocketCalculator

/-! ## The stack -/

/-- What waits on the stack. -/
inductive Pending where
  | operation (op : Operator)
  | bracket
deriving DecidableEq, Repr

namespace Pending

/-- The token that waits. -/
def token : Pending → Token
  | .operation op => .operation op
  | .bracket => .openBracket

/-- Whether the entry leaves the stack before `op` enters it: it is an operator, and `op` does not
bind tighter. -/
def yieldsTo (op : Operator) : Pending → Bool
  | .operation top => op.priority ≤ top.priority
  | .bracket => false

end Pending

/-! ## The conversion -/

/-- The state of a conversion. The output and the journal hold the latest entry first, the stack its
top. -/
structure Converter where
  /-- The tokens put out so far. -/
  output : List Token := []
  /-- The operators and brackets that wait. -/
  stack : List Pending := []
  /-- The reports so far. -/
  journal : List Event := []

namespace Converter

/-- Puts out the top of the stack as long as `leaves` holds of it. -/
def unwind (c : Converter) (leaves : Pending → Bool) : Converter :=
  { c with
    output := ((c.stack.takeWhile leaves).map Pending.token).reverse ++ c.output
    stack := c.stack.dropWhile leaves }

/-- Puts an entry on the stack. -/
def push (c : Converter) (entry : Pending) : Converter := { c with stack := entry :: c.stack }

/-- Removes the top of the stack. -/
def drop (c : Converter) : Converter := { c with stack := c.stack.tail }

/-- Reads one token. -/
def step (c : Converter) : Token → Converter
  | .number text value => { c with output := .number text value :: c.output }
  | .malformed text => { c with journal := .ignoredLiteral text :: c.journal }
  | .operation op => (c.unwind (Pending.yieldsTo op)).push (.operation op)
  | .openBracket => c.push .bracket
  | .closeBracket => (c.unwind (· != .bracket)).drop

/-- Reads a list of tokens and puts out all that waits. -/
def read (tokens : List Token) : Converter :=
  (tokens.foldl step {}).unwind fun _ => true

end Converter

/-- The tokens in postfix order. -/
def Postfix.ofTokens (tokens : List Token) : Logged Event (List Token) :=
  let c := Converter.read tokens
  ⟨c.output.reverse, c.journal.reverse ++ [.reordered c.output.reverse]⟩

end PocketCalculator
