import PocketCalculator.Event

/-!
# Scanning an expression

An expression is split into tokens character by character. Digits and points gather in a run; any
other character ends the run, and the run becomes one literal. A minus sign where an operand is due
belongs to the next literal, whatever stands between; every other sign is a token of its own. All
other characters only separate. Nothing is refused.

`Scanner` is the state between two characters, `Scanner.step` reads one, and `Token.scan` reads a
whole text.
-/

namespace PocketCalculator

/-- The state of a scan. The three lists hold the latest entry first. -/
structure Scanner where
  /-- The tokens made so far. -/
  tokens : List Token := []
  /-- The run of digits and points being read. -/
  run : List Char := []
  /-- Whether a minus sign waits for the next literal. -/
  signed : Bool := false
  /-- The reports so far. -/
  journal : List Event := []

namespace Scanner

/-- The characters of literals. -/
def isLiteralChar (c : Char) : Bool := c.isDigit || c == '.'

/-- Ends the run: it becomes a literal, with the waiting sign. An empty run changes nothing, and the
sign keeps waiting. -/
def flush (s : Scanner) : Scanner :=
  if s.run.isEmpty then
    s
  else
    let literal := if s.signed then '-' :: s.run.reverse else s.run.reverse
    match Token.ofLiteral literal with
    | .malformed text =>
        { tokens := .malformed text :: s.tokens
          journal := .malformedLiteral text :: s.journal }
    | token => { tokens := token :: s.tokens, journal := s.journal }

/-- Whether an operand is due: at the beginning, after an operator or after an opening bracket. -/
def awaitsOperand (s : Scanner) : Bool :=
  match s.tokens with
  | [] => true
  | last :: _ => last.awaitsOperand

/-- A character that is not part of a literal, the run being ended. -/
def separate (s : Scanner) (c : Char) : Scanner :=
  if c = '-' ∧ s.awaitsOperand then
    { s with signed := true }
  else
    match Token.ofSymbol? c with
    | some token => { s with tokens := token :: s.tokens }
    | none => s

/-- Reads one character. -/
def step (s : Scanner) (c : Char) : Scanner :=
  if isLiteralChar c then { s with run := c :: s.run } else s.flush.separate c

/-- Reads a list of characters and ends the last run. -/
def read (text : List Char) : Scanner := (text.foldl step {}).flush

end Scanner

/-- The tokens of an expression. -/
def Token.scan (text : String) : Logged Event (List Token) :=
  let s := Scanner.read text.toList
  ⟨s.tokens.reverse, s.journal.reverse ++ [.scanned s.tokens.reverse]⟩

end PocketCalculator
