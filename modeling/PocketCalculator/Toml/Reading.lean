import PocketCalculator.Text.Reading

/-!
# Blanks and comments of TOML

What may stand between the words of a document: spaces and tabs, line ends, and comments that run to
the end of a line.
-/

namespace PocketCalculator.Toml

open Text (Reading)
open Text.Reading

namespace Reading

/-- The characters of comments and of text in quotes: a tab, and all but control characters. -/
def isPlain (c : Char) : Bool := c == '\t' || (' ' ≤ c && c != '\x7f')

/-- A space or a tab. -/
def isBlank (c : Char) : Bool := c == ' ' || c == '\t'

/-- Skips spaces and tabs. -/
def blanks : Reading Unit := do
  let _ ← takeWhile isBlank

/-- A line end: a line feed, possibly after a carriage return. -/
def lineEnd : Reading (List Char) := do
  match ← get with
  | '\n' :: rest => set rest; return ['\n']
  | '\r' :: '\n' :: rest => set rest; return ['\r', '\n']
  | _ => failure

/-- Skips a comment if there is one. -/
def comment : Reading Unit := do
  if ← lookingAt ['#'] then
    let _ ← takeWhile isPlain

/-- Skips blanks, comments and line ends. -/
def trivia : Reading Unit := do
  let _ ← pieces (α := Unit) do
    blanks
    comment
    match ← get with
    | '\n' :: _ | '\r' :: _ => let _ ← lineEnd; return (false, [])
    | _ => return (true, [])

end Reading

end PocketCalculator.Toml
