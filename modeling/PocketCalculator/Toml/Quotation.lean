import PocketCalculator.Toml.Reading
import PocketCalculator.Toml.Scalar

/-!
# TOML strings

The four ways to write a string: between double quotes, where a backslash begins an escape, or
between single quotes, where every character stands for itself; and either of them on one line, or
on several between triple quotes. A line end directly after an opening triple quote does not count.
-/

namespace PocketCalculator.Toml

open Text (Reading)
open Text.Reading

namespace Reading

/-! ## Escapes -/

/-- The character with the code point written by `width` hexadecimal digits. -/
def codePoint (width : Nat) : Reading Char := do
  let digits := (← get).take width
  if digits.length ≠ width then failure
  modify (·.drop width)
  let code ← StateT.lift (inBase? 16 digits)
  if code.isValidChar then return Char.ofNat code else failure

/-- The character of an escape, after its backslash. -/
def escape : Reading Char := do
  match ← get with
  | c :: rest =>
      set rest
      match c with
      | '"' => return '"'
      | '\\' => return '\\'
      | 'b' => return '\x08'
      | 't' => return '\t'
      | 'n' => return '\n'
      | 'f' => return '\x0c'
      | 'r' => return '\r'
      | 'e' => return '\x1b'
      | 'x' => codePoint 2
      | 'u' => codePoint 4
      | 'U' => codePoint 8
      | _ => failure
  | [] => failure

/-! ## One line -/

/-- The rest of a string in double quotes. -/
def basic : Reading (List Char) :=
  pieces do
    match ← get with
    | '"' :: rest => set rest; return (true, [])
    | '\\' :: rest => set rest; return (false, [← escape])
    | c :: rest => if isPlain c then set rest; return (false, [c]) else failure
    | [] => failure

/-- The rest of a string in single quotes. -/
def literal : Reading (List Char) := do
  let text ← takeWhile fun c => isPlain c && c != '\''
  expect ['\'']
  return text

/-! ## Several lines -/

/-- Skips the line end after an opening triple quote. -/
def firstLineEnd : Reading Unit := do
  match ← get with
  | '\n' :: _ | '\r' :: _ => let _ ← lineEnd
  | _ => return

/-- A run of quotes inside a string of several lines: up to two of them belong to the text, three
end it, and up to two more directly before the end belong to the text. -/
def quotes (quote : Char) : Reading (Bool × List Char) := do
  let run ← takeSome (· == quote)
  if run.length < 3 then return (false, run)
  if run.length < 6 then return (true, run.drop 3)
  failure

/-- A backslash at the end of a line, with the blanks and line ends that follow it. -/
def continuation : Reading Unit := do
  blanks
  let _ ← lineEnd
  let _ ← pieces (α := Unit) do
    blanks
    match ← get with
    | '\n' :: _ | '\r' :: _ => let _ ← lineEnd; return (false, [])
    | _ => return (true, [])

/-- A backslash inside a string of several lines: an escape, or the end of a line that goes on. -/
def backslash : Reading (List Char) := do
  match ← get with
  | c :: _ =>
      if isBlank c ∨ c = '\n' ∨ c = '\r' then
        continuation
        return []
      else
        return [← escape]
  | [] => failure

/-- The rest of a string in triple double quotes. -/
def basicLines : Reading (List Char) := do
  firstLineEnd
  pieces do
    match ← get with
    | '"' :: _ => quotes '"'
    | '\\' :: rest => set rest; return (false, ← backslash)
    | '\n' :: _ | '\r' :: _ => return (false, ← lineEnd)
    | c :: rest => if isPlain c then set rest; return (false, [c]) else failure
    | [] => failure

/-- The rest of a string in triple single quotes. -/
def literalLines : Reading (List Char) := do
  firstLineEnd
  pieces do
    match ← get with
    | '\'' :: _ => quotes '\''
    | '\n' :: _ | '\r' :: _ => return (false, ← lineEnd)
    | c :: rest => if isPlain c then set rest; return (false, [c]) else failure
    | [] => failure

/-! ## Strings -/

/-- A string on one line, as it may serve as a key. -/
def oneLine : Reading String := do
  match ← get with
  | '"' :: rest => set rest; return String.ofList (← basic)
  | '\'' :: rest => set rest; return String.ofList (← literal)
  | _ => failure

/-- A string. -/
def string : Reading String := do
  match ← get with
  | '"' :: '"' :: '"' :: rest => set rest; return String.ofList (← basicLines)
  | '\'' :: '\'' :: '\'' :: rest => set rest; return String.ofList (← literalLines)
  | _ => oneLine

end Reading

end PocketCalculator.Toml
