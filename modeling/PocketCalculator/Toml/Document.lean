import PocketCalculator.Toml.Quotation

/-!
# TOML documents

A document is a list of lines: pairs, headers, and lines with neither. `Table.ofText?` reads a text
and puts the table of the document together; it gives nothing if the text breaks a rule. Arrays and
braced tables nest at most `deepest` levels, and a dotted key has at most as many parts before its
last one.
-/

namespace PocketCalculator.Toml

open Text (Reading)
open Text.Reading

/-- The bound on nesting. -/
def deepest : Nat := 80

namespace Reading

/-! ## Keys -/

/-- A character of a key without quotes. -/
def isBareKeyChar (c : Char) : Bool := c.isAlphanum || c == '_' || c == '-'

/-- A key. -/
def key : Reading Key := do
  let start ← left
  let name ← match ← get with
    | '"' :: _ | '\'' :: _ => oneLine
    | _ => String.ofList <$> takeSome isBareKeyChar
  return ⟨name, start, ← left⟩

/-- The parts of a dotted key, and its last part. Blanks may surround the points. -/
def dottedKey : Reading (List Key × Key) := do
  let parts ← pieces do
    let part ← key
    blanks
    if ← lookingAt ['.'] then
      expect ['.']
      blanks
      return (false, [part])
    return (true, [part])
  match parts.reverse with
  | last :: path => if path.length < deepest then return (path.reverse, last) else failure
  | [] => failure

/-! ## Values -/

/-- A character of a number, date or Boolean. -/
def isWordChar (c : Char) : Bool :=
  c.isAlphanum || c == '_' || c == '-' || c == '+' || c == '.' || c == ':'

/-- A word: a scalar without quotes. A date and a time may have a single space between them. -/
def word : Reading (List Char) := do
  let first ← takeSome isWordChar
  match ← get with
  | ' ' :: c :: _ =>
      if date? first = some [] ∧ c.isDigit then
        expect [' ']
        return first ++ ' ' :: (← takeSome isWordChar)
      return first
  | _ => return first

/-- A value that holds no others. -/
def scalar : Reading Value := do
  match ← get with
  | '"' :: _ | '\'' :: _ => return .string (← string)
  | _ => StateT.lift (Value.ofWord? (← word))

/-- After an item between brackets: a comma, or the closing bracket, which stays. -/
def separator (closing : Char) : Reading Unit := do
  trivia
  unless ← lookingAt [closing] do expect [',']

/-- The rest of an array, given the reading of its items. -/
def array (item : Reading Value) : Reading Value := do
  let items ← pieces do
    trivia
    if ← lookingAt [']'] then
      expect [']']
      return (true, [])
    let value ← item
    separator ']'
    return (false, [value])
  return .array items

/-- A pair, given the reading of its value and of what surrounds the equals sign. -/
def pair (gap : Reading Unit) (value : Reading Value) : Reading Pair := do
  let (path, key) ← dottedKey
  gap
  expect ['=']
  gap
  let start ← left
  let value ← value
  return ⟨path, key, ⟨start, ← left⟩, value⟩

/-- The rest of a braced table, given the reading of its values. -/
def bracedTable (value : Reading Value) : Reading Value := do
  let pairs ← pieces do
    trivia
    if ← lookingAt ['}'] then
      expect ['}']
      return (true, [])
    let p ← pair trivia value
    separator '}'
    return (false, [p])
  return .table (← StateT.lift ((Table.empty .braced).defineAll pairs))

/-- A value that nests at most the given number of levels. -/
def value : Nat → Reading Value
  | 0 => scalar
  | depth + 1 => do
      match ← get with
      | '[' :: rest => set rest; array (value depth)
      | '{' :: rest => set rest; bracedTable (value depth)
      | _ => scalar

/-! ## Lines -/

/-- A line that counts. -/
inductive Line where
  | pair (pair : Pair)
  | header (header : Header)

/-- A header. -/
def header : Reading Header := do
  let start ← left
  expect ['[']
  let repeated ← lookingAt ['[']
  if repeated then expect ['[']
  blanks
  let (path, key) ← dottedKey
  expect [']']
  if repeated then expect [']']
  return ⟨path, key, repeated, start, ← left⟩

/-- A line, with the note whether it is the last. -/
def line : Reading (Bool × List Line) := do
  blanks
  let content ← match ← get with
    | [] | '#' :: _ | '\n' :: _ | '\r' :: _ => pure []
    | '[' :: _ => do pure [Line.header (← header)]
    | _ => do pure [Line.pair (← pair blanks (value deepest))]
  blanks
  comment
  if (← left) = 0 then return (true, content)
  let _ ← lineEnd
  return (false, content)

/-- The lines of a document. A byte order mark at its beginning is skipped. -/
def document : Reading (List Line) := do
  if ← lookingAt ['\uFEFF'] then expect ['\uFEFF']
  pieces line

end Reading

/-! ## The table of a document -/

/-- The pairs before the first header, and the sections. -/
def sections : List Reading.Line → List Pair × List (Header × List Pair)
  | [] => ([], [])
  | .pair p :: lines => (p :: (sections lines).1, (sections lines).2)
  | .header h :: lines => ([], (h, (sections lines).1) :: (sections lines).2)

/-- The table of a document. -/
def Table.ofText? (text : String) : Option Table := do
  let (lines, _) ← Reading.document.run text.toList
  let (pairs, parts) := sections lines
  parts.foldlM addSection (← (empty .explicit).defineAll pairs)

end PocketCalculator.Toml
