import PocketCalculator.Decimal.Numeral
import PocketCalculator.Pattern.Atom

/-!
# Written patterns

A pattern is written as alternatives between bars, each of them a sequence of items. An item is an
atom or a group in round brackets, and repetitions may follow it. A group may carry a name or
switches; switches without an item hold from there to the end of the group around them.
`Pattern.ofText?` reads a whole text and gives nothing if the text is not a pattern.
-/

namespace PocketCalculator.Pattern

open Text (Reading)
open Text.Reading

/-! ## Groups as far as they have been read -/

/-- The alternatives of a group as far as they have been read. -/
structure Progress where
  /-- The options that hold from here on. -/
  options : Options
  /-- The alternatives that are complete. -/
  alternatives : Option Pattern := none
  /-- The items of the present alternative before the last one. -/
  items : Pattern := .empty
  /-- The last item, unless a repetition has nothing to repeat here. -/
  last : Option Pattern := none
  /-- The names of groups. -/
  names : List (List Char) := []

namespace Progress

/-- The present alternative. -/
def sequence (p : Progress) : Pattern :=
  match p.last with
  | some last => .seq p.items last
  | none => p.items

/-- All alternatives. -/
def pattern (p : Progress) : Pattern :=
  match p.alternatives with
  | some alternatives => .either alternatives p.sequence
  | none => p.sequence

/-- One more item. -/
def add (p : Progress) (item : Pattern) : Progress :=
  { p with items := p.sequence, last := some item }

/-- A bar: the next alternative begins. -/
def split (p : Progress) : Progress :=
  { p with alternatives := some p.pattern, items := .empty, last := none }

/-- Switches without an item. -/
def switch (p : Progress) (options : Options) : Progress :=
  { p with options := options, items := p.sequence, last := none }

/-- Repeats the last item. -/
def repeatLast? (p : Progress) (least : Nat) (most : Option Nat) : Option Progress :=
  p.last.map fun last => { p with last := some (.repeated last least most) }

end Progress

/-! ## Repetitions -/

/-- A decimal number, white space around it aside. It has at most 32 bits. -/
def count (o : Options) : Reading Nat := do
  let _ ← takeWhile Text.isBlank
  let digits ← pieces do
    match ← get with
    | c :: rest =>
        if c.isDigit then
          set rest
          skip o
          return (false, [c])
        else
          return (true, [])
    | [] => return (true, [])
  let _ ← takeWhile Text.isBlank
  skip o
  let n := digitsValue digits
  if digits ≠ [] ∧ n < UInt32.size then return n else failure

/-- The bounds of a repetition between braces, after the opening one. -/
def bounds (o : Options) : Reading (Nat × Option Nat) := do
  skip o
  let least ← count o
  let most ←
    if ← accept [','] then
      skip o
      if ← lookingAt ['}'] then pure none else some <$> count o
    else
      pure (some least)
  expect ['}']
  if most.any (· < least) then failure else return (least, most)

/-- A question mark directly after a repetition asks for the shortest match, which does not matter
for its existence. -/
def shortest : Reading Unit := do
  let _ ← accept ['?']

/-! ## Switches -/

/-- The options with one switch turned on or off. -/
def Options.turned (o : Options) (on : Bool) : Char → Option Options
  | 'i' => some { o with caseless := on }
  | 'm' => some { o with lineMarks := on }
  | 's' => some { o with pointForAll := on }
  | 'R' => some { o with returns := on }
  | 'u' => some { o with unicode := on }
  | 'x' => some { o with spaced := on }
  | 'U' => some o
  | _ => none

/-- The options after a text of switches: letters, each at most once, and one hyphen at most, after
which the switches are turned off and which has to be followed by one. -/
def Options.switched? (o : Options) (text : List Char) : Option Options := do
  if text.length ≠ text.eraseDups.length ∨ text.getLast? = some '-' then none
  let on := text.takeWhile (· != '-')
  let off := (text.dropWhile (· != '-')).drop 1
  let o ← on.foldlM (fun o c => o.turned true c) o
  off.foldlM (fun o c => o.turned false c) o

/-! ## Groups -/

/-- What an opening round bracket begins. -/
inductive Opening where
  /-- A group with its options and possibly its name. -/
  | group (options : Options) (name : Option (List Char))
  /-- Switches without an item. -/
  | switches (options : Options)

/-- Whether a character may stand in the name of a group. -/
def isNameChar (c : Char) (first : Bool) : Bool :=
  let kind := Text.category c
  c == '_' || kind.isLetter || kind == .Nl
    || (!first && (c == '.' || c == '[' || c == ']' || kind.isNumber))

/-- The name of a group, up to the closing angle bracket. -/
def groupName : Reading (List Char) := do
  let name ← takeWhile (· != '>')
  expect ['>']
  match name with
  | first :: more =>
      if isNameChar first true ∧ more.all (isNameChar · false) then return name else failure
  | [] => failure

/-- What an opening round bracket begins, after the bracket. -/
def opening (o : Options) : Reading Opening := do
  skip o
  if ← accept ['?', 'P', '<'] then return .group o (some (← groupName))
  if ← accept ['?', '<'] then return .group o (some (← groupName))
  if ← accept ['?'] then
    let text ← takeWhile fun c => !(c == ':' || c == ')')
    let options ← StateT.lift (o.switched? text)
    if ← accept [':'] then return .group options none
    expect [')']
    if text.isEmpty then failure else return .switches options
  return .group o none

/-- How deep groups and sets may nest. -/
def deepest : Nat := 250

/-- The next item, given the reading of a group inside. It is the last one at a closing round
bracket and at the end of the text. -/
def item (group : Options → Reading Progress) (p : Progress) : Reading (Bool × Progress) := do
  let o := p.options
  skip o
  match ← get with
  | [] | ')' :: _ => return (true, p)
  | '|' :: rest => set rest; return (false, p.split)
  | '(' :: rest => do
      set rest
      match ← opening o with
      | .switches options => return (false, p.switch options)
      | .group options name =>
          let inner ← group options
          expect [')']
          let names := name.toList ++ inner.names ++ p.names
          return (false, { p.add inner.pattern with names := names })
  | '[' :: rest => do
      set rest
      return (false, p.add (.one (← o.allowed (← bracketed o deepest))))
  | '*' :: rest => set rest; shortest; return (false, ← StateT.lift (p.repeatLast? 0 none))
  | '+' :: rest => set rest; shortest; return (false, ← StateT.lift (p.repeatLast? 1 none))
  | '?' :: rest => set rest; shortest; return (false, ← StateT.lift (p.repeatLast? 0 (some 1)))
  | '{' :: rest => do
      set rest
      let (least, most) ← bounds o
      skip o
      shortest
      return (false, ← StateT.lift (p.repeatLast? least most))
  | '.' :: rest => set rest; return (false, p.add (.one (← o.allowed o.point)))
  | '^' :: rest => set rest; return (false, p.add (.boundary o.lineStart))
  | '$' :: rest => set rest; return (false, p.add (.boundary o.lineEnd))
  | '\\' :: rest => set rest; return (false, p.add ((← escape o).pattern o))
  | c :: rest => set rest; return (false, p.add ((Atom.char c).pattern o))

/-- The alternatives of a group, whose groups nest at most the given number of levels. -/
def alternatives : Nat → Options → Reading Progress
  | 0, _ => failure
  | depth + 1, o => repeating (item (alternatives depth)) { options := o }

/-- The most places and characters that a pattern may ask for. -/
def largest : Nat := 327680

/-- The pattern that a text writes. All of the text has to be read, names of groups must differ, and
the pattern must not be too large. -/
def ofText? (text : String) : Option Pattern := do
  let (progress, rest) ← (alternatives (deepest + 1) {}).run text.toList
  let p := progress.pattern
  if rest = [] ∧ progress.names.Nodup ∧ p.size ≤ largest then some p else none

end PocketCalculator.Pattern
