import PocketCalculator.Pattern.Basic
import PocketCalculator.Pattern.Set
import PocketCalculator.Text.Hexadecimal
import PocketCalculator.Text.Reading

/-!
# Atoms of patterns

The smallest parts of a written pattern: characters, escapes, and the sets between square brackets.
`Options` are the switches that decide what they mean; they are set inside the pattern itself, as in
`(?i)`.
-/

namespace PocketCalculator.Pattern

open Text (Reading)
open Text.Reading

/-! ## Options -/

/-- The switches of a pattern. -/
structure Options where
  /-- Letters stand for either case. -/
  caseless : Bool := false
  /-- The marks `^` and `$` stand for the ends of each line. -/
  lineMarks : Bool := false
  /-- The point stands for line ends too. -/
  pointForAll : Bool := false
  /-- A carriage return ends a line, alone or before a line feed. -/
  returns : Bool := false
  /-- Sets hold characters beyond ASCII. -/
  unicode : Bool := true
  /-- White space and comments in the pattern do not count. -/
  spaced : Bool := false

/-- Skips what does not count: white space and comments, if the options say so. -/
def skip (o : Options) : Reading Unit := do
  if o.spaced then
    repeating (σ := Unit) (fun _ => do
      match ← get with
      | '#' :: rest =>
          set ((rest.dropWhile (· != '\n')).drop 1)
          return (false, ())
      | c :: rest =>
          if Text.isBlank c then
            set rest
            return (false, ())
          else
            return (true, ())
      | [] => return (true, ())) ()

/-- The set, or with letters in either case if the options say so. -/
def Options.closed (o : Options) (s : CharSet) : CharSet :=
  if o.caseless then (if o.unicode then s.caseless else s.caselessAscii) else s

/-- The set, unless it holds characters beyond ASCII and the options forbid it. -/
def Options.allowed (o : Options) (s : CharSet) : Reading CharSet :=
  if !o.unicode && s '\x80' then failure else return s

/-! ## Boundaries -/

/-- Whether a character is there and is a word character. -/
def Options.isWord (o : Options) (c : Option Char) : Bool :=
  c.any (if o.unicode then CharSet.word else CharSet.asciiWord)

/-- The beginning of a line. -/
def Options.lineStart (o : Options) (before after : Option Char) : Bool :=
  if !o.lineMarks then before.isNone
  else if o.returns then
    before.isNone || before == some '\n' || (before == some '\r' && after != some '\n')
  else before.isNone || before == some '\n'

/-- The end of a line. -/
def Options.lineEnd (o : Options) (before after : Option Char) : Bool :=
  if !o.lineMarks then after.isNone
  else if o.returns then
    after.isNone || after == some '\r' || (after == some '\n' && before != some '\r')
  else after.isNone || after == some '\n'

/-- The characters that a point stands for. -/
def Options.point (o : Options) : CharSet := fun c =>
  o.pointForAll || !(c == '\n' || (o.returns && c == '\r'))

/-! ## Atoms -/

/-- The smallest part of a pattern. -/
inductive Atom where
  | char (c : Char)
  | set (s : CharSet)
  | boundary (holds : Option Char → Option Char → Bool)

/-- The pattern of an atom. -/
def Atom.pattern (o : Options) : Atom → Pattern
  | .char c =>
      .one (if c.toNat < 128 ∨ o.unicode then o.closed (CharSet.single c) else CharSet.single c)
  | .set s => .one s
  | .boundary holds => .boundary holds

/-! ## Escapes -/

/-- The character whose code point the hexadecimal digits write. -/
def ofHex? (digits : List Char) : Option Char := do
  let code ← digits.foldlM (fun n c => do return 16 * n + (← Text.hexValue? c)) 0
  if digits ≠ [] ∧ code.isValidChar then some (Char.ofNat code) else none

/-- Characters up to a closing brace, which is taken too. -/
def upToBrace (o : Options) : Reading (List Char) :=
  pieces do
    skip o
    let c ← next
    if c = '}' then return (true, []) else return (false, [c])

/-- The character of a hexadecimal escape: `width` digits, or any number between braces. Two digits
write a byte if sets are confined to ASCII, and then they must write a character of ASCII. -/
def hexEscape (o : Options) (width : Nat) : Reading Char := do
  skip o
  if ← accept ['{'] then
    StateT.lift (ofHex? (← upToBrace o))
  else
    let digits ← (List.range width).mapM fun _ => do
      skip o
      next
    let c ← StateT.lift (ofHex? digits)
    if width = 2 ∧ !o.unicode ∧ 128 ≤ c.toNat then failure else return c

/-- The name and the sign of a set that is written as a property and its value. -/
def splitProperty (text : List Char) : Option (List Char × Bool × List Char) :=
  let name := text.takeWhile fun c => !(c == '!' || c == ':' || c == '=')
  match text.drop name.length with
  | '!' :: '=' :: value => some (name, false, value)
  | ':' :: value | '=' :: value => some (name, true, value)
  | _ => none

/-- The set that the text between the braces of a property escape names. -/
def propertySet? (o : Options) (text : List Char) : Option CharSet :=
  match splitProperty text with
  | some (property, positive, value) =>
      if CharSet.plainName property = "gc" ∨ CharSet.plainName property = "generalcategory" then
        (CharSet.ofName? value).map fun s =>
          if positive then o.closed s else (o.closed s).complement
      else
        none
  | none => (CharSet.ofName? text).map o.closed

/-- The set of a property escape, after its letter. -/
def property (o : Options) : Reading CharSet := do
  if !o.unicode then failure
  skip o
  let text ← if ← accept ['{'] then upToBrace o else (fun c => [c]) <$> next
  StateT.lift (propertySet? o text)

/-- The boundary that is named between braces after `\b`, or the boundary of a word on either side.
Braces that do not begin with a letter or a hyphen are left for a repetition. -/
def wordBoundary (o : Options) : Reading Atom := do
  let either : Atom := .boundary fun before after => o.isWord before != o.isWord after
  let isNameChar (c : Char) : Bool := c.isAlpha || c == '-'
  match ← get with
  | '{' :: rest =>
      if (rest.head?.any isNameChar) then
        set rest
        match String.ofList (← upToBrace o) with
        | "start" => return .boundary fun before after => !o.isWord before && o.isWord after
        | "end" => return .boundary fun before after => o.isWord before && !o.isWord after
        | "start-half" => return .boundary fun before _ => !o.isWord before
        | "end-half" => return .boundary fun _ after => !o.isWord after
        | _ => failure
      else
        return either
  | _ => return either

/-- The set, or its complement for a capital letter. -/
def Options.shorthand (o : Options) (positive : Bool) (s ascii : CharSet) : Reading Atom := do
  let s := if o.unicode then s else ascii
  return .set (← o.allowed (if positive then s else s.complement))

/-- The atom of an escape, after its backslash. -/
def escape (o : Options) : Reading Atom := do
  match ← next with
  | 'd' => o.shorthand true CharSet.digit Char.isDigit
  | 'D' => o.shorthand false CharSet.digit Char.isDigit
  | 'w' => o.shorthand true CharSet.word CharSet.asciiWord
  | 'W' => o.shorthand false CharSet.word CharSet.asciiWord
  | 's' => o.shorthand true Text.isBlank CharSet.asciiSpace
  | 'S' => o.shorthand false Text.isBlank CharSet.asciiSpace
  | 'p' => return .set (← property o)
  | 'P' => return .set (← property o).complement
  | 'x' => return .char (← hexEscape o 2)
  | 'u' => return .char (← hexEscape o 4)
  | 'U' => return .char (← hexEscape o 8)
  | 'a' => return .char '\x07'
  | 'f' => return .char '\x0c'
  | 't' => return .char '\t'
  | 'n' => return .char '\n'
  | 'r' => return .char '\r'
  | 'v' => return .char '\x0b'
  | 'A' => return .boundary fun before _ => before.isNone
  | 'z' => return .boundary fun _ after => after.isNone
  | 'b' => wordBoundary o
  | 'B' => return .boundary fun before after => o.isWord before == o.isWord after
  | '<' => return .boundary fun before after => !o.isWord before && o.isWord after
  | '>' => return .boundary fun before after => o.isWord before && !o.isWord after
  | c => if c.toNat < 128 ∧ !c.isAlphanum then return .char c else failure

/-! ## Sets between square brackets -/

/-- An operation on two sets, written between them. -/
def setOperation? : List Char → Option (CharSet → CharSet → CharSet)
  | '&' :: '&' :: _ => some CharSet.intersection
  | '-' :: '-' :: _ => some CharSet.difference
  | '~' :: '~' :: _ => some CharSet.symmetricDifference
  | _ => none

/-- A set between square brackets as far as it has been read. -/
structure SetInProgress where
  /-- The set before the last operation, and that operation. -/
  before : Option (CharSet × (CharSet → CharSet → CharSet)) := none
  /-- The characters named since. -/
  named : CharSet := fun _ => false

namespace SetInProgress

/-- The set with further characters. -/
def add (s : SetInProgress) (more : CharSet) : SetInProgress :=
  { s with named := s.named.union more }

/-- The set so far, the last operation being carried out. -/
def value (o : Options) (s : SetInProgress) : CharSet :=
  match s.before with
  | some (left, operation) => operation (o.closed left) (o.closed s.named)
  | none => s.named

end SetInProgress

/-- A character or an escape between square brackets. -/
def setAtom (o : Options) : Reading Atom := do
  match ← next with
  | '\\' => escape o
  | c => return .char c

/-- The characters of an atom, which must not be a boundary. -/
def Atom.chars (o : Options) : Atom → Reading CharSet
  | .char c => if c.toNat < 128 ∨ o.unicode then return CharSet.single c else failure
  | .set s => return s
  | .boundary _ => failure

/-- What follows a hyphen, white space aside if it does not count. -/
def afterHyphen (o : Options) (rest : List Char) : Option Char :=
  (if o.spaced then rest.dropWhile Text.isBlank else rest).head?

/-- A character, an escape or a range. A hyphen before the closing bracket or another hyphen makes
no range. -/
def setItem (o : Options) : Reading CharSet := do
  let atom ← setAtom o
  skip o
  match ← get with
  | '-' :: rest =>
      if afterHyphen o rest = some ']' ∨ afterHyphen o rest = some '-' then
        atom.chars o
      else do
        set rest
        skip o
        match atom, ← setAtom o with
        | .char first, .char last =>
            if first ≤ last ∧ (last.toNat < 128 ∨ o.unicode) then
              return CharSet.range first last
            else
              failure
        | _, _ => failure
  | _ => atom.chars o

/-- The class of ASCII that is named between `[:` and `:]`, if one is, after the bracket. -/
def asciiClass? (o : Options) (rest : List Char) : Option (CharSet × List Char) := do
  match rest with
  | ':' :: text =>
      let (negated, text) := match text with
        | '^' :: text => (true, text)
        | _ => (false, text)
      let name := text.takeWhile (· != ':')
      let s ← CharSet.ofAsciiName? name
      match text.drop name.length with
      | ':' :: ']' :: rest =>
          return (if negated then (o.closed s).complement else o.closed s, rest)
      | _ => none
  | _ => none

/-- The beginning of a set: hyphens, and a closing bracket if it comes first, stand for
themselves. -/
def setOpening (o : Options) : Reading SetInProgress := do
  let hyphens ← pieces do
    skip o
    if ← accept ['-'] then return (false, ['-']) else return (true, [])
  let start : SetInProgress :=
    if hyphens.isEmpty then {} else { named := CharSet.single '-' }
  if hyphens.isEmpty then
    if ← accept [']'] then
      return start.add (CharSet.single ']')
  return start

/-- A set between square brackets, after the opening one. Sets nest at most the given number of
levels. -/
def bracketed (o : Options) : Nat → Reading CharSet
  | 0 => failure
  | depth + 1 => do
      skip o
      let negated ← accept ['^']
      let done ← repeating (fun s => do
        skip o
        let rest ← get
        match setOperation? rest with
        | some operation =>
            set (rest.drop 2)
            return (false, { before := some (s.value o, operation) })
        | none =>
            match rest with
            | ']' :: rest => set rest; return (true, s)
            | '[' :: rest =>
                set rest
                match asciiClass? o rest with
                | some (named, rest) => set rest; return (false, s.add named)
                | none => return (false, s.add (← bracketed o depth))
            | _ => return (false, s.add (← setItem o))) (← setOpening o)
      let s := o.closed (done.value o)
      return if negated then s.complement else s

end PocketCalculator.Pattern
